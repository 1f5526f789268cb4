import CallEdits.Event
import CallEdits.Store

/-!
# Session — the state of a run

A session holds the disk, a store through which source files are loaded and written, the lines added
to each file so far, and the log.  Every operation gives its result, or a failure, together with the
session it leaves; a failure, too, leaves what was done before it.
-/

namespace CallEdits

/-- **The state of a run.**  The log is kept newest first. -/
structure Session where
  disk : Disk
  store : Store
  shifts : List (Text × Int) := []
  log : List Event := []
  deriving DecidableEq

namespace Session

/-- Add an event to the log. -/
def note (s : Session) (e : Event) : Session := { s with log := e :: s.log }

/-- The lines added to a file so far. -/
def shift (s : Session) (path : Text) : Int := (s.shifts.lookup path).getD 0

/-- Load a file from the disk. -/
def loadFile (s : Session) (path : Text) : Except Failure Text × Session :=
  let target := s.store.resolve path
  (s.disk.readText target s.store.encoding, s.note (.load target))

/-- **Load the text of a file**, as the run has left it. -/
def load (s : Session) (path : Text) : Except Failure Text × Session :=
  match s.store.mode with
  | .inPlace _ => s.loadFile path
  | .dry =>
    match s.store.overlay.lookup path with
    | some code => (.ok code, s.note (.loadOverlay path))
    | none => s.loadFile path

/-- **Make a backup** beside the file: the text is read and written again under the longer name. -/
def backUp (s : Session) (path : Text) : Except Failure Unit × Session :=
  let target := s.store.resolve path
  match target.extend? ".bak".toList with
  | none => (.error (.disk (.nameless target)), s)
  | some copy =>
    match s.disk.readText target s.store.encoding with
    | .error failure => (.error failure, s)
    | .ok code =>
      match s.disk.writeText copy s.store.encoding code with
      | (.error failure, disk) => (.error failure, { s with disk })
      | (.ok (), disk) =>
        (.ok (), { s with disk, store.backedUp := path :: s.store.backedUp }.note (.backup copy))

/-- Write a file to the disk. -/
def writeFile (s : Session) (path code : Text) : Except Failure Unit × Session :=
  let target := s.store.resolve path
  let s := s.note (.write target)
  match s.disk.writeText target s.store.encoding code with
  | (.error failure, disk) => (.error failure, { s with disk })
  | (.ok (), disk) => (.ok (), { s with disk, store.written := path :: s.store.written })

/-- **Write the text of a file.** -/
def write (s : Session) (path code : Text) : Except Failure Unit × Session :=
  match s.store.mode with
  | .dry =>
    (.ok (), { s with store.overlay := Table.put path code s.store.overlay }.note
      (.writeOverlay path))
  | .inPlace backup =>
    if backup && !s.store.backedUp.contains path then
      match s.backUp path with
      | (.error failure, s) => (.error failure, s)
      | (.ok (), s) => s.writeFile path code
    else s.writeFile path code

end Session

end CallEdits
