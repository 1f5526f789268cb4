import CallEdits.Call.Arguments
import CallEdits.Call.Find
import CallEdits.Policy
import CallEdits.Session
import CallEdits.Source.Lines
import CallEdits.Text.LowerCase

/-!
# Editor — replacing the calls that a report lists

A report numbers the lines of the files as they were before the run.  Replacing a call may add lines
to its file or take some away, so the session keeps the sum for each file, and the following
locations of the file are shifted by it.

    location ──shift──▸ line ──find──▸ call ──split──▸ site ──policy──▸ replacement ──▸ file

Each location is one reading and one writing of its file.  The first failure ends the run; what was
written before stays.
-/

namespace CallEdits

/-- **What is done to which calls.** -/
structure Editor where
  /-- The function whose calls are replaced. -/
  function : Text
  /-- What a call becomes. -/
  policy : Call.Site → Except Failure Text
  /-- Files with these endings hold declarations and are passed over. -/
  declarationSuffixes : List Text := [".h".toList]

/-- **A replaced call.** -/
structure Record where
  location : Location
  resolvedLine : Int
  replacement : Text
  /-- The lines added to the file. -/
  delta : Int
  deriving DecidableEq

/-- What an edit does to a text. -/
structure Edit where
  record : Record
  /-- The number of arguments of the call. -/
  arguments : Nat
  /-- The new text. -/
  code : Text
  deriving DecidableEq

namespace Editor

/-- **Does this file hold declarations?**  Its path is compared in small letters. -/
def isDeclaration (e : Editor) (path : Text) : Bool :=
  e.declarationSuffixes.any fun ending => ending.isSuffixOf path.lower

/-! ## One text -/

/-- The failure for a line that the file does not have. -/
def overflow (path : Text) (target : Int) (total : Nat) : Failure :=
  .ofFault (.overflow (some path) (some target) (some total))

/-- Replace the first call in `suffix`, the text from line `target` on. -/
def editFrom (e : Editor) (location : Location) (target index : Int) (code start suffix : Text) :
    Except Failure Edit :=
  match Call.find e.function suffix with
  | none =>
    .error (.ofFault (.notFound (some location.path) (some location.line) (some target)
      (some e.function)))
  | some found =>
    match Call.split found.after with
    | .error flaw =>
      .error (.ofFault (.call (.resolved flaw target) (some location.path) (some location.line)))
    | .ok call =>
      let site : Call.Site :=
        { path := location.path, line := location.line, resolvedLine := target,
          function := e.function, arguments := call.arguments, index := index,
          indent := Call.indentAfter (start ++ found.before), newline := Call.newlineOf code }
      match e.policy site with
      | .error failure => .error failure
      | .ok replacement =>
        let delta : Int := (replacement.breaks : Int) - (found.gap.breaks + call.lines)
        .ok ⟨⟨location, target, replacement, delta⟩, call.arguments.length,
          start ++ found.before ++ replacement ++ call.remainder⟩

/-- **Replace the first call at or after a line of a text.** -/
def edit (e : Editor) (location : Location) (target index : Int) (code : Text) :
    Except Failure Edit :=
  let total := Source.lineCount code
  if target < 1 ∨ (total : Int) < target then .error (overflow location.path target total)
  else
    match Source.lineStart? code target with
    | none => .error .noSuchLine
    | some position =>
      e.editFrom location target index code (code.take position) (code.drop position)

/-! ## One location -/

/-- Write an edited text and add up the lines. -/
def commit (location : Location) (shift : Int) (s : Session) (edit : Edit) :
    Except Failure (Option Record) × Session :=
  match s.write location.path edit.code with
  | (.error failure, s) => (.error failure, s)
  | (.ok (), s) =>
    (.ok (some edit.record),
      { s with shifts := Table.put location.path (shift + edit.record.delta) s.shifts }.note
        (.replaced location edit.arguments edit.record.delta))

/-- **Replace the call at a location.**  Nothing is done in a declaration file. -/
def replaceAt (e : Editor) (location : Location) (index : Int) (s : Session) :
    Except Failure (Option Record) × Session :=
  if e.isDeclaration location.path then (.ok none, s.note (.skip location))
  else
    let shift := s.shift location.path
    let target := location.line + shift
    match (s.note (.begin location shift target)).load location.path with
    | (.error failure, s) => (.error failure, s)
    | (.ok code, s) =>
      match e.edit location target index code with
      | .error failure => (.error failure, s)
      | .ok edit => commit location shift s edit

/-! ## A whole run -/

/-- Replace the calls at locations in this order, after the records in `done`, newest first. -/
def runFrom (e : Editor) (done : List Record) :
    List Location → Session → Except Failure (List Record) × Session
  | [], s => (.ok done.reverse, s.note (.finished done.length))
  | location :: rest, s =>
    match e.replaceAt location done.length s with
    | (.error failure, s) => (.error failure, s)
    | (.ok none, s) => runFrom e done rest s
    | (.ok (some record), s) => runFrom e (record :: done) rest s

/-- **Replace the calls at all locations**, by path and line. -/
def run (e : Editor) (locations : List Location) (s : Session) :
    Except Failure (List Record) × Session :=
  e.runFrom [] (Location.sort locations) s

end Editor

end CallEdits
