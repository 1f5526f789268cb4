import CallEdits.Disk.TextFile

/-!
# Store — source files as a run sees them

A store works *in place*, where the first write of a file may be preceded by a backup, or *dry*,
where writes go to an overlay that later loads see and the disk stays as it is.

Overlay and backups are kept by the path as it is written in a location, so two spellings of one
file are two files here.
-/

namespace CallEdits

/-- How a store writes. -/
inductive Store.Mode
  /-- Files are written, after a backup of each if `backup` holds. -/
  | inPlace (backup : Bool)
  /-- Nothing is written. -/
  | dry
  deriving DecidableEq

/-- **A store of source files** below a root. -/
structure Store where
  root : Path := {}
  encoding : Text := "utf-8".toList
  mode : Store.Mode := .inPlace false
  /-- The paths of which a backup was made. -/
  backedUp : List Text := []
  /-- The paths that were written, newest first. -/
  written : List Text := []
  /-- The texts that a dry store holds back. -/
  overlay : List (Text × Text) := []
  deriving DecidableEq

namespace Store

/-- Where a path leads from the root. -/
def resolve (s : Store) (path : Text) : Path := s.root ++ Path.ofText path

/-- The paths that were changed, in order and without repetition. -/
def changed (s : Store) : List Text :=
  match s.mode with
  | .dry => Text.sort (s.overlay.map Prod.fst)
  | .inPlace _ => Text.sort s.written.eraseDups

end Store

end CallEdits
