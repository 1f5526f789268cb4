import CallEdits.Text.Basic

/-!
# Path — names of files

A path is read once into its parts: empty parts and `.` say nothing and are dropped, while `..` is
kept, as what it leads to depends on the directory before it.  A path that begins with a slash is
anchored, and joining it to another replaces that one.
-/

namespace CallEdits

/-- What a path starts from. -/
inductive Anchor
  /-- The working directory. -/
  | here
  /-- The root, written with one slash. -/
  | root
  /-- The root, written with exactly two slashes. -/
  | doubleRoot
  deriving DecidableEq

/-- **A path**: where it starts, and its parts. -/
structure Path where
  anchor : Anchor := .here
  parts : List Text := []
  deriving DecidableEq

namespace Path

/-- The parts of a text, between slashes. -/
def partsOf (t : Text) : List Text :=
  (t.splitOn '/').filter fun part => !part.isEmpty && part ≠ ['.']

/-- **The path that a text names.** -/
def ofText (t : Text) : Path :=
  let anchor := match (t.takeWhile (· = '/')).length with
    | 0 => Anchor.here
    | 2 => .doubleRoot
    | _ => .root
  ⟨anchor, partsOf t⟩

/-- The slashes in front of a path. -/
def Anchor.text : Anchor → Text
  | .here => []
  | .root => ['/']
  | .doubleRoot => ['/', '/']

/-- **The text of a path**; a path without parts that starts here is `.`. -/
def text (p : Path) : Text :=
  let t := Anchor.text p.anchor ++ Text.join ['/'] p.parts
  if t.isEmpty then ['.'] else t

/-- A path seen from another one. -/
def append (base p : Path) : Path :=
  if p.anchor = .here then { base with parts := base.parts ++ p.parts } else p

/-- `base ++ p` is `p` as seen from `base`. -/
instance : Append Path := ⟨append⟩

/-- The path with `extra` put after its last part, if it has one. -/
def extend? (p : Path) (extra : Text) : Option Path :=
  match p.parts.getLast? with
  | none => none
  | some last => some { p with parts := p.parts.dropLast ++ [last ++ extra] }

end Path

end CallEdits
