import CallEdits.Text.Basic

/-!
# Source/Lines — numbering the lines of source code

Lines are numbered from one and end with `'\n'` alone.  A last line without a break counts; the
nothing after a last break does not.
-/

namespace CallEdits.Source

/-- **The number of lines.** -/
def lineCount (code : Text) : Nat :=
  if code.isEmpty then 0
  else code.breaks + if code.getLast? = some '\n' then 0 else 1

/-- The start of `line` in a text that begins at `position` with line one. -/
def lineStartFrom (position : Nat) : Text → Int → Option Nat
  | [], line => if line ≤ 1 then some position else none
  | c :: r, line =>
    if line ≤ 1 then some position
    else lineStartFrom (position + 1) r (if c = '\n' then line - 1 else line)

/-- **The position of the first character of a line**, if so many breaks come before it.  Every
line up to the first starts at zero. -/
def lineStart? (code : Text) (line : Int) : Option Nat := lineStartFrom 0 code line

end CallEdits.Source
