import CallEdits.Report.Flaw
import CallEdits.Text.Lines

/-!
# Report/Outline — the lines of a report that count

A report of usages is a tree drawn by indentation.  Its shallow lines frame the tree and are
dropped; of the others each is a *heading*,

    name  (3 usages found)

which names a directory, a file or a function, or a *call*,

    12 set_error(TAG, value);

which gives a line number and the code found there.  Which of the three a heading names is not
written on it.
-/

namespace CallEdits.Report

/-- **How a report is laid out**: the columns of one level, and the deepest level that is
dropped. -/
structure Layout where
  indentUnit : Int := 4
  marginThreshold : Int := 2
  deriving DecidableEq

/-- What a line of the outline holds. -/
inductive Item
  /-- A directory, a file or a function. -/
  | heading (name : Text)
  /-- A call at a line of the file. -/
  | call (line : Nat)
  deriving DecidableEq

/-- **A line of the outline**, with its level and its place in the report. -/
structure Node where
  margin : Int
  position : Nat
  item : Item
  deriving DecidableEq

/-! ## Reading one line -/

/-- The digits in front of a call line: a space and some code follow them. -/
def callDigits? (body : Text) : Option Text :=
  let digits := body.takeWhile Text.isDecimal
  match body.drop digits.length with
  | ' ' :: _ :: _ => if digits.isEmpty then none else some digits
  | _ => none

/-- What remains of `t` after `start`, if it begins so. -/
def afterStart? (start t : Text) : Option Text :=
  if start.isPrefixOf t then some (t.drop start.length) else none

/-- The name on a heading.  The line is read from its end: blanks, `found)`, `usage` or `usages`, a
count, and an opening parenthesis after two spaces. -/
def headingName? (body : Text) : Option Text := do
  let counted ← afterStart? ")dnuof ".toList (body.reverse.dropWhile Text.isBlank)
  let counted := if counted.head? = some 's' then counted.drop 1 else counted
  let counted ← afterStart? "egasu ".toList counted
  let digits := counted.takeWhile Text.isDecimal
  let name ← afterStart? "(  ".toList (counted.drop digits.length)
  if digits.isEmpty || name.isEmpty then none else some name.reverse

/-- **Read one line of a report**: `none` for a line that is blank or too shallow. -/
def readLine (layout : Layout) (position : Nat) (raw : Text) : Except Failure (Option Node) :=
  let body := raw.dropWhile (· = ' ')
  if body.all Text.isBlank then .ok none
  else if layout.indentUnit = 0 then .error .zeroIndent
  else
    let margin := Int.fdiv ((raw.length : Int) - body.length) layout.indentUnit
    if margin ≤ layout.marginThreshold then .ok none
    else
      match callDigits? body with
      | some digits =>
        match Numeral.read digits with
        | .error fault => .error (.numeral fault)
        | .ok line => .ok (some ⟨margin, position, .call line⟩)
      | none =>
        match headingName? body with
        | some name => .ok (some ⟨margin, position, .heading name⟩)
        | none => .error (.malformed (.unexpected raw) position)

/-! ## Reading all lines -/

/-- The outline of the lines from `position` on. -/
def outlineFrom (layout : Layout) (position : Nat) : List Text → Except Failure (List Node)
  | [] => .ok []
  | raw :: rest =>
    match readLine layout position raw with
    | .error failure => .error failure
    | .ok node? =>
      match outlineFrom layout (position + 1) rest with
      | .error failure => .error failure
      | .ok nodes => .ok (node?.toList ++ nodes)

/-- **The outline of a report.**  The first line that cannot be read is the one complained of. -/
def outline (layout : Layout) (text : Text) : Except Failure (List Node) :=
  outlineFrom layout 1 text.lines

end CallEdits.Report
