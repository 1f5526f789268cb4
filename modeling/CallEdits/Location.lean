import CallEdits.Numeral

/-!
# Location — where a report says a call stands

A `Location` is a path and a line number, written `path:line`.  Locations are put in order by path,
then by line; a run handles them in that order.
-/

namespace CallEdits

/-- **A call site as a report names it**: the path as it is written there, and the line in the file
before any edit. -/
structure Location where
  path : Text
  line : Int
  deriving DecidableEq

namespace Location

/-- A location written `path:line`. -/
def render (l : Location) : Text := l.path ++ ':' :: Numeral.ofInt l.line

/-! ## Reading a location -/

/-- Why a text is no location. -/
inductive Fault
  /-- There is no colon, nothing before the last one, or no digits after it. -/
  | noLocation (text : Text)
  /-- What follows the last colon looks like digits but is no number. -/
  | numeral (fault : Numeral.Fault)
  deriving DecidableEq

/-- What is said about a text that is no location. -/
def Fault.message : Fault → Text
  | .noLocation t => "not a 'path:line' location: ".toList ++ Text.quoted t
  | .numeral f => f.message

/-- The text before and after the last colon. -/
def cutAtLastColon (t : Text) : Option (Text × Text) :=
  let line := t.reverse.takeWhile (· ≠ ':')
  match t.reverse.drop line.length with
  | [] => none
  | _ :: path => some (path.reverse, line.reverse)

/-- **Reading a location**: everything before the last colon is the path. -/
def parse (t : Text) : Except Fault Location :=
  match cutAtLastColon t with
  | none => .error (.noLocation t)
  | some (path, line) =>
    if path.isEmpty || line.isEmpty || !line.all Text.isDigitLike then .error (.noLocation t)
    else
      match Numeral.read line with
      | .error f => .error (.numeral f)
      | .ok n => .ok ⟨path, n⟩

/-! ## The order of locations -/

/-- By path in code-point order, then by line. -/
def le (a b : Location) : Bool := decide (a.path < b.path ∨ a.path = b.path ∧ a.line ≤ b.line)

/-- Locations in the order in which a run handles them. -/
def sort (ls : List Location) : List Location := ls.mergeSort le

end Location

end CallEdits
