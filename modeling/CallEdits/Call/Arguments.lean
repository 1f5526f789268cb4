import CallEdits.Call.Flaw

/-!
# Call/Arguments — the arguments of one call

The scan reads the text after a function's name: blanks, an opening parenthesis, and then one
character at a time until that parenthesis is closed.

    ⟨depth, quoted, escaped⟩ ──character──▸ ⟨depth, quoted, escaped⟩ ──…──▸ closed

A comma divides arguments only at depth one.  Between double quotes, parentheses and commas are
plain characters, and after a backslash every single character is, inside a string or not.  Comments
and character constants are not recognised.
-/

namespace CallEdits.Call

/-- **What the scan of one call gives**: its arguments without the blanks around them, the text
after the closing parenthesis, and the number of line breaks passed. -/
structure Arguments where
  arguments : List Text
  remainder : Text
  lines : Nat
  deriving DecidableEq

/-! ## The scan -/

/-- Where the scan stands.  `piece` is the argument being read and `pieces` are the finished ones,
both newest first. -/
structure Scan where
  depth : Nat := 1
  quoted : Bool := false
  escaped : Bool := false
  piece : Text := []
  pieces : List Text := []
  lines : Nat := 0
  deriving DecidableEq

namespace Scan

/-- Keep a character of the current argument. -/
def keep (s : Scan) (c : Char) : Scan := { s with piece := c :: s.piece }

/-- Finish the current argument. -/
def finish (s : Scan) : Scan := { s with piece := [], pieces := s.piece.reverse :: s.pieces }

/-- Note a line break. -/
def count (s : Scan) (c : Char) : Scan := if c = '\n' then { s with lines := s.lines + 1 } else s

/-- What a character does to a scan that is not escaped. -/
def plain (s : Scan) (c : Char) : Scan :=
  if c = '\\' then { s.keep c with escaped := true }
  else if c = '"' then { s.keep c with quoted := !s.quoted }
  else if s.quoted then s.keep c
  else if c = '(' then { s.keep c with depth := s.depth + 1 }
  else if c = ')' then { s.keep c with depth := s.depth - 1 }
  else if c = ',' ∧ s.depth = 1 then s.finish
  else s.keep c

/-- Does this character close the call? -/
def closes (s : Scan) (c : Char) : Bool :=
  !s.escaped && !s.quoted && c == ')' && s.depth == 1

/-- **One step of the scan**, for a character that does not close the call. -/
def step (s : Scan) (c : Char) : Scan :=
  if s.escaped then { (s.count c).keep c with escaped := false } else (s.count c).plain c

/-- The pieces between the parentheses, in the order of the text. -/
def done (s : Scan) : List Text := s.finish.pieces.reverse

end Scan

/-- The scan run to the closing parenthesis: its last state and the text after it. -/
def scan : Scan → Text → Except Flaw (Scan × Text)
  | s, [] => .error (.unclosed s.depth)
  | s, c :: r => if s.closes c then .ok (s, r) else scan (s.step c) r

/-- The arguments that the pieces stand for: one blank piece is no argument. -/
def argumentsOf (pieces : List Text) : List Text :=
  match pieces.map Text.trim with
  | [[]] => []
  | arguments => arguments

/-- **Split the arguments of a call**, given the text after the function's name. -/
def split (code : Text) : Except Flaw Arguments :=
  match code.dropWhile Text.isBlank with
  | [] => .error (.noOpening none)
  | c :: r =>
    if c = '(' then
      match scan { lines := Text.breaks (code.takeWhile Text.isBlank) } r with
      | .error flaw => .error flaw
      | .ok (s, rest) => .ok ⟨argumentsOf s.done, rest, s.lines⟩
    else .error (.noOpening (some c))

end CallEdits.Call
