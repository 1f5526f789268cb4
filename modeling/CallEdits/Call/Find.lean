import CallEdits.Text.Basic

/-!
# Call/Find — the first call of a function

A call is the function's name, not preceded by a word character, then any blanks and an opening
parenthesis.  The first such place in a text is taken, also inside a comment or a string.
-/

namespace CallEdits.Call

/-- **A call found in a text**, which is `before ++ name ++ gap ++ after`. -/
structure Found where
  /-- The text before the function's name. -/
  before : Text
  /-- The blanks between the name and the opening parenthesis. -/
  gap : Text
  /-- The text from the opening parenthesis on. -/
  after : Text
  deriving DecidableEq

/-- The blanks after `name` and the text from `(` on, if the text begins with a call. -/
def callAt? (name code : Text) : Option (Text × Text) :=
  if name.isPrefixOf code then
    let rest := code.drop name.length
    match rest.dropWhile Text.isBlank with
    | '(' :: r => some (rest.takeWhile Text.isBlank, '(' :: r)
    | _ => none
  else none

/-- May a name begin after this text, given newest first? -/
def standsFree (before : Text) : Bool := (before.head?.all fun c => !Text.isWordChar c)

/-- The first call in `code`, which follows the text `before`, given newest first. -/
def findFrom (name before : Text) : Text → Option Found
  | [] => none
  | c :: r =>
    match if standsFree before then callAt? name (c :: r) else none with
    | some (gap, after) => some ⟨before.reverse, gap, after⟩
    | none => findFrom name (c :: before) r

/-- **The first call of `name` in `code`.** -/
def find (name code : Text) : Option Found := findFrom name [] code

end CallEdits.Call
