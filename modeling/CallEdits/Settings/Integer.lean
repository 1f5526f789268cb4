import CallEdits.Numeral

/-!
# Settings/Integer — whole numbers written as text

    text ──▸ plain? ──no──▸ tidy ──▸ plain?

A text is *plain* if it is made of digits without a zero in front, perhaps after a minus sign.  Any
other text is tidied first: blanks around it, a plus sign, zeros in front, underscores between
digits, and a point with zeros after it are taken away.  What is left has to be plain.
-/

namespace CallEdits.Settings

/-- Why a text is no whole number. -/
inductive IntegerFlaw
  | malformed
  /-- There are more digits than may be read. -/
  | tooLarge
  deriving DecidableEq

/-! ## Plain numbers -/

/-- The number that a text of digits stands for.  The limit is checked on the digits in front,
before what follows them is looked at; a minus sign before them does not count. -/
def plainNatural (t : Text) : Except IntegerFlaw Nat :=
  let digits := t.takeWhile Char.isDigit
  if digits.isEmpty || (digits.head? = some '0' && 1 < digits.length) then .error .malformed
  else if Numeral.digitLimit < digits.length then .error .tooLarge
  else if digits.length < t.length then .error .malformed
  else .ok (Numeral.valueFrom 0 digits)

/-- The number that a plain text stands for. -/
def plainInteger (t : Text) : Except IntegerFlaw Int :=
  match t with
  | '-' :: r => (plainNatural r).map fun n => -(n : Int)
  | _ => (plainNatural t).map fun n => (n : Int)

/-! ## Tidying -/

/-- The blanks that may stand around a number written as text. -/
def isPadding (c : Char) : Bool := Text.isBlank c && !(0x1C ≤ c.toNat && c.toNat ≤ 0x1F)

/-- A text without the blanks around it. -/
def unpadded (t : Text) : Text := ((t.dropWhile isPadding).reverse.dropWhile isPadding).reverse

/-- May a number begin here, when zeros stand before it? -/
def isNumberStart (c : Char) : Bool := c.isDigit || c = '-'

/-- What follows the zeros and underscores in front, of which `last` was the last one.  It stays
where nothing follows, or a point. -/
def afterZeros? (last : Char) : Text → Option Text
  | [] => some [last]
  | c :: r =>
    if c = '0' || c = '_' then afterZeros? c r
    else if c = '.' then some (last :: c :: r)
    else if isNumberStart c then some (c :: r)
    else none

/-- A text without the zeros in front; `none` if no number can begin it. -/
def withoutZeros? : Text → Option Text
  | [] => none
  | c :: r => if c = '0' then afterZeros? c r else if isNumberStart c then some (c :: r) else none

/-- A text without its sign, if that is a plus, and without the zeros in front. -/
def withoutFront? : Text → Option Text
  | '+' :: '-' :: _ => none
  | '+' :: r => withoutZeros? r
  | '-' :: r => (withoutZeros? r).map ('-' :: ·)
  | t => withoutZeros? t

/-- A text without its first point, if only zeros follow it, and at least one. -/
def withoutPlaces (t : Text) : Text :=
  let whole := t.takeWhile (· ≠ '.')
  let places := t.drop (whole.length + 1)
  if !places.isEmpty && places.all (· = '0') then whole else t

/-- A text without its underscores, if each stands alone and between other characters. -/
def withoutUnderscores (t : Text) : Text :=
  let groups := t.splitOn '_'
  if groups.any List.isEmpty then t else groups.flatten

/-- A text in its tidy form. -/
def tidy? (t : Text) : Option Text :=
  (withoutFront? (unpadded t)).map fun t => withoutUnderscores (withoutPlaces t)

/-- **The whole number that a text spells.**  Only the text as it stands can be too large: what
tidying leaves is a number or malformed. -/
def integerOfText (t : Text) : Except IntegerFlaw Int :=
  match plainInteger t with
  | .error .malformed =>
    match (tidy? t).bind fun t => (plainInteger t).toOption with
    | none => .error .malformed
    | some n => .ok n
  | answer => answer

end CallEdits.Settings
