import CallEdits.Text.Basic

/-!
# Json/Basic — values of a configuration document

A document is a JSON value.  Whole numbers are exact; a number written with a point or an exponent
is a decimal, and what counts of it is the *binary fraction* nearest to it, with 53 significant bits
and the exponents of double precision.
-/

namespace CallEdits

/-- A number with a point or an exponent. -/
inductive Decimal
  /-- The number `digits · 10 ^ exponent`. -/
  | finite (digits exponent : Int)
  | infinite
  | notANumber
  deriving DecidableEq

/-- **A JSON value.**  The fields of an object stand in the order of the document, repeated ones
included. -/
inductive Json
  | null
  | bool (value : Bool)
  | int (value : Int)
  | decimal (value : Decimal)
  | text (value : Text)
  | list (items : List Json)
  | object (fields : List (Text × Json))

/-- The value of a field; of several fields of one name the last counts. -/
def Json.field? (fields : List (Text × Json)) (name : Text) : Option Json :=
  fields.reverse.lookup name

/-! ## The nearest binary fraction -/

namespace Decimal

/-- The whole number nearest to `n / d`; a half goes to the even neighbour. -/
def nearestQuotient (n d : Nat) : Nat :=
  let q := n / d
  let r := n % d
  if 2 * r < d then q else if d < 2 * r then q + 1 else q + q % 2

/-- The greatest `e` with `2 ^ e ≤ n / d`, for positive `n` and `d`. -/
def binaryExponent (n d : Nat) : Int :=
  let e : Int := (n.log2 : Int) - d.log2
  if n * Nat.pow 2 (-e).toNat < d * Nat.pow 2 e.toNat then e - 1 else e

/-- The binary fraction `s · 2 ^ q` nearest to `n / d`, as `(s, q)`. -/
def nearestBinary (n d : Nat) : Nat × Int :=
  let q := max (binaryExponent n d - 52) (-1074)
  (nearestQuotient (n * Nat.pow 2 (-q).toNat) (d * Nat.pow 2 q.toNat), q)

/-- What a decimal comes to. -/
inductive Size
  | whole (value : Int)
  | fractional
  | unbounded
  deriving DecidableEq

/-- The size of the number `n / d` after rounding. -/
def sizeOfQuotient (negative : Bool) (n d : Nat) : Size :=
  let (s, q) := nearestBinary n d
  let up := s * Nat.pow 2 q.toNat
  let down := Nat.pow 2 (-q).toNat
  if Nat.pow 2 1024 ≤ up then .unbounded
  else if up % down ≠ 0 then .fractional
  else .whole (if negative then -(up / down : Nat) else (up / down : Nat))

/-- **What a decimal comes to**: a whole number, a fraction, or nothing finite.  Exponents far out
of range are settled without being computed. -/
def size : Decimal → Size
  | infinite => .unbounded
  | notANumber => .unbounded
  | finite digits exponent =>
    let n := digits.natAbs
    let order := (Nat.toDigits 10 n).length + exponent
    if n = 0 then .whole 0
    else if 400 < order then .unbounded
    else if order < -400 then .whole 0
    else sizeOfQuotient (digits < 0) (n * Nat.pow 10 exponent.toNat)
      (Nat.pow 10 (-exponent).toNat)

end Decimal

end CallEdits
