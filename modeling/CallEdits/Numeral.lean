import CallEdits.Text.Digit
import CallEdits.Text.Quoted

/-!
# Numeral — whole numbers as text

Line numbers are read from decimal digits of any script and written in ASCII ones.  Both directions
stop at `digitLimit` digits, so that no text of a report can ask for a conversion of unbounded cost.
-/

namespace CallEdits.Numeral

open Text (digitValue? isDecimal quoted)

/-- The most digits a number may have to be read or written. -/
def digitLimit : Nat := 4300

/-- Why a text is no number, or a number has no text. -/
inductive Fault
  /-- The text begins with more digits than may be read. -/
  | tooManyDigits (digits : Nat)
  /-- The text is not made of decimal digits alone. -/
  | notDecimal (text : Text)
  /-- The number has more digits than may be written. -/
  | tooLarge
  deriving DecidableEq

/-- The message of a fault.  A text is shown in at most 200 characters. -/
def Fault.message : Fault → Text
  | .tooManyDigits n =>
    "Exceeds the limit (4300 digits) for integer string conversion: value has ".toList
      ++ Nat.toDigits 10 n
      ++ " digits; use sys.set_int_max_str_digits() to increase the limit".toList
  | .notDecimal t => "invalid literal for int() with base 10: ".toList ++ (quoted t).take 200
  | .tooLarge =>
    ("Exceeds the limit (4300 digits) for integer string conversion; " ++
      "use sys.set_int_max_str_digits() to increase the limit").toList

/-! ## Reading -/

/-- The number that a run of decimal digits stands for, after the digits that gave `n`. -/
def valueFrom (n : Nat) (digits : Text) : Nat :=
  digits.foldl (fun m c => 10 * m + (digitValue? c).getD 0) n

/-- **Reading a number.**  The limit is checked on the digits in front, before what follows them
is looked at. -/
def read (t : Text) : Except Fault Nat :=
  let digits := t.takeWhile isDecimal
  if digitLimit < digits.length then .error (.tooManyDigits digits.length)
  else if t.isEmpty || digits.length < t.length then .error (.notDecimal t)
  else .ok (valueFrom 0 digits)

/-! ## Writing -/

/-- A number in decimal digits, without zeros in front. -/
def ofNat (n : Nat) : Text := Nat.toDigits 10 n

theorem ofNat_ne_nil (n : Nat) : ofNat n ≠ [] := Nat.toDigits_ne_nil

theorem isDigit_of_mem_ofNat {n : Nat} {c : Char} (h : c ∈ ofNat n) : c.isDigit = true :=
  Nat.isDigit_of_mem_toDigits (by decide) (by decide) h

/-- A number with a minus sign if it is negative. -/
def ofInt : Int → Text
  | .ofNat n => ofNat n
  | .negSucc n => '-' :: ofNat (n + 1)

/-- A number with its sign, `+` also before zero. -/
def signed (i : Int) : Text := if 0 ≤ i then '+' :: ofInt i else ofInt i

/-- Has `i` at most `digitLimit` digits? -/
def fits (i : Int) : Bool := (ofNat i.natAbs).length ≤ digitLimit

/-- **Writing a number** into a text that is produced. -/
def write (i : Int) : Except Fault Text := if fits i then .ok (ofInt i) else .error .tooLarge

end CallEdits.Numeral
