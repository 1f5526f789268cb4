import CallEdits.Json.Basic
import CallEdits.Numeral

/-!
# Json/Reader — reading a configuration document

The reader takes strict JSON: no comments, no comma before a closing bracket, no zero in front of a
number, no control character in a string, nothing after the value.  `NaN`, `Infinity` and
`-Infinity` are read as numbers.  Lists and objects that hold something nest at most `depthLimit`
deep, and the whole part of a number has at most `Numeral.digitLimit` digits, its sign not counted.
-/

namespace CallEdits.Json

/-- How deep lists and objects that are not empty may nest. -/
def depthLimit : Nat := 200

/-- The characters that may stand between the parts of a document. -/
def isSpace (c : Char) : Bool := c = ' ' || c = '\t' || c = '\n' || c = '\r'

/-- What follows the space in front. -/
def skipSpace (t : Text) : Text := t.dropWhile isSpace

/-! ## Strings -/

/-- The value of a hexadecimal digit. -/
def hexValue? (c : Char) : Option Nat :=
  if '0' ≤ c && c ≤ '9' then some (c.toNat - 48)
  else if 'a' ≤ c && c ≤ 'f' then some (c.toNat - 87)
  else if 'A' ≤ c && c ≤ 'F' then some (c.toNat - 55)
  else none

/-- The number that four hexadecimal digits stand for. -/
def unit? (a b c d : Char) : Option Nat := do
  return (((← hexValue? a) * 16 + (← hexValue? b)) * 16 + (← hexValue? c)) * 16 + (← hexValue? d)

/-- The character that a letter stands for after a backslash. -/
def escaped? (c : Char) : Option Char :=
  match c with
  | '"' => some '"'
  | '\\' => some '\\'
  | '/' => some '/'
  | 'b' => some '\x08'
  | 'f' => some '\x0c'
  | 'n' => some '\n'
  | 'r' => some '\r'
  | 't' => some '\t'
  | _ => none

/-- The character of two surrogate units, or of one unit that is no surrogate. -/
def ofUnits? (high : Nat) (low : Option Nat) : Option Char :=
  match low with
  | none => if 0xD800 ≤ high && high < 0xE000 then none else some (Char.ofNat high)
  | some low =>
    if 0xD800 ≤ high && high < 0xDC00 && 0xDC00 ≤ low && low < 0xE000 then
      some (Char.ofNat (0x10000 + (high - 0xD800) * 0x400 + (low - 0xDC00)))
    else none

/-- The rest of a string and the text after it; `done` holds its first characters, newest first. -/
def stringFrom (done : Text) : Text → Option (Text × Text)
  | [] => none
  | '"' :: r => some (done.reverse, r)
  | '\\' :: 'u' :: a :: b :: c :: d :: r =>
    match unit? a b c d with
    | none => none
    | some high =>
      match ofUnits? high none with
      | some ch => stringFrom (ch :: done) r
      | none =>
        match r with
        | '\\' :: 'u' :: a :: b :: c :: d :: r =>
          match (unit? a b c d).bind fun low => ofUnits? high (some low) with
          | some ch => stringFrom (ch :: done) r
          | none => none
        | _ => none
  | '\\' :: c :: r =>
    match escaped? c with
    | some ch => stringFrom (ch :: done) r
    | none => none
  | c :: r => if c.toNat < 0x20 || c = '\\' then none else stringFrom (c :: done) r

/-! ## Numbers -/

/-- The ASCII digits in front of a text, and the text after them. -/
def digits (t : Text) : Text × Text := (t.takeWhile Char.isDigit, t.dropWhile Char.isDigit)

/-- The digits after a point, if there is one; `none` if no digit follows it. -/
def fraction? (t : Text) : Option (Text × Text) :=
  match t with
  | '.' :: r => if (digits r).1.isEmpty then none else some (digits r)
  | _ => some ([], t)

/-- The exponent, if there is one; `none` if no digit follows its mark. -/
def exponent? (t : Text) : Option (Option Int × Text) :=
  let after (negative : Bool) (r : Text) : Option (Option Int × Text) :=
    let (ds, rest) := digits r
    let n : Int := Numeral.valueFrom 0 ds
    if ds.isEmpty then none else some (some (if negative then -n else n), rest)
  match t with
  | c :: r =>
    if c = 'e' || c = 'E' then
      match r with
      | '-' :: r => after true r
      | '+' :: r => after false r
      | _ => after false r
    else some (none, t)
  | [] => some (none, t)

/-- A number without its sign, which is no digit: a negative number may have as many digits as any
other. -/
def unsigned? (negative : Bool) (t : Text) : Option (Json × Text) := do
  let (whole, t) := digits t
  if whole.isEmpty || (whole.head? = some '0' && 1 < whole.length) then none
  else if Numeral.digitLimit < whole.length then none
  else
    let (places, t') ← fraction? t
    let (power, rest) ← exponent? t'
    let magnitude : Int := Numeral.valueFrom 0 (whole ++ places)
    let n := if negative then -magnitude else magnitude
    if places.isEmpty && power.isNone then some (.int n, rest)
    else some (.decimal (.finite n (power.getD 0 - places.length)), rest)

/-- A number at the start of a text, and what follows it. -/
def number? : Text → Option (Json × Text)
  | '-' :: r => unsigned? true r
  | t => unsigned? false t

/-! ## Values -/

/-- What remains after a word. -/
def afterWord? (word : String) (t : Text) : Option Text :=
  if word.toList.isPrefixOf t then some (t.drop word.length) else none

/-- A value that is one word. -/
def word? (t : Text) : Option (Json × Text) :=
  let words : List (String × Json) :=
    [("null", .null), ("true", .bool true), ("false", .bool false), ("NaN", .decimal .notANumber),
      ("Infinity", .decimal .infinite), ("-Infinity", .decimal .infinite)]
  words.findSome? fun entry => (afterWord? entry.1 t).map fun rest => (entry.2, rest)

mutual

/-- A value at the start of a text, in `fuel` steps and at most `depth` levels. -/
def value? (fuel depth : Nat) (t : Text) : Option (Json × Text) :=
  match fuel with
  | 0 => none
  | fuel + 1 =>
    match t with
    | '"' :: r => (stringFrom [] r).map fun (s, rest) => (.text s, rest)
    | '[' :: r =>
      match skipSpace r with
      | ']' :: rest => some (.list [], rest)
      | r => if depth = 0 then none else items? fuel (depth - 1) [] r
    | '{' :: r =>
      match skipSpace r with
      | '}' :: rest => some (.object [], rest)
      | r => if depth = 0 then none else fields? fuel (depth - 1) [] r
    | _ => (word? t).or (number? t)

/-- The items of a list from the next one on, after those in `done`, newest first. -/
def items? (fuel depth : Nat) (done : List Json) (t : Text) : Option (Json × Text) :=
  match fuel with
  | 0 => none
  | fuel + 1 =>
    match value? fuel depth t with
    | none => none
    | some (v, r) =>
      match skipSpace r with
      | ',' :: r => items? fuel depth (v :: done) (skipSpace r)
      | ']' :: r => some (.list (v :: done).reverse, r)
      | _ => none

/-- The fields of an object from the next one on, after those in `done`, newest first. -/
def fields? (fuel depth : Nat) (done : List (Text × Json)) (t : Text) : Option (Json × Text) :=
  match fuel with
  | 0 => none
  | fuel + 1 =>
    match t with
    | '"' :: r =>
      match stringFrom [] r with
      | none => none
      | some (name, r) =>
        match skipSpace r with
        | ':' :: r =>
          match value? fuel depth (skipSpace r) with
          | none => none
          | some (v, r) =>
            match skipSpace r with
            | ',' :: r => fields? fuel depth ((name, v) :: done) (skipSpace r)
            | '}' :: r => some (.object ((name, v) :: done).reverse, r)
            | _ => none
        | _ => none
    | _ => none

end

/-- A document in which lists and objects that are not empty nest at most `depth` deep. -/
def readWithin? (depth : Nat) (t : Text) : Option Json :=
  match value? (2 * t.length + 2) depth (skipSpace t) with
  | some (v, rest) => if (skipSpace rest).isEmpty then some v else none
  | none => none

/-- **Read a document.** -/
def read? (t : Text) : Option Json := readWithin? depthLimit t

end CallEdits.Json
