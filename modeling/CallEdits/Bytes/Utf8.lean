import CallEdits.Text.Basic

/-!
# Bytes/Utf8 — characters as one to four bytes

    0xxxxxxx   110xxxxx 10xxxxxx   1110xxxx 10xxxxxx 10xxxxxx   11110xxx 10xxxxxx 10xxxxxx 10xxxxxx

A character has one form only: the second byte is bounded after some first bytes, so that no shorter
form is bypassed and no surrogate or number beyond the last character is reached.  Decoding stops at
the first byte that cannot stand where it does, and blames the bytes of the character read so far.
-/

namespace CallEdits

/-- File contents. -/
abbrev Bytes := List UInt8

namespace Utf8

/-! ## Encoding -/

/-- The bytes of one character. -/
def encodeChar (c : Char) : Bytes :=
  let n := c.toNat
  if n < 0x80 then [n.toUInt8]
  else if n < 0x800 then [(0xC0 + n / 0x40).toUInt8, (0x80 + n % 0x40).toUInt8]
  else if n < 0x10000 then
    [(0xE0 + n / 0x1000).toUInt8, (0x80 + n / 0x40 % 0x40).toUInt8, (0x80 + n % 0x40).toUInt8]
  else
    [(0xF0 + n / 0x40000).toUInt8, (0x80 + n / 0x1000 % 0x40).toUInt8,
      (0x80 + n / 0x40 % 0x40).toUInt8, (0x80 + n % 0x40).toUInt8]

/-- **A text as bytes.** -/
def encode (t : Text) : Bytes := t.flatMap encodeChar

/-! ## Decoding -/

/-- Why bytes are not the form of a character. -/
inductive Reason
  | invalidStart
  | invalidContinuation
  | unexpectedEnd
  deriving DecidableEq

/-- The first place where decoding stops: its position, the bytes to blame, and why. -/
structure Flaw where
  position : Nat
  blamed : Bytes
  reason : Reason
  deriving DecidableEq

/-- Is this a byte after the first of a character? -/
def isContinuation (b : UInt8) : Bool := 0x80 ≤ b && b ≤ 0xBF

/-- May `b` be the second byte after `first`? -/
def isSecond (first b : UInt8) : Bool :=
  let low := if first = 0xE0 then 0xA0 else if first = 0xF0 then 0x90 else 0x80
  let high := if first = 0xED then 0x9F else if first = 0xF4 then 0x8F else 0xBF
  low ≤ b && b ≤ high

/-- The number in the low bits of a first byte, followed by those of continuation bytes. -/
def number (lead : Nat) (continuation : Bytes) : Char :=
  Char.ofNat (continuation.foldl (fun n b => n * 0x40 + (b.toNat - 0x80)) lead)

/-- Decode the bytes from `position` on, after the characters in `done`, newest first. -/
def decodeFrom (position : Nat) (done : Text) : Bytes → Except Flaw Text
  | [] => .ok done.reverse
  | a :: rest =>
    if a < 0x80 then decodeFrom (position + 1) (number a.toNat [] :: done) rest
    else if a < 0xC2 || 0xF4 < a then .error ⟨position, [a], .invalidStart⟩
    else
      match rest with
      | [] => .error ⟨position, [a], .unexpectedEnd⟩
      | b :: rest =>
        if !isSecond a b then .error ⟨position, [a], .invalidContinuation⟩
        else if a < 0xE0 then decodeFrom (position + 2) (number (a.toNat - 0xC0) [b] :: done) rest
        else
          match rest with
          | [] => .error ⟨position, [a, b], .unexpectedEnd⟩
          | c :: rest =>
            if !isContinuation c then .error ⟨position, [a, b], .invalidContinuation⟩
            else if a < 0xF0 then
              decodeFrom (position + 3) (number (a.toNat - 0xE0) [b, c] :: done) rest
            else
              match rest with
              | [] => .error ⟨position, [a, b, c], .unexpectedEnd⟩
              | d :: rest =>
                if !isContinuation d then .error ⟨position, [a, b, c], .invalidContinuation⟩
                else decodeFrom (position + 4) (number (a.toNat - 0xF0) [b, c, d] :: done) rest

/-- **The text of some bytes**, or the first flaw in them. -/
def decode (bs : Bytes) : Except Flaw Text := decodeFrom 0 [] bs

end Utf8

end CallEdits
