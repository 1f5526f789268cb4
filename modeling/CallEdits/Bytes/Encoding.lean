import CallEdits.Bytes.Utf8
import CallEdits.Numeral

/-!
# Bytes/Encoding — files as text

Four encodings are known, each under several names: UTF-8, UTF-8 with a signature, ASCII and
Latin-1.  A name is compared without regard to case and punctuation.  Reading under an unknown name,
bytes that stand for no character, and characters that have no bytes are faults.
-/

namespace CallEdits

/-- **A way to write text as bytes.** -/
inductive Encoding
  | utf8
  /-- UTF-8 with a byte-order mark in front. -/
  | utf8Signed
  | ascii
  | latin1
  deriving DecidableEq

namespace Encoding

/-! ## Names -/

/-- The name used in messages. -/
def name : Encoding → Text
  | utf8 => "utf-8".toList
  | utf8Signed => "utf-8".toList
  | ascii => "ascii".toList
  | latin1 => "latin-1".toList

/-- The plain form of a name: small letters, digits and dots, with one underscore for whatever
stands between them. -/
def plainName (name : Text) : Text :=
  go false name
where
  go (gap : Bool) : Text → Text
    | [] => []
    | c :: r =>
      if c.isAlphanum || c = '.' then
        (if gap then ['_'] else []) ++ c.toLower :: go false r
      else go true r

/-- The plain name without an underscore in front. -/
def key (name : Text) : Text := (plainName name).dropWhile (· = '_')

/-- The names of an encoding that may also be written with dots for underscores. -/
def aliases : List (String × Encoding) := [
    ("u8", utf8), ("utf", utf8), ("utf8", utf8), ("utf8_ucs2", utf8), ("utf8_ucs4", utf8),
    ("cp65001", utf8),
    ("646", ascii), ("ansi_x3.4_1968", ascii), ("ansi_x3_4_1968", ascii),
    ("ansi_x3.4_1986", ascii), ("cp367", ascii), ("csascii", ascii), ("ibm367", ascii),
    ("iso646_us", ascii), ("iso_646.irv_1991", ascii), ("iso_ir_6", ascii), ("us", ascii),
    ("us_ascii", ascii),
    ("8859", latin1), ("cp819", latin1), ("csisolatin1", latin1), ("ibm819", latin1),
    ("iso8859", latin1), ("iso8859_1", latin1), ("iso_8859_1", latin1),
    ("iso_8859_1_1987", latin1), ("iso_ir_100", latin1), ("l1", latin1), ("latin", latin1),
    ("latin1", latin1)]

/-- The names that are written with underscores only. -/
def properNames : List (String × Encoding) :=
  [("utf_8", utf8), ("utf_8_sig", utf8Signed), ("ascii", ascii), ("latin_1", latin1)]

/-- The encoding under a plain name in a list of names. -/
def lookUp (names : List (String × Encoding)) (key : Text) : Option Encoding :=
  (names.find? fun entry => entry.1.toList = key).map Prod.snd

/-- **The encoding of a name**, if it is known. -/
def ofName? (name : Text) : Option Encoding :=
  let plain := key name
  (lookUp aliases plain).or
    ((lookUp aliases (plain.map fun c => if c = '.' then '_' else c)).or
      (lookUp properNames plain))

/-! ## Faults -/

/-- **Why text and bytes do not match.** -/
inductive Fault
  /-- No encoding has this name. -/
  | unknown (name : Text)
  /-- The name holds a null character. -/
  | nullName
  /-- Some bytes of a file stand for no character. -/
  | badBytes (encoding : Encoding) (position : Nat) (blamed : Bytes) (reason : Text)
  /-- Some characters of a text have no bytes. -/
  | badChars (encoding : Encoding) (position : Nat) (blamed : Text)
  deriving DecidableEq

/-- The reason given for a number out of an encoding's range. -/
def outOfRange : Encoding → Text
  | ascii => "ordinal not in range(128)".toList
  | _ => "ordinal not in range(256)".toList

/-- One position, or the first and the last of several. -/
def span (position count : Nat) : Text :=
  if count ≤ 1 then Numeral.ofNat position
  else Numeral.ofNat position ++ '-' :: Numeral.ofNat (position + count - 1)

/-- The message of a fault: one byte or character is shown, several are counted. -/
def Fault.message : Fault → Text
  | unknown name => "unknown encoding: ".toList ++ name
  | nullName => "embedded null character".toList
  | badBytes encoding position blamed reason =>
    Text.quoted encoding.name ++ " codec can't decode byte".toList
      ++ (match blamed with
          | [b] => " 0x".toList ++ Text.hex 2 b.toNat
          | _ => ['s'])
      ++ " in position ".toList ++ span position blamed.length ++ ": ".toList ++ reason
  | badChars encoding position blamed =>
    Text.quoted encoding.name ++ " codec can't encode character".toList
      ++ (match blamed with
          | [c] => ' ' :: Text.quote :: Text.byNumber c ++ [Text.quote]
          | _ => ['s'])
      ++ " in position ".toList ++ span position blamed.length ++ ": ".toList
      ++ encoding.outOfRange

/-- The reasons of UTF-8 in words. -/
def reason : Utf8.Reason → Text
  | .invalidStart => "invalid start byte".toList
  | .invalidContinuation => "invalid continuation byte".toList
  | .unexpectedEnd => "unexpected end of data".toList

/-! ## Decoding -/

/-- The byte-order mark. -/
def signature : Bytes := [0xEF, 0xBB, 0xBF]

/-- Bytes below `limit` as the characters of their numbers. -/
def decodeNarrow (encoding : Encoding) (limit : Nat) (bs : Bytes) : Except Fault Text :=
  let good := bs.takeWhile fun b => b.toNat < limit
  match bs.drop good.length with
  | [] => .ok (good.map fun b => Char.ofNat b.toNat)
  | b :: _ => .error (.badBytes encoding good.length [b] encoding.outOfRange)

/-- UTF-8 with its faults. -/
def decodeUtf8 (bs : Bytes) : Except Fault Text :=
  match Utf8.decode bs with
  | .ok t => .ok t
  | .error flaw => .error (.badBytes utf8 flaw.position flaw.blamed (reason flaw.reason))

/-- **The text of a file.**  A signature is dropped, also one that breaks off with the file, and
positions are counted after it. -/
def decode : Encoding → Bytes → Except Fault Text
  | utf8, bs => decodeUtf8 bs
  | utf8Signed, bs =>
    if bs.length < 3 && bs.isPrefixOf signature then .ok []
    else if signature.isPrefixOf bs then decodeUtf8 (bs.drop 3)
    else decodeUtf8 bs
  | ascii, bs => decodeNarrow ascii 0x80 bs
  | latin1, bs => decodeNarrow latin1 0x100 bs

/-! ## Encoding -/

/-- Characters below `limit` as bytes; the first run of others is blamed. -/
def encodeNarrow (encoding : Encoding) (limit : Nat) (t : Text) : Except Fault Bytes :=
  let good := t.takeWhile fun c => c.toNat < limit
  match t.drop good.length with
  | [] => .ok (good.map fun c => c.toNat.toUInt8)
  | rest => .error (.badChars encoding good.length (rest.takeWhile fun c => limit ≤ c.toNat))

/-- **The bytes of a text.** -/
def encode : Encoding → Text → Except Fault Bytes
  | utf8, t => .ok (Utf8.encode t)
  | utf8Signed, t => .ok (signature ++ Utf8.encode t)
  | ascii, t => encodeNarrow ascii 0x80 t
  | latin1, t => encodeNarrow latin1 0x100 t

end Encoding

end CallEdits
