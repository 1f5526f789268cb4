import CallEdits.Numeral

/-!
# Call/Flaw — what can be wrong with a call

A call is *malformed* if it does not begin with an opening parenthesis or has too few arguments, and
*unbalanced* if the text ends before it is closed.
-/

namespace CallEdits.Call

/-- The kinds of flaws. -/
inductive Kind
  | general
  | malformed
  | unbalanced
  deriving DecidableEq

/-- **What is wrong with a call.** -/
inductive Flaw
  /-- The first character that is not blank is `found`, or there is none. -/
  | noOpening (found : Option Char)
  /-- The text ends inside `depth` parentheses. -/
  | unclosed (depth : Nat)
  /-- The call has `count` arguments, and more than `bound` are needed. -/
  | fewArguments (path : Text) (line : Int) (function : Text) (count : Nat) (bound : Int)
  /-- A flaw met at this line of the file as it is now. -/
  | resolved (flaw : Flaw) (line : Int)
  /-- A flaw in somebody's own words. -/
  | worded (kind : Kind) (text : Text)
  deriving DecidableEq

namespace Flaw

/-- The kind of a flaw; saying where it was met does not change it. -/
def kind : Flaw → Kind
  | noOpening _ => .malformed
  | unclosed _ => .unbalanced
  | fewArguments .. => .malformed
  | resolved flaw _ => flaw.kind
  | worded kind _ => kind

/-- What is said about a flaw. -/
def message : Flaw → Text
  | noOpening (some c) => "expecting \"(\", got \"".toList ++ c :: "\" instead".toList
  | noOpening none => "expecting \"(\", got end of text instead".toList
  | unclosed depth =>
    "unbalanced call: ".toList ++ Numeral.ofNat depth
      ++ " parenthesis(es) still open at end of text".toList
  | fewArguments path line function count bound =>
    path ++ ':' :: Numeral.ofInt line ++ ": ".toList ++ function ++ "() has ".toList
      ++ Numeral.ofNat count ++ " argument(s), expected more than ".toList ++ Numeral.ofInt bound
  | resolved flaw line =>
    flaw.message ++ " (resolved to line ".toList ++ Numeral.ofInt line ++ [')']
  | worded _ text => text

/-- The numbers that the message writes. -/
def numbers : Flaw → List Int
  | unclosed depth => [depth]
  | fewArguments _ line _ count bound => [line, count, bound]
  | resolved flaw line => flaw.numbers ++ [line]
  | noOpening _ | worded .. => []

end Flaw

end CallEdits.Call
