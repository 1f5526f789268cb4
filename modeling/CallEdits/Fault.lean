import CallEdits.Call.Flaw
import CallEdits.Report.Flaw

/-!
# Fault — what makes a run give up

A fault concerns the report or a call site.  It stops the run: nothing is tried again, and nothing
that was written is taken back.  A fault may be stated without its full place; the message then says
`None` for what is not known.
-/

namespace CallEdits

/-- **A fault of a report or of a call site.** -/
inductive Fault
  /-- A fault in somebody's own words, most often one text. -/
  | general (words : List Text)
  /-- The report is malformed, at a line of it. -/
  | report (flaw : Report.Flaw) (line : Option Int)
  /-- A call is malformed or unbalanced, at a place that a report names. -/
  | call (flaw : Call.Flaw) (path : Option Text) (line : Option Int)
  /-- No call of the function stands at or after the line. -/
  | notFound (path : Option Text) (line resolved : Option Int) (function : Option Text)
  /-- The file has no such line. -/
  | overflow (path : Option Text) (line count : Option Int)
  deriving DecidableEq

namespace Fault

/-- A text, or `None` where there is none. -/
def knownText (t : Option Text) : Text := t.getD "None".toList

/-- A line number, or `None` where there is none. -/
def lineText (line : Option Int) : Text := knownText (line.map Numeral.ofInt)

/-- What somebody's own words come to: one text stands for itself, several are listed. -/
def wordsText : List Text → Text
  | [] => []
  | [text] => text
  | texts => '(' :: Text.join ", ".toList (texts.map Text.quoted) ++ [')']

/-- What is said about a fault, beginning with the place it concerns. -/
def message : Fault → Text
  | general words => wordsText words
  | report flaw (some line) =>
    "report line ".toList ++ Numeral.ofInt line ++ ": ".toList ++ flaw.message
  | report flaw none => flaw.message
  | call flaw (some path) line => path ++ ':' :: lineText line ++ ": ".toList ++ flaw.message
  | call flaw none _ => flaw.message
  | notFound path line resolved function =>
    knownText path ++ ':' :: lineText line ++ ": a call to ".toList ++ knownText function
      ++ "() should be found (resolved to line ".toList ++ lineText resolved ++ [')']
  | overflow path line count =>
    knownText path ++ ": line overflow (line ".toList ++ lineText line ++ ", file has ".toList
      ++ lineText count ++ " lines)".toList

/-- The numbers that the message writes. -/
def numbers : Fault → List Int
  | general _ => []
  | report flaw line => flaw.numbers ++ line.toList
  | call flaw (some _) line => flaw.numbers ++ line.toList
  | call flaw none _ => flaw.numbers
  | notFound _ line resolved _ => line.toList ++ resolved.toList
  | overflow _ line count => line.toList ++ count.toList

/-- **Can the message be written?**  None of its numbers may have too many digits. -/
def isWritable (fault : Fault) : Bool := fault.numbers.all Numeral.fits

end Fault

end CallEdits
