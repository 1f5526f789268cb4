import CallEdits.Location

/-!
# Report/Flaw — what can be wrong with a report

Most flaws concern one line of the report, numbered from one.  Two failures come from elsewhere: a
line number too long to be read, and an indentation unit of zero columns.
-/

namespace CallEdits.Report

/-- **What is wrong with a report.** -/
inductive Flaw
  /-- A line that is neither a heading nor a call. -/
  | unexpected (line : Text)
  /-- A call site that was listed before. -/
  | duplicate (location : Location)
  /-- A call that no file encloses. -/
  | noFile
  /-- A call deeper than the first one of its run. -/
  | tooDeep (margin limit : Int)
  /-- A flaw in somebody's own words. -/
  | worded (text : Text)
  deriving DecidableEq

/-- What is said about a flaw. -/
def Flaw.message : Flaw → Text
  | unexpected line => "unexpected line ".toList ++ Text.quoted line
  | duplicate location => "duplicate call site ".toList ++ location.render
  | noFile => "call site without an enclosing file".toList
  | tooDeep margin limit =>
    "call site at depth ".toList ++ Numeral.ofInt margin ++ ", expected at most ".toList
      ++ Numeral.ofInt limit
  | worded text => text

/-- The numbers that the message writes. -/
def Flaw.numbers : Flaw → List Int
  | duplicate location => [location.line]
  | tooDeep margin limit => [margin, limit]
  | unexpected _ | noFile | worded _ => []

/-- **Why a report cannot be read.** -/
inductive Failure
  | malformed (flaw : Flaw) (line : Nat)
  | numeral (fault : Numeral.Fault)
  | zeroIndent
  deriving DecidableEq

end CallEdits.Report
