import CallEdits.Text.Basic

/-!
# Call/Site — a located call

A `Site` is what a policy sees of a call: where the report places it, where it stands now, its
arguments, its rank in the run, and the surroundings that new lines have to match.
-/

namespace CallEdits.Call

/-- **A call about to be replaced.** -/
structure Site where
  path : Text
  /-- The line that the report gives. -/
  line : Int
  /-- The line in the file as it is now. -/
  resolvedLine : Int
  function : Text
  arguments : List Text
  /-- The number of calls replaced before this one in the run. -/
  index : Int
  /-- The white space in front of the line that holds the call. -/
  indent : Text := []
  /-- How lines of the file end. -/
  newline : Text := ['\n']
  deriving DecidableEq

/-- The white space in front of the last line of a text. -/
def indentAfter (before : Text) : Text :=
  before.lastLine.takeWhile fun c => c = ' ' || c = '\t'

/-- How the lines of a text end: with `"\r\n"` if it stands anywhere in the text. -/
def newlineOf (code : Text) : Text := if code.hasCrLf then ['\r', '\n'] else ['\n']

end CallEdits.Call
