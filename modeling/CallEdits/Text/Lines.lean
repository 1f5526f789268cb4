import CallEdits.Text.Basic

/-!
# Text/Lines — the lines of a report

A report is cut at every mark that Unicode counts as the end of a line, `"\r\n"` being one mark.
Text that is read from a file as plain text first has its carriage returns turned into line feeds;
`unifyBreaks` does that.
-/

namespace CallEdits.Text

/-- The characters that end a line of a report: the vertical controls, three information
separators, the next-line control and the two separators of Unicode. -/
def endsLine (c : Char) : Bool :=
  let n := c.toNat
  (10 ≤ n && n ≤ 13) || (28 ≤ n && n ≤ 30) || n == 0x85 || n == 0x2028 || n == 0x2029

/-- The lines of a text whose first characters, newest first, are already in `line`. -/
def linesFrom (line : Text) : Text → List Text
  | [] => if line.isEmpty then [] else [line.reverse]
  | '\r' :: '\n' :: r => line.reverse :: linesFrom [] r
  | c :: r => if endsLine c then line.reverse :: linesFrom [] r else linesFrom (c :: line) r

/-- **The lines of a text**, without the marks that end them.  A text that ends with a mark has no
empty line after it. -/
def lines (t : Text) : List Text := linesFrom [] t

/-- Turn `"\r\n"` and every other `'\r'` into `'\n'`; `done` holds what is finished, newest
first. -/
def unifyBreaksFrom (done : Text) : Text → Text
  | [] => done.reverse
  | '\r' :: '\n' :: r => unifyBreaksFrom ('\n' :: done) r
  | c :: r => unifyBreaksFrom ((if c = '\r' then '\n' else c) :: done) r

/-- **Plain text has one kind of break**: `"\r\n"` and a lone `'\r'` become `'\n'`. -/
def unifyBreaks (t : Text) : Text := unifyBreaksFrom [] t

end CallEdits.Text
