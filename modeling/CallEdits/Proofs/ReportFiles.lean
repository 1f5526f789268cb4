import CallEdits.Proofs.OutlineNodes
import CallEdits.Proofs.Utf8RoundTrip
import CallEdits.Report.File

/-!
# Proofs/ReportFiles — a report read from a file

    text ──encode──▸ bytes ──decode──▸ text ──unifyBreaks──▸ plain text ──lines──▸ lines
      ╰────────────────────────────────── lines ─────────────────────────────────────▸

A file is read as plain text, in which every carriage return has become a line feed, with the line
feed after it if there is one.  The lines of a report end at these marks and at eight others, and a
carriage return with its line feed is one mark there, too: so plain text has the lines that the text
had, each at its place (`lines_unifyBreaks`), and the sites and the complaints are the same.
-/

namespace CallEdits

/-! ## Plain text -/

namespace Text

theorem unifyBreaksFrom_append (done more t : Text) :
    unifyBreaksFrom (done ++ more) t = more.reverse ++ unifyBreaksFrom done t := by
  fun_induction unifyBreaksFrom done t with
  | case1 done => rw [unifyBreaksFrom, List.reverse_append]
  | case2 done r ih =>
    rw [unifyBreaksFrom]
    exact ih
  | case3 done c r hreturn ih =>
    rw [unifyBreaksFrom.eq_3 _ _ _ hreturn]
    exact ih

theorem unifyBreaks_return (r : Text) :
    unifyBreaks ('\r' :: '\n' :: r) = '\n' :: unifyBreaks r := by
  rw [unifyBreaks, unifyBreaksFrom]
  exact unifyBreaksFrom_append [] ['\n'] r

theorem unifyBreaks_cons {c : Char} {r : Text}
    (hreturn : ∀ rest, c = '\r' → r = '\n' :: rest → False) :
    unifyBreaks (c :: r) = (if c = '\r' then '\n' else c) :: unifyBreaks r := by
  rw [unifyBreaks, unifyBreaksFrom.eq_3 _ _ _ hreturn]
  exact unifyBreaksFrom_append [] [_] r

/-- A character that is no carriage return ends the line, or is part of it. -/
theorem linesFrom_cons {c : Char} (hc : c ≠ '\r') (line r : Text) :
    linesFrom line (c :: r)
      = if endsLine c then line.reverse :: linesFrom [] r else linesFrom (c :: line) r :=
  linesFrom.eq_3 line c r fun _ h _ => hc h

theorem linesFrom_unifyBreaks (line t : Text) :
    linesFrom line (unifyBreaks t) = linesFrom line t := by
  fun_induction linesFrom line t with
  | case1 line hempty => exact if_pos hempty
  | case2 line hne => exact if_neg hne
  | case3 line r ih =>
    rw [unifyBreaks_return, linesFrom_cons (by decide), if_pos (by decide), ih]
  | case4 line c r hreturn hc ih =>
    have hends : endsLine (if c = '\r' then '\n' else c) = true := by
      split
      · rfl
      · exact hc
    have hne : (if c = '\r' then '\n' else c) ≠ '\r' := by
      split
      · decide
      · assumption
    rw [unifyBreaks_cons hreturn, linesFrom_cons hne, if_pos hends, ih]
  | case5 line c r hreturn hc ih =>
    have hne : c ≠ '\r' := by
      rintro rfl
      exact hc rfl
    rw [unifyBreaks_cons hreturn, if_neg hne, linesFrom_cons hne, if_neg hc, ih]

/-- **Plain text has the same lines.** -/
theorem lines_unifyBreaks (t : Text) : t.unifyBreaks.lines = t.lines := linesFrom_unifyBreaks [] t

end Text

/-! ## Report files -/

/-- The plain text of a file in UTF-8. -/
theorem Disk.readPlain_encode {disk : Disk} {p : Path} {text : Text}
    (hfile : disk.read p = .ok (Utf8.encode text)) :
    disk.readPlain p "utf-8".toList = .ok text.unifyBreaks := by
  have hname : Encoding.ofName? "utf-8".toList = some .utf8 := by decide +kernel
  have hdecode : Encoding.decode .utf8 (Utf8.encode text) = .ok text := by
    rw [Encoding.decode, Encoding.decodeUtf8, Utf8.decode_encode]
  rw [readPlain, readText, if_neg (by decide), hfile, hname]
  simp only [hdecode]

namespace Report

/-- **A report file says what its text says.**  Where a file holds a text in UTF-8, reading the
report from the file gives the sites of the text as it is, or fails as the text fails: with the same
complaint about the same line. -/
theorem load_eq_parse {disk : Disk} {path text : Text}
    (hfile : disk.read (Path.ofText path) = .ok (Utf8.encode text)) (separator : Text)
    (layout : Layout) :
    (load disk path "utf-8".toList separator layout).1
      = (parse separator layout text).mapError CallEdits.Failure.ofReport := by
  have hparse : parse separator layout text.unifyBreaks = parse separator layout text := by
    rw [parse, parse, outline, outline, Text.lines_unifyBreaks]
  rw [load, Disk.readPlain_encode hfile]
  dsimp only
  rw [hparse]
  cases parse separator layout text <;> rfl

/-- Carriage returns and line feeds in all kinds of orders: four lines end before the one that is
neither a heading nor a call. -/
def mixedBreaks : Text := "\r\r\n\n\r            no heading\x0b".toList

/-- Two calls of a function, on lines that end in four different ways. -/
def mixedUsages : Text :=
  " a.c  (2 usages found)\r\n  f  (2 usages found)\r   7 f(x);\x0b   3 f(y);\n".toList

/-- **The complaint names the fifth line**, in the file as in the text.  And where each line is a
heading or a call, the file gives the sites of the text. -/
theorem load_eq_parse_mixed_breaks :
    let disk : Disk := { entries := [([['r']], .file (Utf8.encode mixedBreaks)),
      ([['u']], .file (Utf8.encode mixedUsages))] }
    let layout : Layout := { indentUnit := 1, marginThreshold := 0 }
    let sites : List Location := [⟨"a.c".toList, 3⟩, ⟨"a.c".toList, 7⟩]
    parse ['/'] {} mixedBreaks
        = .error (.malformed (.unexpected "            no heading".toList) 5)
      ∧ (load disk ['r'] "utf-8".toList ['/'] {}).1
        = .error (.fault (.report (.unexpected "            no heading".toList) (some 5)))
      ∧ parse ['/'] layout mixedUsages = .ok sites
      ∧ (load disk ['u'] "utf-8".toList ['/'] layout).1 = .ok sites := by
  intro disk layout sites
  have hrefused : parse ['/'] {} mixedBreaks
      = .error (.malformed (.unexpected "            no heading".toList) 5) := by
    cbv
  have hread : parse ['/'] layout mixedUsages = .ok sites := by
    dsimp only [sites, layout]
    cbv
  have hbreaks : disk.read (Path.ofText ['r']) = .ok (Utf8.encode mixedBreaks) := by
    dsimp only [disk]
    cbv
  have husages : disk.read (Path.ofText ['u']) = .ok (Utf8.encode mixedUsages) := by
    dsimp only [disk]
    cbv
  refine ⟨hrefused, ?_, hread, ?_⟩
  · rw [load_eq_parse hbreaks, hrefused]
    rfl
  · rw [load_eq_parse husages, hread]
    rfl

end Report

end CallEdits
