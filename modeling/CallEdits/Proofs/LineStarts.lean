import CallEdits.Proofs.LineNumbers

/-!
# Proofs/LineStarts — the start of a line and the breaks before it

    code      before ++ old ++ … '\n' ▏line …
    new text  before ++ new ++ … '\n' ▏line + d …          d = new.breaks - old.breaks

Two functions number the lines of a text: `lineCount` says how many there are, and `lineStart?`
finds where one of them starts, as a search from break to break does (`lineStart?_eq_startBehind?`).
They treat the end of a text differently — behind a last break there is a start but no line
(`lineStart?_uncounted_iff`) — and agree on everything before it.  A line *begins* where a character
follows as many whole lines as there are smaller numbers; the lines that count are those that begin
somewhere, and each is found where it begins (`beginsAt_iff`).

Since the breaks before a line are its number, an edit that leaves the break right before the line
alone moves the line by the breaks that it adds (`BeginsAt.exists_replace`).  A session relies on
this when it shifts the lines of a report.
-/

namespace CallEdits.Source

/-- **A line begins at a position**: a character stands there, and the text before it consists of
whole lines, one for each smaller number. -/
structure BeginsAt (code : Text) (line : Int) (position : Nat) : Prop where
  lt_length : position < code.length
  breaks_eq : (Text.breaks (code.take position) : Int) = line - 1
  wholeLines : WholeLines (code.take position)

variable {before old after new code : Text} {line d : Int} {position start : Nat}

/-! ## From break to break -/

/-- **The start of the line behind `n` breaks**, looked for from break to break. -/
def startBehind? (code : Text) : Nat → Option Nat
  | 0 => some 0
  | n + 1 => (startBehind? code n).bind fun start =>
      ((code.drop start).idxOf? '\n').map (start + · + 1)

theorem lineStart?_of_le_one (code : Text) (hline : line ≤ 1) : lineStart? code line = some 0 := by
  cases code <;> exact if_pos hline

theorem idxOf?_break {u : Text} (hu : '\n' ∉ u) (v : Text) :
    (u ++ '\n' :: v).idxOf? '\n' = some u.length := by
  refine List.idxOf?_eq_some_iff.mpr ⟨by simp, by simp, fun j hj => ?_⟩
  rw [List.getElem_append_left hj]
  exact fun hbreak => hu (hbreak ▸ List.getElem_mem hj)

/-- A line with its break is one more whole line. -/
theorem lineStart?_append_line (a : Text) {u : Text} (hu : '\n' ∉ u) (v : Text) :
    lineStart? (a ++ (u ++ '\n' :: v)) ((a.breaks : Int) + 1 + 1)
      = some (a.length + u.length + 1) := by
  have hwhole : WholeLines (a ++ u ++ ['\n']) := by
    intro c hc
    rw [List.getLast?_concat] at hc
    exact (Option.some.inj hc).symm
  have hplain : Text.breaks u = 0 := List.count_eq_zero.mpr hu
  have hbreaks : (a ++ u ++ ['\n']).breaks = a.breaks + 1 := by
    rw [Text.breaks_append, Text.breaks_append, hplain]
    rfl
  have htext : a ++ (u ++ '\n' :: v) = a ++ u ++ ['\n'] ++ v := by simp
  have hfound := lineStart?_append hwhole v
  rw [hbreaks, ← htext, List.length_append, List.length_append] at hfound
  exact_mod_cast hfound

/-- **The next line starts behind the next break.** -/
theorem lineStart?_add_one (hline : 1 ≤ line) :
    lineStart? code (line + 1)
      = (lineStart? code line).bind fun start =>
          ((code.drop start).idxOf? '\n').map (start + · + 1) := by
  cases hstart : lineStart? code line with
  | none =>
    have hfew := lineStart?_eq_none_iff.mp hstart
    exact lineStart?_eq_none_iff.mpr (by omega)
  | some start =>
    obtain ⟨a, b, rfl, rfl, -, rfl⟩ := cut_of_lineStart? hline hstart
    rw [Option.bind_some, List.drop_left]
    by_cases hmem : '\n' ∈ b
    · obtain ⟨u, v, rfl, hu⟩ := List.eq_append_cons_of_mem hmem
      rw [idxOf?_break hu, Option.map_some, lineStart?_append_line a hu v]
    · have hlast : Text.breaks b = 0 := List.count_eq_zero.mpr hmem
      rw [List.idxOf?_eq_none_iff.mpr hmem, Option.map_none, lineStart?_eq_none_iff,
        Text.breaks_append]
      omega

/-- **One pass over the text finds what the search from break to break finds.** -/
theorem lineStart?_eq_startBehind? (code : Text) (line : Int) :
    lineStart? code line = startBehind? code (line - 1).toNat := by
  have hbehind : ∀ n : Nat, lineStart? code (n + 1) = startBehind? code n := by
    intro n
    induction n with
    | zero => exact lineStart?_of_le_one code (Int.le_refl 1)
    | succ n ih =>
      rw [startBehind?, ← ih, Int.natCast_succ]
      exact lineStart?_add_one (by omega)
  rcases Int.le_total line 1 with hline | hline
  · rw [lineStart?_of_le_one code hline, Int.toNat_of_nonpos (by omega)]
    rfl
  · obtain ⟨n, rfl⟩ := Int.le.dest hline
    rw [Int.add_comm, hbehind, Int.add_sub_cancel, Int.toNat_natCast]

/-! ## Where a line begins -/

/-- A line begins between whole lines and the text from there on. -/
theorem beginsAt_iff_cut :
    BeginsAt code line position
      ↔ ∃ a b, code = a ++ b ∧ position = a.length ∧ WholeLines a ∧ b ≠ []
        ∧ (a.breaks : Int) + 1 = line := by
  constructor
  · rintro ⟨hlt, hbreaks, hwhole⟩
    refine ⟨code.take position, code.drop position, (List.take_append_drop ..).symm, ?_, hwhole,
      ?_, by omega⟩
    · rw [List.length_take, Nat.min_eq_left (Nat.le_of_lt hlt)]
    · exact fun hnil => absurd (List.drop_eq_nil_iff.mp hnil) (Nat.not_le.mpr hlt)
  · rintro ⟨a, b, rfl, rfl, hwhole, hne, rfl⟩
    have hb := List.length_pos_iff.mpr hne
    refine ⟨by rw [List.length_append]; omega, ?_, ?_⟩
    · rw [List.take_left]
      omega
    · rwa [List.take_left]

/-- **The lines that count are those that begin somewhere**, and each is found where it begins. -/
theorem beginsAt_iff :
    BeginsAt code line position
      ↔ 1 ≤ line ∧ line ≤ lineCount code ∧ lineStart? code line = some position := by
  rw [beginsAt_iff_cut]
  constructor
  · rintro ⟨a, b, rfl, rfl, hwhole, hne, rfl⟩
    refine ⟨by omega, ?_, lineStart?_append hwhole b⟩
    exact_mod_cast (le_lineCount_iff hwhole).mpr hne
  · rintro ⟨hone, hcount, hstart⟩
    obtain ⟨a, b, rfl, rfl, hwhole, rfl⟩ := cut_of_lineStart? hone hstart
    have hne : b ≠ [] := (le_lineCount_iff hwhole).mp (by exact_mod_cast hcount)
    exact ⟨a, b, rfl, rfl, hwhole, hne, rfl⟩

/-- **A line that is found and does not count** starts at the end of whole lines. -/
theorem lineStart?_uncounted_iff (hline : 1 ≤ line) :
    lineStart? code line = some start ∧ (lineCount code : Int) < line
      ↔ WholeLines code ∧ (code.breaks : Int) + 1 = line ∧ start = code.length := by
  constructor
  · rintro ⟨hstart, hcount⟩
    obtain ⟨a, b, rfl, rfl, hwhole, rfl⟩ := cut_of_lineStart? hline hstart
    obtain rfl : b = [] := by
      refine Decidable.byContradiction fun hne => ?_
      have hle := (le_lineCount_iff hwhole).mpr hne
      omega
    rw [List.append_nil]
    exact ⟨hwhole, rfl, rfl⟩
  · rintro ⟨hwhole, rfl, rfl⟩
    have hfound := lineStart?_append hwhole []
    have hcount := hwhole.lineCount_le
    rw [List.append_nil] at hfound
    exact ⟨hfound, by omega⟩

example : lineCount "a\n".toList = 1 ∧ lineStart? "a\n".toList 2 = some 2 := by decide

/-! ## Edits in front of a line -/

/-- **A line moves with the breaks before it**, if the break right before it stays. -/
theorem BeginsAt.exists_replace (h : BeginsAt (before ++ old ++ after) line start)
    (hend : (before ++ old).length < start) (hnew : (new.breaks : Int) = old.breaks + d) :
    2 ≤ line + d ∧ ∃ start', BeginsAt (before ++ new ++ after) (line + d) start'
      ∧ (before ++ new ++ after).drop start' = (before ++ old ++ after).drop start := by
  obtain ⟨a, b, hcode, rfl, hwhole, hne, rfl⟩ := beginsAt_iff_cut.mp h
  -- `x` is what stays in front of the line: it ends with the break right before it.
  obtain ⟨x, rfl, rfl⟩ | ⟨y, hy, -⟩ := List.append_eq_append_iff.mp hcode
  · have hx : x ≠ [] := by
      rintro rfl
      rw [List.append_nil] at hend
      exact Nat.lt_irrefl _ hend
    have hends := (wholeLines_append hx).mp hwhole
    have hpos := hends.breaks_pos hx
    have hnumber : ((before ++ new ++ x).breaks : Int) + 1
        = (before ++ old ++ x).breaks + 1 + d := by
      simp only [Text.breaks_append]
      omega
    have htext : before ++ new ++ (x ++ b) = before ++ new ++ x ++ b :=
      (List.append_assoc ..).symm
    refine ⟨?_, (before ++ new ++ x).length, ?_, ?_⟩
    · rw [← hnumber, Text.breaks_append]
      omega
    · exact beginsAt_iff_cut.mpr ⟨_, b, htext, rfl, (wholeLines_append hx).mpr hends, hne, hnumber⟩
    · rw [htext, hcode, List.drop_left, List.drop_left]
  · rw [hy, List.length_append] at hend
    omega

/-- Every line but the first starts behind a break. -/
theorem BeginsAt.start_pos (h : BeginsAt code line start) (hline : 2 ≤ line) : 0 < start := by
  refine Nat.pos_of_ne_zero fun hzero => ?_
  have hbreaks := h.breaks_eq
  rw [hzero, List.take_zero, Text.breaks_nil] at hbreaks
  omega

/-- **Line numbers and breaks agree.**  Every line that counts is found at the one position where it
begins; a line is not found if and only if there are too few breaks for its number; and replacing
text in front of the break right before a line moves the line, and all that follows, by the breaks
that the text gains. -/
theorem lines_start_behind_breaks (code : Text) (line : Int) :
    (1 ≤ line → line ≤ lineCount code →
        ∃ start, lineStart? code line = some start
          ∧ ∀ position, BeginsAt code line position ↔ position = start)
      ∧ (lineStart? code line = none ↔ (code.breaks : Int) < line - 1)
      ∧ ∀ (start : Nat) (before old after new : Text) (d : Int),
          2 ≤ line → line ≤ lineCount code → lineStart? code line = some start →
          code = before ++ old ++ after → (before ++ old).length ≤ start - 1 →
          (new.breaks : Int) = old.breaks + d →
            2 ≤ line + d ∧ line + d ≤ lineCount (before ++ new ++ after)
              ∧ ∃ start', lineStart? (before ++ new ++ after) (line + d) = some start'
                ∧ (before ++ new ++ after).drop start' = code.drop start := by
  refine ⟨fun hone hcount => ?_, ?_, ?_⟩
  · obtain ⟨start, hstart⟩ := exists_lineStart hcount
    refine ⟨start, hstart, fun position => ?_⟩
    rw [beginsAt_iff, hstart, Option.some.injEq]
    exact ⟨fun h => h.2.2.symm, fun h => ⟨hone, hcount, h.symm⟩⟩
  · rw [lineStart?_eq_none_iff]
    omega
  · rintro start before old after new d htwo hcount hstart rfl hend hnew
    have hbegins : BeginsAt (before ++ old ++ after) line start :=
      beginsAt_iff.mpr ⟨by omega, hcount, hstart⟩
    have hpos := hbegins.start_pos htwo
    obtain ⟨hmin, start', hmoved, hdrop⟩ := hbegins.exists_replace (by omega) hnew
    obtain ⟨-, hcount', hstart'⟩ := beginsAt_iff.mp hmoved
    exact ⟨hmin, hcount', start', hstart', hdrop⟩

/-- A call over two lines, right before the break in front of an empty line, becomes one line; the
last line has no break. -/
theorem lines_start_behind_breaks_joined_call :
    let before : Text := "v = ".toList
    let old : Text := "f(a,\n  b)".toList
    let new : Text := "f(E)".toList
    let after : Text := "\n\ng(c)".toList
    let code : Text := before ++ old ++ after
    let text : Text := before ++ new ++ after
    (4 : Int) ≤ lineCount code
      ∧ (∃ start, lineStart? code 4 = some start
        ∧ ∀ position, BeginsAt code 4 position ↔ position = start)
      ∧ (3 : Int) ≤ lineCount code ∧ lineStart? code 3 = some 14
      ∧ (before ++ old).length ≤ 14 - 1 ∧ (new.breaks : Int) = old.breaks + -1
      ∧ (2 : Int) ≤ lineCount text
      ∧ ∃ start', lineStart? text 2 = some start' ∧ text.drop start' = "\ng(c)".toList := by
  intro before old new after code text
  have hfour : (4 : Int) ≤ lineCount code := by decide
  have hthree : (3 : Int) ≤ lineCount code := by decide
  have hstart : lineStart? code 3 = some 14 := by decide +kernel
  have hend : (before ++ old).length ≤ 14 - 1 := by decide
  have hnew : (new.breaks : Int) = old.breaks + -1 := by decide
  have hbegins := (lines_start_behind_breaks code 4).1 (by decide) hfour
  obtain ⟨-, hcount, hmoved⟩ := (lines_start_behind_breaks code 3).2.2 14 before old after new (-1)
    (by decide) hthree hstart rfl hend hnew
  exact ⟨hfour, hbegins, hthree, hstart, hend, hnew, hcount, hmoved⟩

end CallEdits.Source
