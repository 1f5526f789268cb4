import CallEdits.Source.Lines

/-!
# Proofs/LineNumbers — a line number is a cut of the text

A line starts where the text before it consists of *whole lines*: it is empty or ends with a break.
The number of the line is then one more than the number of breaks before it
(`lineStart?_append`, `cut_of_lineStart?`), and the line exists if anything follows
(`le_lineCount_iff`).  So a position and a line number say the same, and positions are compared
through the text before them.
-/

namespace CallEdits.Source

/-- **A text of whole lines** is empty or ends with a break. -/
def WholeLines (t : Text) : Prop := ∀ c ∈ t.getLast?, c = '\n'

variable {a b t code : Text}

theorem wholeLines_nil : WholeLines [] := fun _ h => nomatch h

theorem getLast?_append (a : Text) (h : b ≠ []) : (a ++ b).getLast? = b.getLast? := by
  rw [List.getLast?_append, List.getLast?_eq_some_getLast h]
  rfl

/-- Only the last part decides whether the lines are whole. -/
theorem wholeLines_append (h : b ≠ []) : WholeLines (a ++ b) ↔ WholeLines b := by
  rw [WholeLines, WholeLines, getLast?_append a h]

theorem WholeLines.of_cons {c : Char} (h : WholeLines (c :: t)) : WholeLines t := by
  cases t with
  | nil => exact wholeLines_nil
  | cons d r => exact (wholeLines_append (a := [c]) (List.cons_ne_nil d r)).mp h

theorem WholeLines.breaks_pos (h : WholeLines t) (ht : t ≠ []) : 1 ≤ t.breaks := by
  have hlast := h _ (List.getLast?_eq_some_getLast ht)
  exact List.count_pos_iff.mpr (hlast ▸ List.getLast_mem ht)

/-- What ends otherwise than with a break does not end with whole lines. -/
theorem WholeLines.getLast?_of_append (h : WholeLines a) {c : Char} (hc : c ≠ '\n')
    (hlast : (a ++ b).getLast? = some c) : b.getLast? = some c := by
  by_cases hb : b = []
  · rw [hb, List.append_nil] at hlast
    exact absurd (h c hlast) hc
  · rwa [getLast?_append a hb] at hlast

/-- A character before whole lines makes whole lines if a break stands in them. -/
theorem WholeLines.cons {c : Char} (h : WholeLines t) (hbreaks : 1 ≤ Text.breaks (c :: t)) :
    WholeLines (c :: t) := by
  cases t with
  | nil =>
    intro d hd
    obtain rfl := Option.some.inj hd
    have hmem : '\n' ∈ [c] := List.count_pos_iff.mp hbreaks
    exact (List.mem_singleton.mp hmem).symm
  | cons d r => exact (wholeLines_append (a := [c]) (List.cons_ne_nil d r)).mpr h

/-- **Of two cuts behind whole lines, the one with more breaks before it comes later.** -/
theorem WholeLines.exists_append {a' b' : Text} (h : WholeLines a) (h' : WholeLines a')
    (htext : a ++ b = a' ++ b') (hle : a.breaks ≤ a'.breaks) :
    ∃ x, a' = a ++ x ∧ WholeLines x ∧ b = x ++ b' := by
  have hcut : a <+: a' := by
    rcases List.prefix_or_prefix_of_prefix ⟨b, htext⟩ (List.prefix_append a' b') with hp | ⟨y, rfl⟩
    · exact hp
    · by_cases hy : y = []
      · exact ⟨[], by simp [hy]⟩
      · have hpos := ((wholeLines_append hy).mp h).breaks_pos hy
        rw [Text.breaks_append] at hle
        omega
  obtain ⟨x, rfl⟩ := hcut
  refine ⟨x, rfl, ?_, List.append_cancel_left (htext.trans (List.append_assoc ..))⟩
  by_cases hx : x = []
  · exact hx ▸ wholeLines_nil
  · exact (wholeLines_append hx).mp h'

/-! ## The start of a line -/

/-- The number that a line has after one character less. -/
theorem breaks_cons_add_one_iff (c : Char) (t : Text) (line : Int) :
    (Text.breaks (c :: t) : Int) + 1 = line
      ↔ (Text.breaks t : Int) + 1 = if c = '\n' then line - 1 else line := by
  by_cases hc : c = '\n'
  · have hb : Text.breaks (c :: t) = Text.breaks t + 1 := hc ▸ List.count_cons_self
    rw [if_pos hc, hb]
    omega
  · rw [if_neg hc, Text.breaks_cons_of_ne hc]

theorem lineStartFrom_append : ∀ (a b : Text) (position : Nat), WholeLines a →
    lineStartFrom position (a ++ b) ((a.breaks : Int) + 1) = some (position + a.length)
  | [], b, position, _ => by
      cases b <;> simp [lineStartFrom]
  | c :: a, b, position, h => by
      have hpos := h.breaks_pos (List.cons_ne_nil c a)
      have hline := (breaks_cons_add_one_iff c a _).mp rfl
      rw [List.cons_append, lineStartFrom, if_neg (by omega), ← hline,
        lineStartFrom_append a b (position + 1) h.of_cons, List.length_cons]
      congr 1
      omega

/-- **A line starts behind whole lines**, one for each number before it. -/
theorem lineStart?_append (h : WholeLines a) (b : Text) :
    lineStart? (a ++ b) ((a.breaks : Int) + 1) = some a.length := by
  rw [lineStart?, lineStartFrom_append a b 0 h, Nat.zero_add]

theorem cut_of_lineStartFrom : ∀ (code : Text) (position : Nat) (line : Int) (start : Nat),
    1 ≤ line → lineStartFrom position code line = some start →
      ∃ a b, code = a ++ b ∧ start = position + a.length ∧ WholeLines a
        ∧ (a.breaks : Int) + 1 = line
  | [], position, line, start, hline, h => by
      rw [lineStartFrom] at h
      split at h
      · refine ⟨[], [], rfl, (Option.some.inj h).symm, wholeLines_nil, ?_⟩
        rw [Text.breaks_nil]
        omega
      · exact nomatch h
  | c :: r, position, line, start, hline, h => by
      rw [lineStartFrom] at h
      split at h
      · refine ⟨[], c :: r, rfl, (Option.some.inj h).symm, wholeLines_nil, ?_⟩
        rw [Text.breaks_nil]
        omega
      · rename_i hgt
        obtain ⟨a, b, rfl, rfl, hwhole, hbreaks⟩ :=
          cut_of_lineStartFrom r (position + 1) _ start (by split <;> omega) h
        have hline := (breaks_cons_add_one_iff c a line).mpr hbreaks
        refine ⟨c :: a, b, rfl, ?_, hwhole.cons (by omega), hline⟩
        rw [List.length_cons]
        omega

/-- **A line that is found starts behind whole lines.** -/
theorem cut_of_lineStart? {line : Int} {start : Nat} (hline : 1 ≤ line)
    (h : lineStart? code line = some start) :
    ∃ a b, code = a ++ b ∧ start = a.length ∧ WholeLines a ∧ (a.breaks : Int) + 1 = line := by
  obtain ⟨a, b, hcode, hstart, hwhole, hbreaks⟩ := cut_of_lineStartFrom code 0 line start hline h
  exact ⟨a, b, hcode, by omega, hwhole, hbreaks⟩

theorem lineStartFrom_eq_none_iff : ∀ (code : Text) (position : Nat) (line : Int),
    lineStartFrom position code line = none ↔ (code.breaks : Int) + 1 < line
  | [], position, line => by
      rw [lineStartFrom, Text.breaks_nil]
      split <;> simp <;> omega
  | c :: r, position, line => by
      rw [lineStartFrom]
      split
      · simp only [reduceCtorEq, false_iff]
        omega
      · rw [lineStartFrom_eq_none_iff r, Text.breaks_cons]
        by_cases hc : c = '\n'
        · rw [if_pos hc, hc, show Text.breaks ['\n'] = 1 from rfl]
          omega
        · rw [if_neg hc, Text.breaks_cons_of_ne hc, Text.breaks_nil]
          omega

/-- **A line is not found** if and only if there are too few breaks for its number. -/
theorem lineStart?_eq_none_iff {line : Int} :
    lineStart? code line = none ↔ (code.breaks : Int) + 1 < line :=
  lineStartFrom_eq_none_iff code 0 line

/-! ## The number of lines -/

theorem lineCount_le (code : Text) : lineCount code ≤ code.breaks + 1 := by
  rw [lineCount]
  split
  · exact Nat.zero_le _
  · split <;> omega

/-- **A line that the text has is found in it.** -/
theorem exists_lineStart {line : Int} (h : line ≤ lineCount code) :
    ∃ start, lineStart? code line = some start := by
  refine Option.ne_none_iff_exists'.mp fun hnone => ?_
  have hbreaks := lineStart?_eq_none_iff.mp hnone
  have hcount := lineCount_le code
  omega

theorem lineCount_append (h : b ≠ []) : lineCount (a ++ b) = a.breaks + lineCount b := by
  have hb : b.isEmpty = false := by simpa using h
  have hab : (a ++ b).isEmpty = false := by simp [h]
  rw [lineCount, lineCount, hb, hab, Text.breaks_append, getLast?_append a h]
  exact Nat.add_assoc ..

theorem lineCount_pos (h : b ≠ []) : 1 ≤ lineCount b := by
  rw [lineCount, if_neg (by simp [h])]
  split
  · rename_i hlast
    exact List.count_pos_iff.mpr (List.mem_of_getLast? hlast)
  · exact Nat.le_add_left ..

theorem WholeLines.lineCount_le (h : WholeLines a) : lineCount a ≤ a.breaks := by
  rw [lineCount]
  split
  · exact Nat.zero_le _
  · rename_i hne
    have hlast : a.getLast? = some '\n' := by
      have ha : a ≠ [] := by simpa using hne
      rw [List.getLast?_eq_some_getLast ha, h _ (List.getLast?_eq_some_getLast ha)]
    rw [if_pos hlast]
    exact Nat.le_refl _

/-- **The line behind whole lines exists** if anything follows them. -/
theorem le_lineCount_iff (h : WholeLines a) : a.breaks + 1 ≤ lineCount (a ++ b) ↔ b ≠ [] := by
  refine ⟨fun hle hnil => ?_, fun hne => ?_⟩
  · rw [hnil, List.append_nil] at hle
    have := h.lineCount_le
    omega
  · rw [lineCount_append hne]
    have := lineCount_pos hne
    omega

/-! ## The last line -/

/-- **Whole lines in front do not touch the last line.** -/
theorem lastLine_append (h : WholeLines a) (b : Text) : (a ++ b).lastLine = b.lastLine := by
  have hnone : a.reverse.takeWhile (· ≠ '\n') = [] := by
    cases hr : a.reverse with
    | nil => rfl
    | cons c r =>
      have hc : c = '\n' := h c (by rw [← List.head?_reverse, hr]; rfl)
      simp [hc]
  rw [Text.lastLine, Text.lastLine, List.reverse_append, List.takeWhile_append]
  split
  · rename_i hlen
    have hfull := (List.takeWhile_prefix (fun c => c ≠ '\n') (l := b.reverse)).eq_of_length hlen
    rw [hnone, List.append_nil, hfull]
  · rfl

/-- **The last line starts behind whole lines** and has no break. -/
theorem exists_lastLine (t : Text) :
    ∃ a, t = a ++ t.lastLine ∧ WholeLines a ∧ '\n' ∉ t.lastLine := by
  refine ⟨(t.reverse.dropWhile (· ≠ '\n')).reverse, ?_, ?_, ?_⟩
  · rw [Text.lastLine, ← List.reverse_append, List.takeWhile_append_dropWhile, List.reverse_reverse]
  · intro c hc
    rw [List.getLast?_reverse] at hc
    have hnot := List.head?_dropWhile_not (fun c => decide (c ≠ '\n')) t.reverse
    rw [hc] at hnot
    simpa using hnot
  · intro hmem
    rw [Text.lastLine, List.mem_reverse] at hmem
    simpa using List.all_eq_true.mp List.all_takeWhile _ hmem

end CallEdits.Source
