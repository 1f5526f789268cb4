import CallEdits.Report.Outline
import Mathlib

/-!
# Proofs/OutlineNodes — what a line of a report can come to

    line ──▸ dropped
         ──▸ heading, whose name is the start of the line
         ──▸ call, whose number is in front of the line
         ──▸ refused

`readLine_cases` says once what comes of a line.  The name on a heading is not empty, and no mark
that ends a line stands in it.  The number of a call has at most `digitLimit` digits, so it can be
written again; and too many digits are the only fault that a number in front of a line can have.
-/

namespace CallEdits

/-! ## Lines and digits -/

namespace Text

/-- **No mark that ends a line stands in it.** -/
theorem endsLine_of_mem_linesFrom {start t : Text} (hstart : ∀ c ∈ start, endsLine c = false) :
    ∀ line ∈ linesFrom start t, ∀ c ∈ line, endsLine c = false := by
  fun_induction linesFrom start t with
  | case1 => simp
  | case2 start =>
    intro line hline c hc
    rw [List.mem_singleton.mp hline, List.mem_reverse] at hc
    exact hstart c hc
  | case3 start r ih =>
    intro line hline c hc
    rcases List.mem_cons.mp hline with rfl | hline
    · exact hstart c (List.mem_reverse.mp hc)
    · exact ih (fun _ h => nomatch h) line hline c hc
  | case4 start d r _ _ ih =>
    intro line hline c hc
    rcases List.mem_cons.mp hline with rfl | hline
    · exact hstart c (List.mem_reverse.mp hc)
    · exact ih (fun _ h => nomatch h) line hline c hc
  | case5 start d r _ hd ih =>
    refine ih fun c hc => ?_
    rcases List.mem_cons.mp hc with rfl | hc
    · exact Bool.eq_false_iff.mpr hd
    · exact hstart c hc

theorem endsLine_of_mem_lines {t line : Text} (h : line ∈ lines t) {c : Char} (hc : c ∈ line) :
    endsLine c = false := by
  have hstart : ∀ d ∈ ([] : Text), endsLine d = false := by simp
  exact endsLine_of_mem_linesFrom hstart line h c hc

theorem digitValueIn_lt {n d : Nat} : ∀ (zeros : List Nat), digitValueIn zeros n = some d → d < 10
  | [], h => nomatch h
  | z :: rest, h => by
      rw [digitValueIn] at h
      split at h
      · cases h
      split at h
      · obtain rfl := Option.some.inj h
        omega
      · exact digitValueIn_lt rest h

/-- **A digit is less than ten**, in every script. -/
theorem digitValue?_lt {c : Char} {d : Nat} (h : digitValue? c = some d) : d < 10 := by
  rw [digitValue?] at h
  split at h
  · rename_i hdigit
    obtain rfl := Option.some.inj h
    have hle : c.toNat ≤ 57 := by
      simp only [Char.isDigit, Bool.and_eq_true, decide_eq_true_eq] at hdigit
      exact hdigit.2
    omega
  · exact digitValueIn_lt _ h

end Text

namespace Numeral

theorem valueFrom_lt : ∀ (digits : Text) (n : Nat),
    valueFrom n digits < (n + 1) * 10 ^ digits.length
  | [], n => by simp [valueFrom]
  | c :: digits, n => by
      have hdigit : (Text.digitValue? c).getD 0 < 10 := by
        cases h : Text.digitValue? c with
        | none => exact Nat.zero_lt_succ _
        | some d => exact Text.digitValue?_lt h
      have hrest := valueFrom_lt digits (10 * n + (Text.digitValue? c).getD 0)
      have hgrow : (10 * n + (Text.digitValue? c).getD 0 + 1) * 10 ^ digits.length
          ≤ (10 * (n + 1)) * 10 ^ digits.length :=
        Nat.mul_le_mul_right _ (by omega)
      rw [List.length_cons, Nat.pow_succ']
      calc valueFrom n (c :: digits)
          < (10 * n + (Text.digitValue? c).getD 0 + 1) * 10 ^ digits.length := hrest
        _ ≤ (10 * (n + 1)) * 10 ^ digits.length := hgrow
        _ = (n + 1) * (10 * 10 ^ digits.length) := by rw [Nat.mul_comm 10, Nat.mul_assoc]

/-- **A number that was read can be written.** -/
theorem length_ofNat_of_read {t : Text} {n : Nat} (h : read t = .ok n) :
    (ofNat n).length ≤ digitLimit := by
  simp only [read] at h
  split at h
  · cases h
  rename_i hlimit
  split at h
  · cases h
  obtain rfl := Except.ok.inj h
  refine (Nat.length_toDigits_le_iff (by decide) (by decide)).mpr ?_
  refine Nat.lt_of_lt_of_le (valueFrom_lt _ 0) ?_
  rw [Nat.zero_add, Nat.one_mul]
  exact Nat.pow_le_pow_right (by decide) (Nat.not_lt.mp hlimit)

/-- **Digits are no number only if there are too many of them.** -/
theorem eq_tooManyDigits_of_read {digits : Text} {fault : Fault} (hne : digits ≠ [])
    (hdigits : ∀ d ∈ digits, Text.isDecimal d = true) (h : read digits = .error fault) :
    fault = .tooManyDigits digits.length := by
  have hall : digits.takeWhile Text.isDecimal = digits := List.takeWhile_eq_self_iff.mpr hdigits
  rw [read, hall] at h
  split at h
  · exact (Except.error.inj h).symm
  · simp [hne] at h

end Numeral

namespace Report

open Text (endsLine isDecimal)

/-! ## The parts of a line -/

variable {layout : Layout} {position : Nat} {raw body name text : Text} {node : Node}
  {nodes : List Node} {failure : Failure}

theorem callDigits?_eq_some {digits : Text} (h : callDigits? body = some digits) :
    digits ≠ [] ∧ ∀ d ∈ digits, isDecimal d = true := by
  simp only [callDigits?] at h
  split at h
  · split at h
    · cases h
    · rename_i hne
      obtain rfl := Option.some.inj h
      exact ⟨fun hnil => hne (List.isEmpty_iff.mpr hnil), fun d => List.mem_takeWhile_imp⟩
  · cases h

theorem suffix_of_afterStart? {start t rest : Text} (h : afterStart? start t = some rest) :
    rest <:+ t := by
  rw [afterStart?] at h
  split at h
  · obtain rfl := Option.some.inj h
    exact List.drop_suffix ..
  · cases h

/-- **The name on a heading is the start of its line**, and not empty. -/
theorem headingName?_spec (h : headingName? body = some name) : name ≠ [] ∧ name <+: body := by
  simp only [headingName?, bind, Option.bind_eq_some_iff] at h
  obtain ⟨noun, hnoun, counted, hcounted, backwards, hbackwards, h⟩ := h
  split at h
  · cases h
  rename_i hempty
  obtain rfl := Option.some.inj h
  have hne : ¬ backwards.isEmpty = true := fun hb => hempty (by rw [hb, Bool.or_true])
  refine ⟨by simpa using hne, List.reverse_suffix.mp ?_⟩
  rw [List.reverse_reverse]
  -- Each part is read behind the one before, from the end of the line on.
  have hnoun' : (if noun.head? = some 's' then noun.drop 1 else noun) <:+ noun := by
    split
    · exact List.drop_suffix ..
    · exact List.suffix_rfl
  have hbackwards' := (suffix_of_afterStart? hbackwards).trans (List.drop_suffix ..)
  have hcounted' := (suffix_of_afterStart? hcounted).trans hnoun'
  exact hbackwards'.trans (hcounted'.trans
    ((suffix_of_afterStart? hnoun).trans (List.dropWhile_suffix _)))

/-! ## One line -/

/-- **What comes of a line**: it is dropped; or the columns of a level are none; or it is a call,
unless its number is too long; or it is a heading; or it is neither. -/
theorem readLine_cases (layout : Layout) (position : Nat) (raw : Text) :
    readLine layout position raw = .ok none
      ∨ (layout.indentUnit = 0 ∧ readLine layout position raw = .error .zeroIndent)
      ∨ (∃ digits, callDigits? (raw.dropWhile (· = ' ')) = some digits
          ∧ ((∃ fault, Numeral.read digits = .error fault
                ∧ readLine layout position raw = .error (.numeral fault))
              ∨ ∃ margin line, Numeral.read digits = .ok line
                ∧ readLine layout position raw = .ok (some ⟨margin, position, .call line⟩)))
      ∨ (∃ margin name, headingName? (raw.dropWhile (· = ' ')) = some name
          ∧ readLine layout position raw = .ok (some ⟨margin, position, .heading name⟩))
      ∨ readLine layout position raw = .error (.malformed (.unexpected raw) position) := by
  rw [readLine]
  dsimp only
  generalize raw.dropWhile (· = ' ') = body
  split
  · exact .inl rfl
  split
  · rename_i hunit
    exact .inr (.inl ⟨hunit, rfl⟩)
  split
  · exact .inl rfl
  cases hdigits : callDigits? body with
  | some digits =>
    refine .inr (.inr (.inl ⟨digits, rfl, ?_⟩))
    dsimp only
    cases Numeral.read digits with
    | error fault => exact .inl ⟨fault, rfl, rfl⟩
    | ok line => exact .inr ⟨_, line, rfl, rfl⟩
  | none =>
    dsimp only
    cases headingName? body with
    | some name => exact .inr (.inr (.inr (.inl ⟨_, name, rfl, rfl⟩)))
    | none => exact .inr (.inr (.inr (.inr rfl)))

/-- **A line that counts** is a call with a number that was read, or a heading with its name. -/
theorem item_of_readLine (h : readLine layout position raw = .ok (some node)) :
    (∃ digits line, Numeral.read digits = .ok line ∧ node.item = .call line)
      ∨ ∃ name, headingName? (raw.dropWhile (· = ' ')) = some name ∧ node.item = .heading name := by
  rcases readLine_cases layout position raw with
    hline | ⟨_, hline⟩ | ⟨digits, _, ⟨_, _, hline⟩ | ⟨margin, line, hread, hline⟩⟩
      | ⟨margin, name, hname, hline⟩ | hline
  · cases h.symm.trans hline
  · cases h.symm.trans hline
  · cases h.symm.trans hline
  · obtain rfl := Option.some.inj (Except.ok.inj (h.symm.trans hline))
    exact .inl ⟨digits, line, hread, rfl⟩
  · obtain rfl := Option.some.inj (Except.ok.inj (h.symm.trans hline))
    exact .inr ⟨name, hname, rfl⟩
  · cases h.symm.trans hline

/-- **What an item of an outline is like**: a heading has a name, in which no line ends; a call has
a number that can be written. -/
def Item.Regular : Item → Prop
  | .heading name => name ≠ [] ∧ ∀ c ∈ name, endsLine c = false
  | .call line => (Numeral.ofNat line).length ≤ Numeral.digitLimit

theorem regular_of_readLine (hraw : ∀ c ∈ raw, endsLine c = false)
    (h : readLine layout position raw = .ok (some node)) : node.item.Regular := by
  rcases item_of_readLine h with ⟨digits, line, hread, hitem⟩ | ⟨name, hname, hitem⟩
  · rw [hitem]
    exact Numeral.length_ofNat_of_read hread
  · rw [hitem]
    obtain ⟨hne, hstart⟩ := headingName?_spec hname
    exact ⟨hne, fun c hc => hraw c ((List.dropWhile_suffix _).subset (hstart.subset hc))⟩

/-- **Why a line is refused.** -/
theorem readLine_eq_error (h : readLine layout position raw = .error failure) :
    layout.indentUnit = 0 ∧ failure = .zeroIndent
      ∨ (∃ digits, failure = .numeral (.tooManyDigits digits))
      ∨ failure = .malformed (.unexpected raw) position := by
  rcases readLine_cases layout position raw with
    hline | ⟨hunit, hline⟩ | ⟨digits, hdigits, ⟨fault, hread, hline⟩ | ⟨_, _, _, hline⟩⟩
      | ⟨_, _, _, hline⟩ | hline
  · cases h.symm.trans hline
  · exact .inl ⟨hunit, Except.error.inj (h.symm.trans hline)⟩
  · obtain rfl := Except.error.inj (h.symm.trans hline)
    obtain ⟨hne, hdecimal⟩ := callDigits?_eq_some hdigits
    rw [Numeral.eq_tooManyDigits_of_read hne hdecimal hread]
    exact .inr (.inl ⟨_, rfl⟩)
  · cases h.symm.trans hline
  · cases h.symm.trans hline
  · exact .inr (.inr (Except.error.inj (h.symm.trans hline)))

/-! ## All lines -/

theorem exists_line_of_mem_outlineFrom {lines : List Text}
    (h : outlineFrom layout position lines = .ok nodes) (hnode : node ∈ nodes) :
    ∃ raw ∈ lines, ∃ n, readLine layout n raw = .ok (some node) := by
  induction lines generalizing position nodes with
  | nil =>
    obtain rfl := Except.ok.inj h
    cases hnode
  | cons raw lines ih =>
    rw [outlineFrom] at h
    split at h
    · cases h
    rename_i node? hline
    split at h
    · cases h
    rename_i more hmore
    obtain rfl := Except.ok.inj h
    rcases List.mem_append.mp hnode with hnode | hnode
    · rw [Option.mem_toList] at hnode
      exact ⟨raw, List.mem_cons_self, position, hnode ▸ hline⟩
    · obtain ⟨other, hother, n, hread⟩ := ih hmore hnode
      exact ⟨other, List.mem_cons_of_mem _ hother, n, hread⟩

/-- A report is refused for one of its lines. -/
theorem exists_line_of_outlineFrom_error {lines : List Text}
    (h : outlineFrom layout position lines = .error failure) :
    ∃ raw ∈ lines, ∃ n, readLine layout n raw = .error failure := by
  induction lines generalizing position with
  | nil => cases h
  | cons raw lines ih =>
    rw [outlineFrom] at h
    split at h
    · rename_i hline
      exact ⟨raw, List.mem_cons_self, position, Except.error.inj h ▸ hline⟩
    split at h
    · rename_i hmore
      obtain rfl := Except.error.inj h
      obtain ⟨other, hother, n, hread⟩ := ih hmore
      exact ⟨other, List.mem_cons_of_mem _ hother, n, hread⟩
    · cases h

/-- **All items of an outline are regular.** -/
theorem regular_of_mem_outline (h : outline layout text = .ok nodes) (hnode : node ∈ nodes) :
    node.item.Regular := by
  obtain ⟨raw, hraw, n, hread⟩ := exists_line_of_mem_outlineFrom h hnode
  exact regular_of_readLine (fun c => Text.endsLine_of_mem_lines hraw) hread

end Report

end CallEdits
