import CallEdits.Text.LowerCase
import Mathlib.Data.List.Infix

/-!
# Proofs/SmallLetters — endings of texts in small letters

The small letters of a text depend on the place: `Σ` looks at what stands around it, and `İ` becomes
two characters.  So lowering a text does not simply lower its end.  But an ending that is in small
letters already holds neither `Σ` nor `İ` and stays as it is, and `suffix_lower_iff` says that no
other ending survives in every text.

    path          = q ++ suffix
    path.lower    = u ++ lowerFrom b suffix        b: does a word run on into the ending?
-/

namespace CallEdits.Text

/-- **The end of a text is lowered by itself**, but for whether a word runs on into it. -/
theorem exists_lowerFrom_append (t : Text) : ∀ (s : Text) (inWord : Bool),
    ∃ u b, lowerFrom inWord (s ++ t) = u ++ lowerFrom b t
  | [], inWord => ⟨[], inWord, rfl⟩
  | c :: s, inWord => by
      obtain ⟨u, b, h⟩ := exists_lowerFrom_append t s (if isIgnorable c then inWord else isCased c)
      rw [List.cons_append, lowerFrom, h, ← List.append_assoc]
      exact ⟨_, b, rfl⟩

/-- Every character but one becomes one character. -/
theorem exists_lowerChar {c : Char} (h : c ≠ 'İ') : ∃ d, lowerChar c = [d] := by
  rw [lowerChar, if_neg h]
  split <;> exact ⟨_, rfl⟩

/-! ## Small letters stay -/

/-- **A text in small letters stays as it is**, whatever word runs on into it: it holds no `Σ`. -/
theorem lowerFrom_eq_self : ∀ {t : Text} {inWord : Bool}, lowerFrom inWord t = t →
    ∀ b, lowerFrom b t = t
  | [], _, _, _ => rfl
  | c :: r, inWord, h, b => by
      rw [lowerFrom] at h ⊢
      have hsigma : c ≠ 'Σ' := by
        rintro rfl
        rw [if_pos rfl, List.singleton_append] at h
        have hhead := (List.cons.inj h).1
        split at hhead <;> exact absurd hhead (by decide)
      rw [if_neg hsigma] at h ⊢
      have hdotted : c ≠ 'İ' := by
        rintro rfl
        exact absurd (List.cons.inj h).1 (by decide)
      obtain ⟨d, hd⟩ := exists_lowerChar hdotted
      rw [hd, List.singleton_append] at h
      obtain ⟨rfl, hrest⟩ := List.cons.inj h
      rw [hd, List.singleton_append, lowerFrom_eq_self hrest]

/-! ## What is no small letter -/

/-- Without `İ` the length stays. -/
theorem length_lowerFrom : ∀ {t : Text} (inWord : Bool), 'İ' ∉ t →
    (lowerFrom inWord t).length = t.length
  | [], _, _ => rfl
  | c :: r, inWord, h => by
      obtain ⟨hc, hr⟩ := not_or.mp (mt List.mem_cons.mpr h)
      obtain ⟨d, hd⟩ := exists_lowerChar (Ne.symm hc)
      rw [lowerFrom, List.length_append, length_lowerFrom _ hr, hd, List.length_cons, Nat.add_comm]
      split <;> rfl

/-- A small letter is the character itself, or stands at the distance of a run. -/
theorem smallIn_cases {m n : Nat} : ∀ {runs : List (Nat × Nat × Nat × Int)}, smallIn runs n = m →
    n = m ∨ ∃ run ∈ runs, run.1 ≤ n ∧ n ≤ run.2.1 ∧ ((n : Int) + run.2.2.2).toNat = m
  | [], h => .inl h
  | (first, last, step, distance) :: rest, h => by
      rw [smallIn] at h
      split at h
      · exact .inl h
      rename_i hfirst
      split at h
      · rename_i hlast
        split at h
        · exact .inr ⟨_, List.mem_cons_self, Nat.le_of_not_lt hfirst, hlast, h⟩
        · exact .inl h
      · rcases smallIn_cases h with h | ⟨run, hmem, hrun⟩
        · exact .inl h
        · exact .inr ⟨run, List.mem_cons_of_mem _ hmem, hrun⟩

/-- No run leads to `İ`. -/
theorem caseRuns_miss_dotted : ∀ run ∈ caseRuns,
    0x130 < (run.1 : Int) + run.2.2.2 ∨ (run.2.1 : Int) + run.2.2.2 < 0x130 := by decide +kernel

theorem toLower_ne_dotted {c : Char} (h : c.toNat < 0x80) : c.toLower ≠ 'İ' := by
  have hall : ∀ n : Fin 0x80, (Char.ofNat n).toLower ≠ 'İ' := by decide
  have := hall ⟨c.toNat, h⟩
  rwa [Char.ofNat_toNat] at this

/-- A number that gives a character is the number of it, unless no character has that number. -/
theorem eq_toNat_of_ofNat {n : Nat} {c : Char} (h : Char.ofNat n = c) (hc : c ≠ '\x00') :
    n = c.toNat := by
  by_cases hvalid : n.isValidChar
  · rw [← h, Char.ofNat, dif_pos hvalid]
    rfl
  · rw [Char.ofNat, dif_neg hvalid] at h
    exact absurd h.symm hc

/-- **`İ` is no small letter.** -/
theorem dotted_not_mem_lowerChar {c : Char} : 'İ' ∉ lowerChar c := by
  rw [lowerChar]
  split
  · rename_i hascii
    exact fun h => toLower_ne_dotted hascii (List.mem_singleton.mp h).symm
  split
  · decide
  rename_i hc
  intro h
  have hsmall : smallIn caseRuns c.toNat = 0x130 :=
    eq_toNat_of_ofNat (List.mem_singleton.mp h).symm (by decide)
  rcases smallIn_cases hsmall with hsame | ⟨run, hmem, hfirst, hlast, hdistance⟩
  · exact hc (by rw [← Char.ofNat_toNat c, hsame])
  · have := caseRuns_miss_dotted run hmem
    omega

theorem dotted_not_mem_lowerFrom : ∀ (inWord : Bool) (t : Text), 'İ' ∉ lowerFrom inWord t
  | _, [] => by simp [lowerFrom]
  | inWord, c :: r => by
      rw [lowerFrom, List.mem_append, not_or]
      refine ⟨?_, dotted_not_mem_lowerFrom _ r⟩
      split
      · split <;> decide
      · exact dotted_not_mem_lowerChar

/-- **An ending survives in every text if and only if it is in small letters.** -/
theorem suffix_lower_iff {ending : Text} :
    (∀ t : Text, ending <:+ t → ending <:+ t.lower) ↔ ending.lower = ending := by
  refine ⟨fun h => ?_, ?_⟩
  · have hself : ending <:+ ending.lower := h ending List.suffix_rfl
    have hdotted : 'İ' ∉ ending := fun hmem =>
      dotted_not_mem_lowerFrom false ending (hself.mem hmem)
    exact (hself.eq_of_length (length_lowerFrom false hdotted).symm).symm
  · rintro hsmall t ⟨s, rfl⟩
    obtain ⟨u, b, hu⟩ := exists_lowerFrom_append ending s false
    rw [lower, hu, lowerFrom_eq_self hsmall]
    exact List.suffix_append u ending

end CallEdits.Text
