import CallEdits.Proofs.CallSearch

/-!
# Proofs/FirstCalls — the call that is found is the first one

    code  =  before ++ name ++ gap ++ after        before free, gap blank, after = ( …

A text may hold many calls of a name: each is a cut of the text into these four parts, and the parts
follow from the length of the first one (`Found.Stands.eq_of_length`).  The search tries every place
once, from left to right, and passes a place only if no call stands there (`stands_iff_here`).  So
what it finds is the cut with the shortest `before` (`first_of_findFrom`), and it finds nothing only
where there is no cut at all (`passed_of_findFrom`).

Nothing is asked of the name.  It may be empty, and it may hold blanks and parentheses.
-/

namespace CallEdits.Call

variable {name code gap after : Text} {f f' : Found}

/-- **A call stands in a text**, and its name is not the end of a longer word. -/
structure Found.Stands (f : Found) (name code : Text) : Prop extends f.Occurs name code where
  free : ∀ c, f.before.getLast? = some c → Text.isWordChar c = false

/-! ## One place -/

/-- A text begins with a call if and only if it can be cut behind the name and the blanks. -/
theorem callAt?_eq_some_iff :
    callAt? name code = some (gap, after)
      ↔ code = name ++ (gap ++ after) ∧ (∀ c ∈ gap, Text.isBlank c = true)
        ∧ ∃ r, after = '(' :: r := by
  refine ⟨callAt?_eq_some, ?_⟩
  rintro ⟨rfl, hblank, r, rfl⟩
  have hopen : Text.isBlank '(' = false := by decide
  have hname : name.isPrefixOf (name ++ (gap ++ '(' :: r)) = true :=
    List.isPrefixOf_iff_prefix.mpr (List.prefix_append ..)
  simp only [callAt?, if_pos hname, List.drop_left, Text.dropWhile_blanks hblank hopen,
    Text.takeWhile_blanks hblank hopen]

/-- A name may begin behind a text that ends with no word character. -/
theorem standsFree_iff {before : Text} :
    standsFree before = true
      ↔ ∀ c, before.reverse.getLast? = some c → Text.isWordChar c = false := by
  rw [standsFree, List.getLast?_reverse]
  cases before.head? <;> simp

/-- **A place is passed if and only if no call stands there.** -/
theorem stands_iff_here {before : Text} :
    Found.Stands ⟨before.reverse, gap, after⟩ name (before.reverse ++ code)
      ↔ (if standsFree before then callAt? name code else none) = some (gap, after) := by
  constructor
  · rintro ⟨⟨htext, hblank, hopens⟩, hfree⟩
    rw [if_pos (standsFree_iff.mpr hfree), callAt?_eq_some_iff]
    exact ⟨List.append_cancel_left htext, hblank, hopens⟩
  · intro h
    split at h
    · rename_i hfree
      obtain ⟨rfl, hblank, hopens⟩ := callAt?_eq_some_iff.mp h
      exact ⟨⟨rfl, hblank, hopens⟩, standsFree_iff.mp hfree⟩
    · cases h

/-- **A call is known by the length of the text before it.** -/
theorem Found.Stands.eq_of_length (h : f.Stands name code) (h' : f'.Stands name code)
    (hlen : f.before.length = f'.before.length) : f = f' := by
  obtain ⟨before, gap, after⟩ := f
  obtain ⟨before', gap', after'⟩ := f'
  obtain ⟨r, rfl⟩ := h.opens
  obtain ⟨r', rfl⟩ := h'.opens
  obtain ⟨rfl, hrest⟩ := List.append_inj (h.text_eq.symm.trans h'.text_eq) hlen
  have hopen : Text.isBlank '(' = false := by decide
  obtain ⟨rfl, hafter⟩ := Text.blanks_inj h.blank h'.blank hopen hopen
    (List.append_cancel_left hrest)
  rw [hafter]

/-- A call ends behind the text before it. -/
theorem Found.Stands.before_lt (h : f.Stands name code) : f.before.length < code.length := by
  obtain ⟨r, hr⟩ := h.opens
  rw [h.text_eq, hr]
  simp only [List.length_append, List.length_cons]
  omega

/-- Where the search has passed a place, every further call begins behind it. -/
theorem Found.Stands.lt_of_passed {before : Text} (h : f.Stands name (before.reverse ++ code))
    (hpassed : (if standsFree before then callAt? name code else none) = none)
    (hle : before.length ≤ f.before.length) : before.length < f.before.length := by
  refine Nat.lt_of_le_of_ne hle fun hlen => ?_
  obtain ⟨before', gap, after⟩ := f
  obtain ⟨rfl, -⟩ := List.append_inj h.text_eq (by rwa [List.length_reverse])
  exact nomatch hpassed.symm.trans (stands_iff_here.mp h)

/-! ## All places -/

/-- **What the search finds stands in the text**, and no call that it has yet to reach stands before
it. -/
theorem first_of_findFrom : ∀ (code before : Text), findFrom name before code = some f →
    f.Stands name (before.reverse ++ code)
      ∧ ∀ f' : Found, f'.Stands name (before.reverse ++ code) →
          before.length ≤ f'.before.length → f.before.length ≤ f'.before.length
  | [], _, h => nomatch h
  | c :: r, before, h => by
      rw [findFrom] at h
      split at h
      · rename_i gap after hhere
        obtain rfl := Option.some.inj h
        refine ⟨stands_iff_here.mpr hhere, fun f' _ hle => ?_⟩
        rwa [List.length_reverse]
      · rename_i hpassed
        obtain ⟨hstands, hfirst⟩ := first_of_findFrom r (c :: before) h
        rw [List.reverse_cons, List.append_assoc, List.singleton_append] at hstands hfirst
        exact ⟨hstands, fun f' hf' hle => hfirst f' hf' (hf'.lt_of_passed hpassed hle)⟩

/-- **A search that finds nothing has passed every call.** -/
theorem passed_of_findFrom : ∀ (code before : Text), findFrom name before code = none →
    ∀ f : Found, f.Stands name (before.reverse ++ code) → f.before.length < before.length
  | [], before, _, f, hf => by
      have hlt := hf.before_lt
      rwa [List.append_nil, List.length_reverse] at hlt
  | c :: r, before, h, f, hf => by
      rw [findFrom] at h
      split at h
      · cases h
      · rename_i hpassed
        have hrest := passed_of_findFrom r (c :: before) h f
          (by rwa [List.reverse_cons, List.append_assoc, List.singleton_append])
        -- It begins before the next place, and so before this one, where no call stands.
        refine Nat.lt_of_not_le fun hle => ?_
        exact absurd (hf.lt_of_passed hpassed hle) (Nat.not_lt.mpr (Nat.le_of_lt_succ hrest))

/-- **The first call of a name is found, and nothing else.**  The parts that are found cut the text
around a call, and no call has less text before it; and nothing is found if and only if no call of
the name stands in the text. -/
theorem find_is_leftmost (name code : Text) :
    (∀ before gap after, find name code = some ⟨before, gap, after⟩
        ↔ Found.Stands ⟨before, gap, after⟩ name code
          ∧ ¬ ∃ f : Found, f.Stands name code ∧ f.before.length < before.length)
      ∧ (find name code = none ↔ ¬ ∃ f : Found, f.Stands name code) := by
  have hsome : ∀ {f : Found}, find name code = some f →
      f.Stands name code ∧ ∀ f' : Found, f'.Stands name code →
        f.before.length ≤ f'.before.length := by
    intro f hf
    obtain ⟨hstands, hfirst⟩ := first_of_findFrom code [] hf
    exact ⟨hstands, fun f' hf' => hfirst f' hf' (Nat.zero_le _)⟩
  have hnone : find name code = none → ∀ f : Found, ¬ f.Stands name code := fun h f hf =>
    absurd (passed_of_findFrom code [] h f hf) (Nat.not_lt_zero _)
  refine ⟨fun before gap after => ⟨fun h => ?_, ?_⟩, fun h => ?_, fun h => ?_⟩
  · obtain ⟨hstands, hfirst⟩ := hsome h
    refine ⟨hstands, ?_⟩
    rintro ⟨f', hf', hlt⟩
    exact absurd (hfirst f' hf') (Nat.not_le.mpr hlt)
  · rintro ⟨hstands, hfirst⟩
    cases hfind : find name code with
    | none => exact absurd hstands (hnone hfind _)
    | some f =>
      obtain ⟨hf, hmin⟩ := hsome hfind
      have hge : before.length ≤ f.before.length :=
        Nat.not_lt.mp fun hlt => hfirst ⟨f, hf, hlt⟩
      rw [hf.eq_of_length hstands (Nat.le_antisymm (hmin _ hstands) hge)]
  · rintro ⟨f, hf⟩
    exact hnone h f hf
  · cases hfind : find name code with
    | none => rfl
    | some f => exact absurd ⟨f, (hsome hfind).1⟩ h

end CallEdits.Call
