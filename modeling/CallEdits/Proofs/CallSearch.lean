import CallEdits.Call.Find

/-!
# Proofs/CallSearch — where the first call stands

`find` goes through a text from left to right and takes the first place where a call begins.  Two
facts about it carry everything that is said about edits:

* `occurs_of_find` — what is found stands in the text, with the name, the blanks and the opening
  parenthesis one after the other;
* `find_append_close` — a closing parenthesis separates: a text that ends with one is searched
  first, and only if it holds no call does the search go on behind it.  No call straddles a closing
  parenthesis, as neither a name nor a blank is one.
-/

namespace CallEdits.Call

variable {name code gap after : Text} {f : Found}

/-! ## What is found -/

/-- **A call that stands in a text.** -/
structure Found.Occurs (f : Found) (name code : Text) : Prop where
  text_eq : code = f.before ++ (name ++ (f.gap ++ f.after))
  blank : ∀ c ∈ f.gap, Text.isBlank c = true
  opens : ∃ r, f.after = '(' :: r

theorem callAt?_eq_some (h : callAt? name code = some (gap, after)) :
    code = name ++ (gap ++ after) ∧ (∀ c ∈ gap, Text.isBlank c = true) ∧ ∃ r, after = '(' :: r := by
  rw [callAt?] at h
  split at h
  · rename_i hp
    obtain ⟨t, rfl⟩ := List.isPrefixOf_iff_prefix.mp hp
    rw [List.drop_left] at h
    dsimp only at h
    split at h
    · rename_i r hr
      obtain ⟨rfl, rfl⟩ := Prod.mk.inj (Option.some.inj h)
      refine ⟨?_, fun c hc => ?_, r, rfl⟩
      · rw [← hr, List.takeWhile_append_dropWhile]
      · exact List.all_eq_true.mp List.all_takeWhile c hc
    · exact nomatch h
  · exact nomatch h

/-- The search keeps the text it has passed. -/
theorem occurs_of_findFrom : ∀ (code before : Text), findFrom name before code = some f →
    f.Occurs name (before.reverse ++ code)
  | [], _, h => nomatch h
  | c :: r, before, h => by
      rw [findFrom] at h
      split at h
      · rename_i gap after hcall
        split at hcall
        · obtain rfl := Option.some.inj h
          obtain ⟨hcode, hblank, hopens⟩ := callAt?_eq_some hcall
          exact ⟨congrArg (before.reverse ++ ·) hcode, hblank, hopens⟩
        · exact nomatch hcall
      · have hr := occurs_of_findFrom r (c :: before) h
        rwa [List.reverse_cons, List.append_assoc, List.singleton_append] at hr

/-- **What is found stands in the text.** -/
theorem occurs_of_find (h : find name code = some f) : f.Occurs name code :=
  occurs_of_findFrom code [] h

/-! ## Searching behind a closing parenthesis -/

/-- A text that holds a closing parenthesis decides by itself whether it begins with a call. -/
theorem callAt?_append (hname : ')' ∉ name) {a : Text} (ha : ')' ∈ a) (b : Text) :
    callAt? name (a ++ b) = (callAt? name a).map fun call => (call.1, call.2 ++ b) := by
  by_cases hp : name <+: a
  · obtain ⟨t, rfl⟩ := hp
    have ht : ')' ∈ t := (List.mem_append.mp ha).resolve_left hname
    have hpre : name.isPrefixOf (name ++ t) = true :=
      List.isPrefixOf_iff_prefix.mpr (List.prefix_append ..)
    have hpre' : name.isPrefixOf (name ++ (t ++ b)) = true :=
      List.isPrefixOf_iff_prefix.mpr (List.prefix_append ..)
    rw [List.append_assoc, callAt?, callAt?, if_pos hpre, if_pos hpre', List.drop_left,
      List.drop_left]
    -- The blanks after the name end before the closing parenthesis, so before `b`.
    have hne : t.dropWhile Text.isBlank ≠ [] := fun hnil =>
      absurd (Text.dropWhile_isBlank_eq_nil.mp hnil _ ht) (by decide)
    simp only [Text.takeWhile_isBlank_append hne, Text.dropWhile_isBlank_append hne]
    obtain ⟨c, r, hc⟩ := List.exists_cons_of_ne_nil hne
    rw [hc, List.cons_append]
    by_cases hopen : c = '('
    · subst hopen
      rfl
    · split
      · rename_i h
        exact absurd (List.cons.inj h).1 hopen
      · split
        · rename_i h
          exact absurd (List.cons.inj h).1 hopen
        · rfl
  · have hp' : ¬ name <+: a ++ b := fun h =>
      (List.prefix_or_prefix_of_prefix h (List.prefix_append a b)).elim hp
        fun ha' => hname (ha'.subset ha)
    rw [callAt?, callAt?, if_neg (by rwa [List.isPrefixOf_iff_prefix]),
      if_neg (by rwa [List.isPrefixOf_iff_prefix])]
    rfl

/-- No call begins with a closing parenthesis. -/
theorem callAt?_close (hname : ')' ∉ name) (b : Text) : callAt? name (')' :: b) = none := by
  cases hcall : callAt? name (')' :: b) with
  | none => rfl
  | some call =>
    obtain ⟨gap, after⟩ := call
    obtain ⟨htext, hblank, r, rfl⟩ := callAt?_eq_some hcall
    match name, gap, hname, hblank, htext with
    | n :: ns, _, hname, _, htext =>
      exact absurd (List.cons.inj htext).1 fun h => hname (h ▸ List.mem_cons_self)
    | [], g :: gs, _, hblank, htext =>
      have hg := hblank g List.mem_cons_self
      rw [← (List.cons.inj htext).1] at hg
      exact absurd hg (by decide)
    | [], [], _, _, htext => exact nomatch htext

/-- What the search has passed only matters where it begins, if a name may begin there. -/
theorem findFrom_append : ∀ (code u before : Text), (u = [] → standsFree before = true) →
    findFrom name (u ++ before) code
      = (findFrom name u code).map fun f => { f with before := before.reverse ++ f.before }
  | [], _, _, _ => rfl
  | c :: r, u, before, h => by
      have hfree : standsFree (u ++ before) = standsFree u := by
        cases u with
        | nil => exact h rfl
        | cons _ _ => rfl
      rw [findFrom, findFrom, hfree]
      split
      · simp
      · rw [← List.cons_append]
        exact findFrom_append r (c :: u) before fun hnil => nomatch hnil

/-- The search of a text with a closing parenthesis in it, after the text `before`. -/
theorem findFrom_append_close (hname : ')' ∉ name) (b : Text) : ∀ (a before : Text),
    findFrom name before (a ++ ')' :: b)
      = ((findFrom name before (a ++ [')'])).map fun f => { f with after := f.after ++ b }).or
          (findFrom name (')' :: (a.reverse ++ before)) b)
  | [], before => by
      simp [findFrom, callAt?_close hname]
  | c :: a, before => by
      have hcall := callAt?_append hname (a := c :: a ++ [')']) (by simp) b
      rw [List.append_assoc, List.singleton_append, List.cons_append, List.cons_append] at hcall
      rw [List.cons_append, List.cons_append, findFrom, findFrom, hcall]
      have ih := findFrom_append_close hname b a (c :: before)
      by_cases hfree : standsFree before = true
      · rw [if_pos hfree, if_pos hfree]
        cases callAt? name (c :: (a ++ [')'])) with
        | none => simpa using ih
        | some call => rfl
      · rw [if_neg hfree, if_neg hfree]
        simpa using ih

/-- **A closing parenthesis separates the search.** -/
theorem find_append_close (hname : ')' ∉ name) (a b : Text) :
    find name (a ++ ')' :: b)
      = ((find name (a ++ [')'])).map fun f => { f with after := f.after ++ b }).or
          ((find name b).map fun f => { f with before := a ++ ')' :: f.before }) := by
  have hback : findFrom name ([] ++ ')' :: a.reverse) b = _ := findFrom_append b [] _ fun _ => rfl
  rw [List.nil_append] at hback
  rw [find, findFrom_append_close hname b a [], List.append_nil, hback]
  simp [find]

end CallEdits.Call
