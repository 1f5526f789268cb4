import CallEdits.Location

/-!
# Proofs/LocationOrder — the order in which a run handles locations

Locations are compared by path, then by line.  The order is total, so sorting puts every list in
order, and no two locations are equal in it, so there is one such order for every list: what is in
order is the sort of all lists with the same locations (`sort_eq_of_perm`).  Hence the first
locations of a sorted list are sorted (`sort_take_sort`), and those picked from it too
(`sort_filter`); two lists of which one comes before the other are sorted apart (`sort_append`); and
the locations of one file come by line (`sort_eq`).  Paths alone are sorted too, and then only count
which paths they are (`sort_eq_sort`).
-/

namespace CallEdits

/-! ## Texts -/

namespace Text

theorem le_iff {s t : Text} : s.le t = true ↔ s < t ∨ s = t := decide_eq_true_iff

theorem le_trans (s t u : Text) (hst : s.le t = true) (htu : t.le u = true) : s.le u = true := by
  rw [le_iff] at hst htu ⊢
  rcases hst with hst | rfl
  · rcases htu with htu | rfl
    · exact .inl (List.lt_trans hst htu)
    · exact .inl hst
  · exact htu

theorem le_total (s t : Text) : (s.le t || t.le s) = true := by
  rw [Bool.or_eq_true, le_iff, le_iff]
  rcases List.le_total s t with h | h
  · exact .inl (List.le_iff_lt_or_eq.mp h)
  · exact .inr (List.le_iff_lt_or_eq.mp h)

theorem le_antisymm {s t : Text} (hst : s.le t = true) (hts : t.le s = true) : s = t := by
  rcases le_iff.mp hst with hst | rfl
  · rcases le_iff.mp hts with hts | rfl
    · exact absurd (List.lt_trans hst hts) (List.lt_irrefl s)
    · rfl
  · rfl

theorem pairwise_sort (ts : List Text) : (sort ts).Pairwise fun s t => s.le t = true :=
  List.pairwise_mergeSort le_trans le_total ts

/-- **Texts that are all different are sorted by what they are.** -/
theorem sort_eq_sort {ts us : List Text} (hts : ts.Nodup) (hus : us.Nodup)
    (h : ∀ t, t ∈ ts ↔ t ∈ us) : sort ts = sort us := by
  have hsame : ts.Perm us := (List.perm_ext_iff_of_nodup hts hus).mpr h
  have hperm : (sort ts).Perm (sort us) :=
    (List.mergeSort_perm ..).trans (hsame.trans (List.mergeSort_perm ..).symm)
  exact hperm.eq_of_pairwise (fun _ _ _ _ => le_antisymm) (pairwise_sort ts) (pairwise_sort us)

/-- What is left without the repetitions is all different. -/
theorem nodup_eraseDups : ∀ ts : List Text, ts.eraseDups.Nodup
  | [] => List.nodup_nil
  | t :: rest => by
      rw [List.eraseDups_cons, List.nodup_cons, List.mem_eraseDups]
      exact ⟨by simp, nodup_eraseDups _⟩
termination_by ts => ts.length
decreasing_by exact Nat.lt_succ_of_le (List.length_filter_le ..)

end Text

/-! ## Locations -/

namespace Location

theorem le_iff {a b : Location} :
    a.le b = true ↔ a.path < b.path ∨ a.path = b.path ∧ a.line ≤ b.line := decide_eq_true_iff

theorem le_trans (a b c : Location) (hab : a.le b = true) (hbc : b.le c = true) :
    a.le c = true := by
  rw [le_iff] at hab hbc ⊢
  rcases hab with hab | ⟨hab, hline⟩
  · rcases hbc with hbc | ⟨hbc, -⟩
    · exact .inl (List.lt_trans hab hbc)
    · exact .inl (hbc ▸ hab)
  · rcases hbc with hbc | ⟨hbc, hline'⟩
    · exact .inl (hab ▸ hbc)
    · exact .inr ⟨hab.trans hbc, Int.le_trans hline hline'⟩

theorem le_total (a b : Location) : (a.le b || b.le a) = true := by
  rw [Bool.or_eq_true, le_iff, le_iff]
  by_cases hpath : a.path = b.path
  · rcases Int.le_total a.line b.line with h | h
    · exact .inl (.inr ⟨hpath, h⟩)
    · exact .inr (.inr ⟨hpath.symm, h⟩)
  · rcases List.le_total a.path b.path with h | h
    · rcases List.le_iff_lt_or_eq.mp h with h | h
      · exact .inl (.inl h)
      · exact absurd h hpath
    · rcases List.le_iff_lt_or_eq.mp h with h | h
      · exact .inr (.inl h)
      · exact absurd h.symm hpath

theorem le_antisymm {a b : Location} (hab : a.le b = true) (hba : b.le a = true) : a = b := by
  obtain ⟨path, line⟩ := a
  obtain ⟨path', line'⟩ := b
  rcases le_iff.mp hab with hlt | ⟨rfl, hle⟩
  · rcases le_iff.mp hba with hlt' | ⟨rfl, -⟩
    · exact absurd (List.lt_trans hlt hlt') (List.lt_irrefl path)
    · exact absurd hlt (List.lt_irrefl _)
  · have hge : line' ≤ line := ((le_iff.mp hba).resolve_left (List.lt_irrefl path)).2
    exact congrArg (mk path) (Int.le_antisymm hle hge)

theorem pairwise_sort (locations : List Location) :
    (sort locations).Pairwise fun a b => a.le b = true :=
  List.pairwise_mergeSort le_trans le_total locations

/-- **What is in order is the sort** of every list with the same locations. -/
theorem sort_eq_of_perm {locations ordered : List Location} (hperm : locations.Perm ordered)
    (hordered : ordered.Pairwise fun a b => a.le b = true) : sort locations = ordered :=
  ((List.mergeSort_perm ..).trans hperm).eq_of_pairwise (fun _ _ _ _ => le_antisymm)
    (pairwise_sort locations) hordered

/-- **Sorting forgets the order in which locations were given.** -/
theorem sort_congr {locations locations' : List Location} (h : locations.Perm locations') :
    sort locations = sort locations' :=
  sort_eq_of_perm (h.trans (List.mergeSort_perm ..).symm) (pairwise_sort locations')

@[simp] theorem sort_sort (locations : List Location) : sort (sort locations) = sort locations :=
  sort_congr (List.mergeSort_perm ..)

/-- **Locations that are picked are sorted as they were among the others.** -/
theorem sort_filter (p : Location → Bool) (locations : List Location) :
    sort (locations.filter p) = (sort locations).filter p :=
  sort_eq_of_perm ((List.mergeSort_perm ..).symm.filter p) ((pairwise_sort locations).filter p)

/-- **Locations that all come before others are sorted before them.** -/
theorem sort_append {first second : List Location}
    (h : ∀ a ∈ first, ∀ b ∈ second, a.le b = true) :
    sort (first ++ second) = sort first ++ sort second := by
  refine sort_eq_of_perm ((List.mergeSort_perm ..).symm.append (List.mergeSort_perm ..).symm) ?_
  exact List.pairwise_append.mpr ⟨pairwise_sort first, pairwise_sort second, fun a ha b hb =>
    h a (List.mem_mergeSort.mp ha) b (List.mem_mergeSort.mp hb)⟩

/-- **Locations that are all different come by path, then by line.** -/
theorem pairwise_lt_sort {locations : List Location} (h : locations.Nodup) :
    (sort locations).Pairwise fun a b => a.path < b.path ∨ a.path = b.path ∧ a.line < b.line := by
  have hnodup : (sort locations).Nodup := (List.mergeSort_perm ..).nodup_iff.mpr h
  refine (pairwise_sort locations).imp₂ (fun a b hle hne => ?_) hnodup
  rcases le_iff.mp hle with hpath | ⟨hpath, hline⟩
  · exact .inl hpath
  · refine .inr ⟨hpath, Int.lt_iff_le_and_ne.mpr ⟨hline, fun hsame => hne ?_⟩⟩
    obtain ⟨_, _⟩ := a
    obtain ⟨_, _⟩ := b
    rw [mk.injEq]
    exact ⟨hpath, hsame⟩

/-- The first locations of a sorted list are in order already. -/
theorem sort_take_sort (locations : List Location) (j : Nat) :
    sort ((sort locations).take j) = (sort locations).take j :=
  List.mergeSort_of_pairwise ((pairwise_sort locations).sublist (List.take_sublist j _))

/-- **Locations of one file are handled by line.** -/
theorem sort_eq {α : Type} {path : Text} {line : α → Int} {items : List α}
    {locations : List Location} (hperm : locations.Perm (items.map fun a => ⟨path, line a⟩))
    (hlines : items.Pairwise fun a b => line a < line b) :
    sort locations = items.map fun a => ⟨path, line a⟩ := by
  refine sort_eq_of_perm hperm (List.pairwise_map.mpr (hlines.imp fun {a b} hline => ?_))
  exact le_iff.mpr (.inr ⟨rfl, Int.le_of_lt hline⟩)

end Location

end CallEdits
