/-!
# Table — entries under keys, in the order of their first coming

A table is a list of keys with their entries.  An entry put under a key that the table holds takes
the place of the old one, and otherwise comes last; a table is looked at through `List.lookup`.
-/

namespace CallEdits.Table

variable {κ α : Type} [BEq κ]

/-- The table with an entry under `key`. -/
def put (key : κ) (value : α) : List (κ × α) → List (κ × α)
  | [] => [(key, value)]
  | (k, v) :: rest => if k == key then (k, value) :: rest else (k, v) :: put key value rest

theorem lookup_cons (k k' : κ) (v : α) (t : List (κ × α)) :
    ((k', v) :: t).lookup k = if k == k' then some v else t.lookup k := by
  change (match k == k' with | true => some v | false => t.lookup k) = _
  cases k == k' <;> rfl

variable [LawfulBEq κ]

/-- **What is put is found under its key, and nothing else changes.** -/
theorem lookup_put (key k : κ) (value : α) :
    ∀ t : List (κ × α), (put key value t).lookup k = if k == key then some value else t.lookup k
  | [] => lookup_cons k key value []
  | (k', v) :: rest => by
      rw [put, lookup_cons]
      split
      · rename_i h
        rw [lookup_cons, eq_of_beq h]
        split <;> rfl
      · rename_i h
        rw [lookup_cons, lookup_put key k value rest]
        by_cases hk : k == key
        · rw [if_pos hk, if_pos hk, if_neg fun e : k == k' => h (eq_of_beq e ▸ hk)]
        · rw [if_neg hk, if_neg hk]

/-- The last entry that is put under a key counts. -/
theorem put_put (key : κ) (old new : α) :
    ∀ t : List (κ × α), put key new (put key old t) = put key new t
  | [] => by simp [put]
  | (k, v) :: rest => by
      by_cases h : k == key
      · simp [put, h]
      · simp [put, h, put_put key old new rest]

/-- The keys are the old ones and the new one. -/
theorem mem_keys_put (key k : κ) (value : α) :
    ∀ t : List (κ × α), k ∈ (put key value t).map Prod.fst ↔ k = key ∨ k ∈ t.map Prod.fst
  | [] => by simp [put]
  | (k', v) :: rest => by
      rw [put]
      split
      · rename_i h
        simp [eq_of_beq h]
      · simp only [List.map_cons, List.mem_cons, mem_keys_put key k value rest]
        exact or_left_comm

/-- The order of the keys depends on the keys alone. -/
theorem keys_put (key : κ) (value : α) :
    ∀ t : List (κ × α), (put key value t).map Prod.fst
      = if key ∈ t.map Prod.fst then t.map Prod.fst else t.map Prod.fst ++ [key]
  | [] => rfl
  | (k', v) :: rest => by
      rw [put]
      split
      · rename_i h
        simp [eq_of_beq h]
      · rename_i h
        have hne : key ≠ k' := fun heq => h (heq ▸ BEq.rfl)
        rw [List.map_cons, List.map_cons, keys_put key value rest]
        by_cases hk : key ∈ rest.map Prod.fst
        · rw [if_pos hk, if_pos (List.mem_cons_of_mem _ hk)]
        · rw [if_neg hk, if_neg (by simpa [hne] using hk), List.cons_append]

/-- Nothing is found under what is no key. -/
theorem lookup_eq_none_iff (k : κ) :
    ∀ t : List (κ × α), t.lookup k = none ↔ k ∉ t.map Prod.fst
  | [] => by simp
  | (k', v) :: rest => by
      rw [lookup_cons, List.map_cons, List.mem_cons, not_or, ← lookup_eq_none_iff k rest]
      by_cases h : k = k' <;> simp [h]

end CallEdits.Table
