import CallEdits.Proofs.WrittenFiles

/-!
# Proofs/PlainPaths — paths that name one file each

A path is *plain* if none of the parts between its slashes is empty, `.` or `..`.  A plain path is
read part by part and every part leads one folder down, so below one root two plain paths lead to
one place only if they are the same (`eq_of_resolve_eq`).  The backup of a plain path stands under
the path with `.bak` after it (`extend?_append`), which is plain again.

    src/api.c      ──▸  [src, api.c]
    src/api.c.bak  ──▸  [src, api.c.bak]
-/

namespace CallEdits

/-! ## Pieces of a text -/

namespace Text

theorem splitOn_go_eq (c : Char) : ∀ t piece : Text,
    splitOn.go c t piece = List.splitOnPPrepend (· == c) t piece
  | [], piece => by rw [splitOn.go, List.splitOnPPrepend_nil]
  | d :: r, piece => by
      rw [splitOn.go, List.splitOnPPrepend_cons_eq_if, splitOn_go_eq c r, splitOn_go_eq c r]
      by_cases h : d = c <;> simp [h]

/-- The pieces of a text are those of a list. -/
theorem splitOn_eq (c : Char) (t : Text) : splitOn c t = List.splitOn c t := splitOn_go_eq c t []

theorem splitOn_cons (c d : Char) (t : Text) :
    splitOn c (d :: t) = if d = c then [] :: splitOn c t
      else (splitOn c t).modifyHead (d :: ·) := by
  rw [splitOn_eq, splitOn_eq, List.splitOn_cons_eq_if_modifyHead]
  by_cases h : d = c <;> simp [h]

theorem join_splitOn (c : Char) (t : Text) : join [c] (splitOn c t) = t := by
  rw [join, splitOn_eq, List.intercalate_splitOn]

/-- **A text is known by its pieces.** -/
theorem splitOn_inj {c : Char} {s t : Text} (h : splitOn c s = splitOn c t) : s = t := by
  rw [← join_splitOn c s, h, join_splitOn]

/-- What is put after a text is put after its last piece, if it holds no separator. -/
theorem exists_splitOn_append {c : Char} {extra : Text} (hextra : c ∉ extra) : ∀ t : Text,
    ∃ first last, splitOn c t = first ++ [last] ∧ splitOn c (t ++ extra) = first ++ [last ++ extra]
  | [] => by
      refine ⟨[], [], rfl, ?_⟩
      rw [List.nil_append, splitOn_eq, List.splitOn_eq_singleton hextra]
      rfl
  | d :: t => by
      obtain ⟨first, last, ht, hboth⟩ := exists_splitOn_append hextra t
      rw [List.cons_append, splitOn_cons, splitOn_cons, ht, hboth]
      by_cases h : d = c
      · exact ⟨[] :: first, last, by simp [h], by simp [h]⟩
      · cases first with
        | nil => exact ⟨[], d :: last, by simp [h], by simp [h]⟩
        | cons piece first => exact ⟨(d :: piece) :: first, last, by simp [h], by simp [h]⟩

end Text

namespace Path

/-! ## Plain paths -/

/-- **A plain path**: relative, and without a part that is empty, `.` or `..`. -/
def Plain (t : Text) : Prop :=
  ∀ part ∈ t.splitOn '/', part ≠ [] ∧ part ≠ ['.'] ∧ part ≠ Disk.parent

instance : DecidablePred Plain := fun t =>
  inferInstanceAs (Decidable (∀ part ∈ t.splitOn '/', _))

/-- What stands at the end of the name of a backup. -/
def backupSuffix : Text := ".bak".toList

variable {t u : Text} {root : Path}

/-- A plain path is relative, and all of its parts count. -/
theorem Plain.ofText_eq (h : Plain t) : ofText t = ⟨.here, t.splitOn '/'⟩ := by
  have hanchor : t.takeWhile (· = '/') = [] := by
    cases t with
    | nil => rfl
    | cons c r =>
      refine List.takeWhile_cons_of_neg fun hslash => ?_
      have hfirst : ([] : Text) ∈ Text.splitOn '/' (c :: r) := by
        rw [Text.splitOn_cons, if_pos (of_decide_eq_true hslash)]
        exact List.mem_cons_self
      exact (h [] hfirst).1 rfl
  have hparts : partsOf t = t.splitOn '/' := by
    refine List.filter_eq_self.mpr fun part hpart => ?_
    obtain ⟨hne, hdot, -⟩ := h part hpart
    simp [hne, hdot]
  simp only [ofText, hanchor, hparts, List.length_nil]

/-- A plain path below a root. -/
theorem Plain.append_eq (h : Plain t) (root : Path) :
    root ++ ofText t = { root with parts := root.parts ++ t.splitOn '/' } := by
  rw [h.ofText_eq]
  rfl

/-- **The backup of a plain path is plain.** -/
theorem Plain.backup (h : Plain t) : Plain (t ++ backupSuffix) := by
  obtain ⟨first, last, ht, hboth⟩ :=
    Text.exists_splitOn_append (by decide : '/' ∉ backupSuffix) t
  intro part hpart
  rw [hboth, List.mem_append, List.mem_singleton] at hpart
  rcases hpart with hpart | rfl
  · exact h part (ht ▸ List.mem_append_left _ hpart)
  · have hlong : 4 ≤ (last ++ backupSuffix).length := by
      rw [List.length_append]
      exact Nat.le_add_left ..
    refine ⟨?_, ?_, ?_⟩ <;>
      exact fun hshort => absurd (hshort ▸ hlong) (by decide)

/-- **The backup of a plain path stands under the longer path.** -/
theorem Plain.extend?_append (h : Plain t) (root : Path) :
    (root ++ ofText t).extend? backupSuffix = some (root ++ ofText (t ++ backupSuffix)) := by
  obtain ⟨first, last, ht, hboth⟩ :=
    Text.exists_splitOn_append (by decide : '/' ∉ backupSuffix) t
  rw [h.append_eq, h.backup.append_eq, ht, hboth, extend?]
  simp [← List.append_assoc]

end Path

namespace Disk

/-! ## Where plain paths lead -/

variable {d : Disk} {folder names : List Text} {root : Path} {t u : Text}

theorem follow_append (d : Disk) (rest : List Text) : ∀ (parts folder : List Text),
    d.follow folder (parts ++ rest) = (d.follow folder parts).bind fun reached =>
      d.follow reached rest
  | [], folder => rfl
  | name :: parts, folder => by
      rw [List.cons_append, follow, follow]
      cases d.get? folder with
      | none => rfl
      | some entry =>
        cases entry with
        | file content => rfl
        | folder =>
          dsimp only
          rw [follow_append d rest parts, follow_append d rest parts]
          split
          · rfl
          · split <;> rfl

/-- Parts other than `..` lead down. -/
theorem eq_append_of_follow : ∀ (parts folder : List Text), (∀ part ∈ parts, part ≠ parent) →
    d.follow folder parts = .ok names → names = folder ++ parts
  | [], folder, _, h => by
      rw [List.append_nil]
      exact (Except.ok.inj h).symm
  | name :: parts, folder, hparts, h => by
      rw [follow] at h
      split at h
      · cases h
      · cases h
      · rw [if_neg (hparts name List.mem_cons_self)] at h
        split at h
        · cases h
        · rw [eq_append_of_follow parts _ (fun part hpart => hparts part
            (List.mem_cons_of_mem _ hpart)) h, List.append_assoc, List.singleton_append]

/-- **A plain path leads down from the folder of its root.** -/
theorem exists_folder_of_resolve (hplain : Path.Plain t)
    (h : d.resolve (root ++ Path.ofText t) = .ok names) :
    ∃ folder, d.follow (d.start root.anchor) root.parts = .ok folder
      ∧ names = folder ++ t.splitOn '/' := by
  have hfollow := (resolve_eq_ok_iff.mp h).2
  rw [hplain.append_eq, follow_append] at hfollow
  cases hroot : d.follow (d.start root.anchor) root.parts with
  | error cause =>
    rw [hroot] at hfollow
    exact nomatch hfollow
  | ok folder =>
    rw [hroot] at hfollow
    exact ⟨folder, rfl, eq_append_of_follow _ folder (fun part hpart => (hplain part hpart).2.2)
      hfollow⟩

/-- **Two plain paths that lead to one place are the same.** -/
theorem eq_of_resolve_eq (ht : Path.Plain t) (hu : Path.Plain u)
    (hnames : d.resolve (root ++ Path.ofText t) = .ok names)
    (hsame : d.resolve (root ++ Path.ofText u) = .ok names) : t = u := by
  obtain ⟨folder, hfolder, rfl⟩ := exists_folder_of_resolve ht hnames
  obtain ⟨folder', hfolder', heq⟩ := exists_folder_of_resolve hu hsame
  obtain rfl := Except.ok.inj (hfolder.symm.trans hfolder')
  exact Text.splitOn_inj (List.append_cancel_left heq)

end Disk

end CallEdits
