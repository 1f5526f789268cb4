import CallEdits.Proofs.PlainPaths
import CallEdits.Proofs.RunSteps
import CallEdits.Proofs.WriteOutcomes
import Mathlib

/-!
# Proofs/Backups — a backup holds the file as it was at first

The backup of a file is made from the file on the disk, right before the first write of the file,
and never again.  That it holds the file as it was when the run began needs that nothing else has
written the file since: other locations have other plain paths, so they lead to other files, and
their backups lead elsewhere too.

    write p:   secure p ──▸ backup of p = p on the disk = p at first
                        ╰─▸ p ∈ backedUp: no second backup
               writeFile p ──▸ p changes, no backup does

`Guarded` is the invariant; both halves of a write keep it (`Guarded.secure`, `Guarded.writeFile`).
-/

namespace CallEdits

open CallEdits.Path (Plain backupSuffix)

namespace Session

/-- **The changed files of a session have backups with their first content.**  Nothing was changed
but these files and their backups, so there is no new backup of any other plain path. -/
structure HasBackups (disk : Disk) (root : Path) (s : Session) : Prop where
  holds : ∀ path ∈ s.store.changed, ∃ content, disk.read (root ++ Path.ofText path) = .ok content
    ∧ s.disk.read (root ++ Path.ofText (path ++ backupSuffix)) = .ok content
  only : ∀ names, s.disk.get? names ≠ disk.get? names → ∃ path ∈ s.store.changed,
    disk.resolve (root ++ Path.ofText path) = .ok names
      ∨ disk.resolve (root ++ Path.ofText (path ++ backupSuffix)) = .ok names
  others : ∀ path, Plain path → path ∉ s.store.changed → path ++ backupSuffix ∉ s.store.changed →
    ∀ content, s.disk.read (root ++ Path.ofText (path ++ backupSuffix)) = .ok content
      ↔ disk.read (root ++ Path.ofText (path ++ backupSuffix)) = .ok content

/-! ## The invariant -/

/-- **The invariant of a run with backups**, between the disk at first and the session. -/
structure Guarded (disk : Disk) (root : Path) (encoding : Text) (paths : Set Text) (s : Session) :
    Prop where
  mode_eq : s.store.mode = .inPlace true
  root_eq : s.store.root = root
  encoding_eq : s.store.encoding = encoding
  folders : disk.SameFolders s.disk
  mem_paths : ∀ path ∈ s.store.backedUp, path ∈ paths
  written_sub : ∀ path ∈ s.store.written, path ∈ s.store.backedUp
  kept : ∀ path ∈ s.store.backedUp, ∃ names copies content,
    disk.Leads (root ++ Path.ofText path) names ∧ disk.get? names = some (.file content)
      ∧ disk.Leads (root ++ Path.ofText (path ++ backupSuffix)) copies
      ∧ s.disk.get? copies = some (.file content)
  rest : ∀ names, s.disk.get? names ≠ disk.get? names → ∃ path ∈ s.store.backedUp,
    disk.Leads (root ++ Path.ofText path) names
      ∨ disk.Leads (root ++ Path.ofText (path ++ backupSuffix)) names

variable {disk : Disk} {root : Path} {encoding : Text} {paths : Set Text} {s s' : Session}
  {path old : Text} {names : List Text} {content : Bytes}

theorem guarded_inPlace : Guarded disk root encoding paths (inPlace true disk root encoding) where
  mode_eq := rfl
  root_eq := rfl
  encoding_eq := rfl
  folders := .refl disk
  mem_paths := fun _ h => nomatch h
  written_sub := fun _ h => nomatch h
  kept := fun _ h => nomatch h
  rest := fun _ h => absurd rfl h

namespace Guarded

theorem congr (h : Guarded disk root encoding paths s) (hdisk : s'.disk = s.disk)
    (hstore : s'.store = s.store) : Guarded disk root encoding paths s' := by
  obtain ⟨h₁, h₂, h₃, h₄, h₅, h₆, h₇, h₈⟩ := h
  rw [← hdisk] at h₄ h₇ h₈
  rw [← hstore] at h₁ h₂ h₃ h₅ h₆ h₇ h₈
  exact ⟨h₁, h₂, h₃, h₄, h₅, h₆, h₇, h₈⟩

/-- A file that no backup was made of is as it was at first. -/
theorem get?_eq (h : Guarded disk root encoding paths s) (hplain : ∀ p ∈ paths, Plain p)
    (hbak : ∀ p ∈ paths, ∀ q ∈ paths, q ≠ p ++ backupSuffix) (hpath : path ∈ paths)
    (hnew : path ∉ s.store.backedUp) (hleads : disk.Leads (root ++ Path.ofText path) names) :
    s.disk.get? names = disk.get? names := by
  by_contra hne
  obtain ⟨p, hp, hsame | hsame⟩ := h.rest names hne
  · have hpath' := hplain p (h.mem_paths p hp)
    exact hnew (Disk.eq_of_resolve_eq (hplain path hpath) hpath' hleads.1 hsame.1 ▸ hp)
  · have hpath' := (hplain p (h.mem_paths p hp)).backup
    exact hbak p (h.mem_paths p hp) path hpath
      (Disk.eq_of_resolve_eq (hplain path hpath) hpath' hleads.1 hsame.1)

/-- **The first half of a write**: the backup that is made holds the file as it was at first. -/
theorem secure (h : Guarded disk root encoding paths s) (hplain : ∀ p ∈ paths, Plain p)
    (hbak : ∀ p ∈ paths, ∀ q ∈ paths, q ≠ p ++ backupSuffix) (hpath : path ∈ paths)
    (hnew : path ∉ s.store.backedUp) {copies : List Text}
    (hleads : disk.Leads (root ++ Path.ofText path) names)
    (hcontent : s.disk.get? names = some (.file content))
    (hcopies : disk.Leads (root ++ Path.ofText (path ++ backupSuffix)) copies) (log : List Event) :
    Guarded disk root encoding paths
      { s with disk := s.disk.put copies (.file content),
               store.backedUp := path :: s.store.backedUp, log } where
  mode_eq := h.mode_eq
  root_eq := h.root_eq
  encoding_eq := h.encoding_eq
  folders := h.folders.trans ((h.folders.leads hcopies).sameFolders content)
  mem_paths := by
    intro p hmem
    rcases List.mem_cons.mp hmem with rfl | hp
    · exact hpath
    · exact h.mem_paths p hp
  written_sub := fun p hp => List.mem_cons_of_mem _ (h.written_sub p hp)
  kept := by
    intro p hmem
    rcases List.mem_cons.mp hmem with rfl | hp
    · refine ⟨names, copies, content, hleads, ?_, hcopies, ?_⟩
      · rw [← h.get?_eq hplain hbak hpath hnew hleads, hcontent]
      · rw [Disk.get?_put _ hcopies.ne_nil, if_pos rfl]
    · obtain ⟨names', copies', content', hleads', hget', hcopies', hkept⟩ := h.kept p hp
      refine ⟨names', copies', content', hleads', hget', hcopies', ?_⟩
      have hne : copies' ≠ copies := by
        rintro rfl
        have hsame := Disk.eq_of_resolve_eq (hplain p (h.mem_paths p hp)).backup
          (hplain path hpath).backup hcopies'.1 hcopies.1
        exact hnew (List.append_cancel_right hsame ▸ hp)
      rw [Disk.get?_put _ hcopies.ne_nil, if_neg hne, hkept]
  rest := by
    intro names' hne
    rw [Disk.get?_put _ hcopies.ne_nil] at hne
    split at hne
    · rename_i heq
      exact ⟨path, List.mem_cons_self, .inr (heq ▸ hcopies)⟩
    · obtain ⟨p, hp, hcause⟩ := h.rest names' hne
      exact ⟨p, List.mem_cons_of_mem _ hp, hcause⟩

/-- **The second half of a write** changes no backup. -/
theorem writeFile (h : Guarded disk root encoding paths s) (hplain : ∀ p ∈ paths, Plain p)
    (hbak : ∀ p ∈ paths, ∀ q ∈ paths, q ≠ p ++ backupSuffix) (hpath : path ∈ s.store.backedUp)
    (hleads : disk.Leads (root ++ Path.ofText path) names) (content : Bytes) (log : List Event) :
    Guarded disk root encoding paths
      { s with disk := s.disk.put names (.file content),
               store.written := path :: s.store.written, log } where
  mode_eq := h.mode_eq
  root_eq := h.root_eq
  encoding_eq := h.encoding_eq
  folders := h.folders.trans ((h.folders.leads hleads).sameFolders content)
  mem_paths := h.mem_paths
  written_sub := by
    intro p hmem
    rcases List.mem_cons.mp hmem with rfl | hp
    · exact hpath
    · exact h.written_sub p hp
  kept := by
    intro p hp
    obtain ⟨names', copies', content', hleads', hget', hcopies', hkept⟩ := h.kept p hp
    refine ⟨names', copies', content', hleads', hget', hcopies', ?_⟩
    have hne : copies' ≠ names := by
      rintro rfl
      exact hbak p (h.mem_paths p hp) path (h.mem_paths path hpath)
        (Disk.eq_of_resolve_eq (hplain path (h.mem_paths path hpath))
          (hplain p (h.mem_paths p hp)).backup hleads.1 hcopies'.1)
    rw [Disk.get?_put _ hleads.ne_nil, if_neg hne, hkept]
  rest := by
    intro names' hne
    rw [Disk.get?_put _ hleads.ne_nil] at hne
    split at hne
    · rename_i heq
      exact ⟨path, hpath, .inl (heq ▸ hleads)⟩
    · exact h.rest names' hne

/-- **A write keeps the invariant**, and whatever it backs up it writes. -/
theorem write (h : Guarded disk root encoding paths s)
    (hutf8 : Encoding.ofName? encoding = some .utf8) (hplain : ∀ p ∈ paths, Plain p)
    (hbak : ∀ p ∈ paths, ∀ q ∈ paths, q ≠ p ++ backupSuffix) (hpath : path ∈ paths)
    (hload : (s.load path).1 = .ok old) (hsub : ∀ p ∈ s.store.backedUp, p ∈ s.store.written)
    (code : Text) :
    Guarded disk root encoding paths (s.write path code).2
      ∧ ∀ p ∈ (s.write path code).2.store.backedUp, p ∈ (s.write path code).2.store.written := by
  rw [load, h.mode_eq] at hload
  have hutf8' : Encoding.ofName? s.store.encoding = some .utf8 := by rw [h.encoding_eq, hutf8]
  have htarget : s.store.resolve path = root ++ Path.ofText path := by
    rw [Store.resolve, h.root_eq]
  obtain ⟨hnull, names, content, e, hleads, hget, hname, hdecode⟩ :=
    Disk.readText_eq_ok_iff.mp hload
  obtain rfl := Option.some.inj (hname.symm.trans hutf8')
  rw [htarget, h.folders.leads_iff] at hleads
  -- The second half, once the backup of the file is there.
  have hafter : ∀ t : Session, Guarded disk root encoding paths t → path ∈ t.store.backedUp →
      (∀ p ∈ t.store.backedUp, p = path ∨ p ∈ t.store.written) →
      Guarded disk root encoding paths (t.writeFile path code).2
        ∧ ∀ p ∈ (t.writeFile path code).2.store.backedUp,
            p ∈ (t.writeFile path code).2.store.written := by
    intro t ht hmem hsub'
    have hsame : t.store.encoding = s.store.encoding := ht.encoding_eq.trans h.encoding_eq.symm
    have hthere : t.disk.Leads (t.store.resolve path) names := by
      rw [Store.resolve, ht.root_eq]
      exact ht.folders.leads hleads
    obtain ⟨log, heq⟩ := writeFile_of_leads (hsame ▸ hnull) hthere (hsame ▸ hutf8') code
    rw [heq]
    refine ⟨ht.writeFile hplain hbak hmem hleads _ log, fun p hp => ?_⟩
    exact List.mem_cons.mpr (hsub' p hp)
  rw [write_inPlace h.mode_eq]
  obtain ⟨failure, hsecure, -⟩ | ⟨hmade, hsecure⟩
    | ⟨-, hnew, copy, copies, content', log, hcopy, hcopies, hencode, hsecure⟩ :=
    secure_cases hload hutf8'
  · rw [hsecure]
    exact ⟨h, hsub⟩
  · rw [hsecure]
    exact hafter s h (hmade h.mode_eq) fun p hp => .inr (hsub p hp)
  · rw [hsecure]
    obtain rfl : content = content' :=
      Except.ok.inj ((Encoding.encode_of_decode (by decide) hdecode).symm.trans hencode)
    have hcopy' : copy = root ++ Path.ofText (path ++ backupSuffix) := by
      have hextend := (hplain path hpath).extend?_append root
      rw [htarget] at hcopy
      exact Option.some.inj (hcopy.symm.trans hextend)
    rw [hcopy', h.folders.leads_iff] at hcopies
    refine hafter _ (h.secure hplain hbak hpath hnew hleads hget hcopies log) List.mem_cons_self
      fun p hp => ?_
    exact (List.mem_cons.mp hp).imp_right (hsub p)

/-- **What the invariant says in the end**, when all that was backed up is written. -/
theorem hasBackups (h : Guarded disk root encoding paths s) (hplain : ∀ p ∈ paths, Plain p)
    (hsub : ∀ p ∈ s.store.backedUp, p ∈ s.store.written) : HasBackups disk root s := by
  have hchanged : ∀ p, p ∈ s.store.changed ↔ p ∈ s.store.backedUp := by
    intro p
    rw [Store.changed, h.mode_eq]
    dsimp only
    rw [Text.sort, List.mem_mergeSort, List.mem_eraseDups]
    exact ⟨h.written_sub p, hsub p⟩
  refine ⟨fun p hp => ?_, fun names hne => ?_, fun p hp hnot hnot' content => ?_⟩
  · obtain ⟨names, copies, content, hleads, hget, hcopies, hkept⟩ := h.kept p ((hchanged p).mp hp)
    exact ⟨content, Disk.read_eq_ok_iff.mpr ⟨names, hleads, hget⟩,
      Disk.read_eq_ok_iff.mpr ⟨copies, h.folders.leads hcopies, hkept⟩⟩
  · obtain ⟨p, hp, hcause⟩ := h.rest names hne
    exact ⟨p, (hchanged p).mpr hp, hcause.imp (·.1) (·.1)⟩
  · have hsame : ∀ names, disk.Leads (root ++ Path.ofText (p ++ backupSuffix)) names →
        s.disk.get? names = disk.get? names := by
      intro names hleads
      by_contra hne
      obtain ⟨q, hq, hcause | hcause⟩ := h.rest names hne
      · have heq := Disk.eq_of_resolve_eq hp.backup (hplain q (h.mem_paths q hq)) hleads.1 hcause.1
        exact hnot' (heq ▸ (hchanged q).mpr hq)
      · have heq := Disk.eq_of_resolve_eq hp.backup (hplain q (h.mem_paths q hq)).backup hleads.1
          hcause.1
        exact hnot (List.append_cancel_right heq ▸ (hchanged q).mpr hq)
    rw [Disk.read_eq_ok_iff, Disk.read_eq_ok_iff]
    refine exists_congr fun names => ?_
    rw [h.folders.leads_iff]
    exact and_congr_right fun hleads => by rw [hsame names hleads]

end Guarded

end Session

namespace Editor

open Session

variable {e : Editor} {disk : Disk} {root : Path} {encoding : Text} {paths : Set Text}

/-- **A step keeps the invariant**, whatever comes of it. -/
theorem guarded_replaceAt (hutf8 : Encoding.ofName? encoding = some .utf8)
    (hplain : ∀ p ∈ paths, Plain p) (hbak : ∀ p ∈ paths, ∀ q ∈ paths, q ≠ p ++ backupSuffix)
    (location : Location) (hpath : location.path ∈ paths) (index : Int) (s : Session)
    (h : Guarded disk root encoding paths s ∧ ∀ p ∈ s.store.backedUp, p ∈ s.store.written) :
    Guarded disk root encoding paths (e.replaceAt location index s).2
      ∧ ∀ p ∈ (e.replaceAt location index s).2.store.backedUp,
          p ∈ (e.replaceAt location index s).2.store.written := by
  obtain ⟨hguarded, hsub⟩ := h
  obtain ⟨log, ⟨-, hstep⟩ | ⟨-, failure, hstep, -⟩ | ⟨-, code, edit, hload, -, hstep⟩⟩ :=
    e.replaceAt_cases location index s
  · rw [hstep]
    exact ⟨hguarded.congr rfl rfl, hsub⟩
  · rw [hstep]
    exact ⟨hguarded.congr rfl rfl, hsub⟩
  · obtain ⟨shifts, log', hcommit⟩ :=
      exists_commit_snd location (s.shift location.path) { s with log } edit
    rw [hstep, hcommit]
    have hkept : Guarded disk root encoding paths { s with log } := hguarded.congr rfl rfl
    obtain ⟨hwritten, hsub'⟩ := hkept.write hutf8 hplain hbak hpath
      ((s.load_log log _).trans hload) hsub edit.code
    exact ⟨hwritten.congr rfl rfl, hsub'⟩

/-- **The changed files of a run have backups with their first content**, after every step and at
the end, whether the run succeeds or not. -/
theorem run_has_backups (e : Editor) (disk : Disk) (root : Path)
    (hutf8 : Encoding.ofName? encoding = some .utf8) {locations : List Location}
    (hplain : ∀ l ∈ locations, Plain l.path)
    (hbak : ∀ l ∈ locations, ∀ l' ∈ locations, l'.path ≠ l.path ++ backupSuffix) :
    (∀ step ∈ e.steps 0 (Location.sort locations) (inPlace true disk root encoding),
        HasBackups disk root step.after)
      ∧ HasBackups disk root (e.run locations (inPlace true disk root encoding)).2 := by
  let paths : Set Text := {p | ∃ l ∈ locations, l.path = p}
  have hplain' : ∀ p ∈ paths, Plain p := by
    rintro p ⟨l, hl, rfl⟩
    exact hplain l hl
  have hbak' : ∀ p ∈ paths, ∀ q ∈ paths, q ≠ p ++ backupSuffix := by
    rintro p ⟨l, hl, rfl⟩ q ⟨l', hl', rfl⟩
    exact hbak l hl l' hl'
  let P : Session → Prop := fun s =>
    Guarded disk root encoding paths s ∧ ∀ p ∈ s.store.backedUp, p ∈ s.store.written
  have hstep : ∀ l ∈ Location.sort locations, ∀ index s, P s → P (e.replaceAt l index s).2 :=
    fun l hl => guarded_replaceAt hutf8 hplain' hbak' l ⟨l, List.mem_mergeSort.mp hl, rfl⟩
  have hstart : P (inPlace true disk root encoding) := ⟨guarded_inPlace, fun _ h => nomatch h⟩
  refine ⟨fun step hmem => ?_, ?_⟩
  · obtain ⟨hbefore, l, hl, i, heq⟩ := exists_location_of_mem_steps _ hstep 0 _ hstart hmem
    have hafter := hstep l hl i _ hbefore
    rw [heq] at hafter
    exact hafter.1.hasBackups hplain' hafter.2
  · have hend : P (e.run locations (inPlace true disk root encoding)).2 :=
      runFrom_preserves_of_mem (fun s log h => ⟨h.1.congr rfl rfl, h.2⟩) _ hstep [] _ hstart
    exact hend.1.hasBackups hplain' hend.2

/-- Two calls of one file are replaced before the run gives up at another file: the backup was made
before the first of them. -/
theorem run_has_backups_given_up :
    let e : Editor := ⟨['f'], Policy.apply (.leading {}), [".h".toList]⟩
    let a : Text := "a.c".toList
    let b : Text := "b.c".toList
    let code : Bytes := Utf8.encode "f(x);\nf(y);\n".toList
    let disk : Disk := ⟨[([a], .file code), ([b], .file [])], []⟩
    let locations : List Location := [⟨b, 1⟩, ⟨a, 1⟩, ⟨a, 2⟩]
    let s := e.run locations (inPlace true disk {} "utf-8".toList)
    (∀ l ∈ locations, Plain l.path)
      ∧ (∀ l ∈ locations, ∀ l' ∈ locations, l'.path ≠ l.path ++ backupSuffix)
      ∧ s.1 = .error (.fault (.overflow (some b) (some 1) (some 0)))
      ∧ s.2.store.changed = [a]
      ∧ s.2.disk.read (Path.ofText a)
        = .ok (Utf8.encode "f(ERR_0, x);\nf(ERR_1, y);\n".toList)
      ∧ s.2.disk.read ({} ++ Path.ofText (a ++ backupSuffix)) = .ok code := by
  intro e a b code disk locations s
  have hplain : ∀ l ∈ locations, Plain l.path := by decide
  have hbak : ∀ l ∈ locations, ∀ l' ∈ locations, l'.path ≠ l.path ++ backupSuffix := by decide
  have hfailure : s.1 = .error (.fault (.overflow (some b) (some 1) (some 0))) := by
    dsimp only [s, e, locations, disk, code, a, b]
    cbv
  have hchanged : s.2.store.changed = [a] := by
    dsimp only [s, e, locations, disk, code, a, b]
    cbv
  have hnow : s.2.disk.read (Path.ofText a)
      = .ok (Utf8.encode "f(ERR_0, x);\nf(ERR_1, y);\n".toList) := by
    dsimp only [s, e, locations, disk, code, a, b]
    cbv
  have hfirst : disk.read ({} ++ Path.ofText a) = .ok code := by
    dsimp only [disk, code, a]
    cbv
  have hutf8 : Encoding.ofName? "utf-8".toList = some .utf8 := by cbv
  obtain ⟨content, hcontent, hbackup⟩ :=
    (run_has_backups e disk {} hutf8 hplain hbak).2.holds a (by rw [hchanged]; decide)
  obtain rfl := Except.ok.inj (hfirst.symm.trans hcontent)
  exact ⟨hplain, hbak, hfailure, hchanged, hnow, hbackup⟩

end Editor

end CallEdits
