import CallEdits.Proofs.TouchedFiles
import Mathlib

/-!
# Proofs/KeptTexts — what every edit keeps, a run keeps of every file

    write listed:   backup of listed ──▸ over the file of path?      BacksUpOver
                    text of listed   ──▸ into the file of path?      then it was its text before

A property of texts that no edit destroys is kept of every file, listed or not, by one name or by
several: a file is written only with an edit of its own text.  The backup of another file is the one
text that comes from elsewhere, and `BacksUpOver` says when one lands on the file.  A step keeps the
property unless that happens (`holding_replaceAt`), and so does a run (`run_keeps_texts`), broken
off or not.
-/

namespace CallEdits

open CallEdits.Path (Plain backupSuffix)

/-! ## Files beside each other -/

namespace Disk

variable {d : Disk} {p q copy : Path} {names others : List Text} {encoding t : Text}

/-- Two paths of one file read the same text. -/
theorem Leads.readText_of_leads (hp : d.Leads p names) (hq : d.Leads q names)
    (h : d.readText p encoding = .ok t) : d.readText q encoding = .ok t := by
  obtain ⟨hnull, names', content, e, hp', hget, hname, hdecode⟩ := readText_eq_ok_iff.mp h
  obtain rfl := Except.ok.inj (hp.1.symm.trans hp'.1)
  exact readText_eq_ok_iff.mpr ⟨hnull, names, content, e, hq, hget, hname, hdecode⟩

/-- Writing a file leaves the texts of all others. -/
theorem Leads.readText_put_of_not_leads (hq : d.Leads q others) (hp : ¬ d.Leads p others)
    (content : Bytes) (h : d.readText p encoding = .ok t) :
    (d.put others (.file content)).readText p encoding = .ok t := by
  obtain ⟨hnull, names, bytes, e, hleads, hget, hname, hdecode⟩ := readText_eq_ok_iff.mp h
  have hne : names ≠ others := fun heq => hp (heq ▸ hleads)
  refine readText_eq_ok_iff.mpr
    ⟨hnull, names, bytes, e, (hq.sameFolders content).leads hleads, ?_, hname, hdecode⟩
  rw [get?_put _ hq.ne_nil, if_neg hne, hget]

/-- Where the last name leads from the folder before it. -/
theorem exists_folder_of_follow {start parts : List Text} {name : Text}
    (h : d.follow start (parts ++ [name]) = .ok names) :
    ∃ folder, d.follow start parts = .ok folder
      ∧ names = if name = parent then folder.dropLast else folder ++ [name] := by
  rw [follow_append] at h
  cases hfolder : d.follow start parts with
  | error cause =>
    rw [hfolder] at h
    cases h
  | ok folder =>
    rw [hfolder, Except.bind, follow] at h
    refine ⟨folder, rfl, ?_⟩
    split at h
    · cases h
    · cases h
    split at h
    · rename_i hparent
      rw [if_pos hparent]
      exact (Except.ok.inj h).symm
    rename_i hparent
    split at h
    · cases h
    · rw [if_neg hparent]
      exact (Except.ok.inj h).symm

/-- **No backup is put over the file that it is a backup of**: it stands beside it, under a longer
name. -/
theorem Leads.not_leads_of_extend? (h : d.Leads p names)
    (hcopy : p.extend? backupSuffix = some copy) : ¬ d.Leads copy names := by
  intro hover
  rw [Path.extend?] at hcopy
  split at hcopy
  · cases hcopy
  rename_i last hlast
  obtain rfl := Option.some.inj hcopy
  have hfollow := (resolve_eq_ok_iff.mp h.1).2
  rw [← List.dropLast_append_getLast? last hlast] at hfollow
  obtain ⟨folder, hfolder, hnames⟩ := exists_folder_of_follow hfollow
  obtain ⟨folder', hfolder', hnames'⟩ :=
    exists_folder_of_follow (resolve_eq_ok_iff.mp hover.1).2
  obtain rfl := Except.ok.inj (hfolder.symm.trans hfolder')
  have hlong : (last ++ backupSuffix).length = last.length + 4 := List.length_append
  have hnotParent : last ++ backupSuffix ≠ parent := by
    intro hparent
    have hshort : (last ++ backupSuffix).length = 2 := congrArg List.length hparent
    omega
  rw [if_neg hnotParent] at hnames'
  split at hnames
  · -- The parent of a folder has fewer names than a file in it.
    have hlength := congrArg List.length (hnames'.symm.trans hnames)
    rw [List.length_append, List.length_dropLast, List.length_singleton] at hlength
    omega
  · have hsame := List.append_cancel_left (hnames'.symm.trans hnames)
    have hlength := congrArg List.length (List.singleton_inj.mp hsame)
    omega

end Disk

namespace Session

variable {s s' : Session} {path listed old new : Text} {R : Text → Prop} {paths : Set Text}

/-- **The text of a path has a property.** -/
def TextHas (s : Session) (path : Text) (R : Text → Prop) : Prop :=
  ∃ text, (s.load path).1 = .ok text ∧ R text

/-- **Is the backup of one path due, and would it be put over the file of another?** -/
def BacksUpOver (s : Session) (listed path : Text) : Prop :=
  s.store.mode = .inPlace true ∧ listed ∉ s.store.backedUp
    ∧ ∃ copy names, (s.store.resolve listed).extend? backupSuffix = some copy
      ∧ s.disk.Leads copy names ∧ s.disk.Leads (s.store.resolve path) names

theorem not_backsUpOver_self : ¬ s.BacksUpOver path path := by
  rintro ⟨-, -, copy, names, hcopy, hleads, hpath⟩
  exact hpath.not_leads_of_extend? hcopy hleads

/-- **Of plain paths only the backup of its own name is put over a file.** -/
theorem not_backsUpOver_of_plain (hlisted : Plain listed) (hpath : Plain path)
    (hne : path ≠ listed ++ backupSuffix) : ¬ s.BacksUpOver listed path := by
  rintro ⟨-, -, copy, names, hcopy, hleads, hleads'⟩
  obtain rfl := Option.some.inj ((hlisted.extend?_append s.store.root).symm.trans hcopy)
  exact hne (Disk.eq_of_resolve_eq hpath hlisted.backup hleads'.1 hleads.1)

/-! ## One write -/

theorem load_inPlace {backup : Bool} (hmode : s.store.mode = .inPlace backup) (path : Text) :
    (s.load path).1 = s.disk.readText (s.store.resolve path) s.store.encoding := by
  rw [load, hmode]
  rfl

theorem textHas_inPlace {b : Bool} (hmode : s.store.mode = .inPlace b) :
    s.TextHas path R
      ↔ ∃ text, s.disk.readText (s.store.resolve path) s.store.encoding = .ok text ∧ R text := by
  rw [TextHas, load_inPlace hmode]

theorem TextHas.congr (h : s.TextHas path R) (hdisk : s'.disk = s.disk)
    (hstore : s'.store = s.store) : s'.TextHas path R := by
  obtain ⟨text, hload, hR⟩ := h
  exact ⟨text, (load_congr hdisk hstore).trans hload, hR⟩

/-- A backup that is put elsewhere leaves the text of a path. -/
theorem TextHas.secure (h : s.TextHas path R) {backup : Bool} {e : Encoding}
    (hmode : s.store.mode = .inPlace backup) (hname : Encoding.ofName? s.store.encoding = some e)
    (hread : s.disk.readText (s.store.resolve listed) s.store.encoding = .ok old)
    (hover : ¬ s.BacksUpOver listed path) : (s.secure listed).2.TextHas path R := by
  obtain ⟨failure, hsecure, -⟩ | ⟨-, hsecure⟩
    | ⟨hbackup, hdue, copy, copies, content, log, hcopy, hcopies, -, hsecure⟩ :=
    secure_cases hread hname
  · rw [hsecure]
    exact h
  · rw [hsecure]
    exact h
  · rw [hsecure]
    obtain ⟨text, htext, hR⟩ := (textHas_inPlace hmode).mp h
    have hclear : ¬ s.disk.Leads (s.store.resolve path) copies := fun hleads =>
      hover ⟨hbackup, hdue, copy, copies, hcopy, hcopies, hleads⟩
    refine (textHas_inPlace (b := backup) ?_).mpr ⟨text, ?_, hR⟩
    · exact hmode
    · exact hcopies.readText_put_of_not_leads hclear content htext

/-- A text that is written in UTF-8 is the text of all paths of its file, and of no others. -/
theorem TextHas.writeFile (h : s.TextHas path R) {backup : Bool} {names : List Text}
    (hmode : s.store.mode = .inPlace backup)
    (hutf8 : Encoding.ofName? s.store.encoding = some .utf8)
    (hleads : s.disk.Leads (s.store.resolve listed) names)
    (hnew : s.disk.Leads (s.store.resolve path) names → R new) :
    (s.writeFile listed new).2.TextHas path R := by
  obtain ⟨text, htext, hR⟩ := (textHas_inPlace hmode).mp h
  have hnull := (Disk.readText_eq_ok_iff.mp htext).1
  obtain ⟨log, hwrite⟩ := writeFile_of_leads hnull hleads hutf8 new
  rw [hwrite]
  refine (textHas_inPlace (b := backup) ?_).mpr ?_
  · exact hmode
  by_cases hsame : s.disk.Leads (s.store.resolve path) names
  · have hwritten : s.disk.writeText (s.store.resolve path) s.store.encoding new
        = (.ok (), s.disk.put names (.file (Utf8.encode new))) :=
      Disk.writeText_eq_ok_iff.mpr ⟨hnull, names, .utf8, _, hsame, hutf8, rfl, rfl⟩
    exact ⟨new, Disk.readText_of_writeText hwritten, hnew hsame⟩
  · exact ⟨text, hleads.readText_put_of_not_leads hsame _ htext, hR⟩

/-- **Writing an edited text keeps what the edit keeps**, whether the write succeeds or not, unless
a backup is put over the file. -/
theorem TextHas.write (h : s.TextHas path R)
    (hstore : s.store.mode = .dry ∨ Encoding.ofName? s.store.encoding = some .utf8)
    (hload : (s.load listed).1 = .ok old) (hnew : R old → R new)
    (hover : ¬ s.BacksUpOver listed path) : (s.write listed new).2.TextHas path R := by
  cases hmode : s.store.mode with
  | dry =>
    obtain ⟨text, htext, hR⟩ := h
    by_cases hsame : path = listed
    · subst hsame
      obtain rfl := Except.ok.inj (hload.symm.trans htext)
      have hwrite : s.write path new = (.ok (), (s.write path new).2) := by
        rw [Session.write, hmode]
      exact ⟨new, (load_of_write hwrite).1, hnew hR⟩
    · refine ⟨text, ?_, hR⟩
      rw [← htext]
      have hlookup : (Table.put listed new s.store.overlay).lookup path
          = s.store.overlay.lookup path := by
        rw [Table.lookup_put, if_neg (by simpa using hsame)]
      simp only [Session.write, load, loadFile, note, hmode, hlookup, Store.resolve]
      cases s.store.overlay.lookup path <;> rfl
  | inPlace backup =>
    have hutf8 : Encoding.ofName? s.store.encoding = some .utf8 := by
      refine hstore.resolve_left fun hdry => ?_
      cases hmode.symm.trans hdry
    rw [load_inPlace hmode] at hload
    obtain ⟨-, names, -, -, hleads, -⟩ := Disk.readText_eq_ok_iff.mp hload
    -- A path of the same file has the text that was edited.
    have hown : s.disk.Leads (s.store.resolve path) names → R new := by
      intro hsame
      obtain ⟨text, htext, hR⟩ := (textHas_inPlace hmode).mp h
      obtain rfl := Except.ok.inj (hload.symm.trans (hsame.readText_of_leads hleads htext))
      exact hnew hR
    have hsecured := h.secure hmode hutf8 hload hover
    rw [write_inPlace hmode]
    obtain ⟨failure, hsecure, -⟩ | ⟨-, hsecure⟩
      | ⟨-, -, copy, copies, content, log, -, hcopies, -, hsecure⟩ := secure_cases hload hutf8
    · rw [hsecure]
      exact h
    · rw [hsecure]
      exact h.writeFile hmode hutf8 hleads hown
    · rw [hsecure] at hsecured ⊢
      have hfolders := hcopies.sameFolders content
      exact hsecured.writeFile hmode hutf8 (hfolders.leads hleads)
        fun hsame => hown (hfolders.leads_iff.mp hsame)

/-- Backups that were made stay made. -/
theorem backedUp_subset_write (s : Session) (path code : Text) :
    s.store.backedUp ⊆ (s.write path code).2.store.backedUp := by
  have hfile : ∀ t : Session, (t.writeFile path code).2.store.backedUp = t.store.backedUp := by
    intro t
    simp only [Session.writeFile]
    split <;> rfl
  have hbackUp : s.store.backedUp ⊆ (s.backUp path).2.store.backedUp := by
    simp only [backUp]
    split
    · exact List.Subset.refl _
    split
    · exact List.Subset.refl _
    split
    · exact List.Subset.refl _
    · exact List.subset_cons_self ..
  rw [Session.write]
  split
  · exact List.Subset.refl _
  split
  · rcases hmade : s.backUp path with ⟨failure | _, t⟩
    · rwa [hmade] at hbackUp
    · rw [hmade] at hbackUp
      exact (hfile t).symm ▸ hbackUp
  · exact (hfile s).symm ▸ List.Subset.refl _

/-- No backup becomes due, and none comes to lead elsewhere. -/
theorem BacksUpOver.of_confined (h : Confined paths s s')
    (hsub : s.store.backedUp ⊆ s'.store.backedUp) (hover : s'.BacksUpOver listed path) :
    s.BacksUpOver listed path := by
  obtain ⟨hmode, hdue, copy, names, hcopy, hleads, hpath⟩ := hover
  rw [Store.resolve, h.root_eq] at hcopy hpath
  exact ⟨h.mode_eq ▸ hmode, fun hmem => hdue (hsub hmem), copy, names, hcopy,
    h.folders.leads_iff.mp hleads, h.folders.leads_iff.mp hpath⟩

/-- **The invariant of a run that writes for `paths`**: the session is a dry one or writes UTF-8, no
backup is put over the file of `path`, and its text has the property. -/
structure Holding (R : Text → Prop) (path : Text) (paths : Set Text) (s : Session) : Prop where
  store : s.store.mode = .dry ∨ Encoding.ofName? s.store.encoding = some .utf8
  clear : ∀ listed ∈ paths, ¬ s.BacksUpOver listed path
  text : s.TextHas path R

theorem Holding.of_confined (h : Holding R path paths s) (hconfined : Confined paths s s')
    (hsub : s.store.backedUp ⊆ s'.store.backedUp) (htext : s'.TextHas path R) :
    Holding R path paths s' where
  store := by
    rw [hconfined.mode_eq, hconfined.encoding_eq]
    exact h.store
  clear := fun listed hlisted hover => h.clear listed hlisted (hover.of_confined hconfined hsub)
  text := htext

end Session

/-! ## Steps and runs -/

namespace Editor

open Session

variable {e : Editor} {path : Text} {R : Text → Prop} {paths : Set Text}

/-- **A step keeps what every edit keeps**, whatever comes of it. -/
theorem holding_replaceAt (location : Location)
    (hedit : ∀ target index code edit, R code → e.edit location target index code = .ok edit →
      R edit.code)
    (hpath : e.isDeclaration location.path = false → location.path ∈ paths) (index : Int)
    (s : Session) (h : Holding R path paths s) :
    Holding R path paths (e.replaceAt location index s).2 := by
  have hconfined := e.confined_replaceAt location index s hpath
  obtain ⟨log, ⟨-, hstep⟩ | ⟨-, failure, hstep, -⟩ | ⟨hdecl, code, edit, hload, hok, hstep⟩⟩ :=
    e.replaceAt_cases location index s
  · rw [hstep] at hconfined ⊢
    exact h.of_confined hconfined (List.Subset.refl _) (h.text.congr rfl rfl)
  · rw [hstep] at hconfined ⊢
    exact h.of_confined hconfined (List.Subset.refl _) (h.text.congr rfl rfl)
  · obtain ⟨shifts, log', hcommit⟩ :=
      exists_commit_snd location (s.shift location.path) { s with log } edit
    rw [hstep, hcommit] at hconfined ⊢
    have htext : ({ s with log } : Session).TextHas path R := h.text.congr rfl rfl
    have hwritten := htext.write h.store ((s.load_log log _).trans hload)
      (fun hcode => hedit _ _ code edit hcode hok) (h.clear _ (hpath hdecl))
    exact h.of_confined hconfined (backedUp_subset_write { s with log } location.path edit.code)
      (hwritten.congr rfl rfl)

/-- **After every replaced call of a run, and at its end**, whether it succeeds or not. -/
def Throughout (e : Editor) (locations : List Location) (s : Session) (Q : Session → Prop) : Prop :=
  (∀ step ∈ e.steps 0 (Location.sort locations) s, Q step.after) ∧ Q (e.run locations s).2

theorem Throughout.mono {locations : List Location} {s : Session} {Q Q' : Session → Prop}
    (h : e.Throughout locations s Q) (himp : ∀ t, Q t → Q' t) : e.Throughout locations s Q' :=
  ⟨fun step hstep => himp _ (h.1 step hstep), himp _ h.2⟩

/-- **What every edit keeps, a run keeps of every file**, unless the backup of a listed file is put
over it. -/
theorem run_keeps_texts {locations : List Location} {s : Session}
    (hedit : ∀ location target index code edit, R code →
      e.edit location target index code = .ok edit → R edit.code)
    (hstore : s.store.mode = .dry ∨ Encoding.ofName? s.store.encoding = some .utf8)
    (hover : ∀ l ∈ locations, l.path ≠ path → e.isDeclaration l.path = false →
      ¬ s.BacksUpOver l.path path)
    (htext : s.TextHas path R) : e.Throughout locations s (·.TextHas path R) := by
  let paths : Set Text := {p | ∃ l ∈ locations, l.path = p ∧ e.isDeclaration p = false}
  have hclear : ∀ listed ∈ paths, ¬ s.BacksUpOver listed path := by
    rintro _ ⟨l, hl, rfl, hdecl⟩
    by_cases hsame : l.path = path
    · rw [hsame]
      exact not_backsUpOver_self
    · exact hover l hl hsame hdecl
  have hstart : Holding R path paths s := ⟨hstore, hclear, htext⟩
  have hstep : ∀ l ∈ Location.sort locations, ∀ index t, Holding R path paths t →
      Holding R path paths (e.replaceAt l index t).2 := fun l hl =>
    holding_replaceAt l (hedit l) fun hdecl => ⟨l, List.mem_mergeSort.mp hl, rfl, hdecl⟩
  refine ⟨fun step hmem => ?_, ?_⟩
  · obtain ⟨hbefore, l, hl, i, heq⟩ := exists_location_of_mem_steps _ hstep 0 s hstart hmem
    have hafter := hstep l hl i _ hbefore
    rw [heq] at hafter
    exact hafter.text
  · have hend : Holding R path paths (e.run locations s).2 :=
      runFrom_preserves_of_mem (fun t _ ht => ht.of_confined (confined_note trivial)
        (List.Subset.refl _) (ht.text.congr rfl rfl)) _ hstep [] s hstart
    exact hend.text

end Editor

end CallEdits
