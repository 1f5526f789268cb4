import CallEdits.Proofs.Utf8RoundTrip
import CallEdits.Session
import Mathlib.Data.List.TakeWhile

/-!
# Proofs/WrittenFiles — what is written is loaded again

    text ──encode──▸ bytes ──put──▸ disk ──follow──▸ bytes ──decode──▸ text

A text that was written is what the next load gives, in every encoding and in every kind of store
(`load_of_write`).  On the disk this needs that writing a file never turns a folder into one: where
a path leads depends on the folders alone (`SameFolders.leads`), and these stay.

That a write succeeds needs more: `Keeps` says when a session can write a file again and again.
-/

namespace CallEdits

/-! ## Encodings -/

namespace Encoding

variable {encoding : Encoding} {limit : Nat}

/-- A narrow encoding takes a text if all of it is narrow. -/
theorem encodeNarrow_eq_ok {t : Text} {bytes : Bytes}
    (h : encodeNarrow encoding limit t = .ok bytes) :
    (∀ c ∈ t, c.toNat < limit) ∧ bytes = t.map fun c => c.toNat.toUInt8 := by
  simp only [encodeNarrow] at h
  split at h
  · rename_i hrest
    have hlen := List.drop_eq_nil_iff.mp hrest
    have hgood : t.takeWhile (fun c => c.toNat < limit) = t :=
      (List.takeWhile_prefix _).eq_of_length_le hlen
    rw [hgood] at h
    refine ⟨fun c hc => ?_, (Except.ok.inj h).symm⟩
    rw [← hgood] at hc
    simpa using List.all_eq_true.mp List.all_takeWhile c hc
  · exact nomatch h

theorem decodeNarrow_map (hlimit : limit ≤ 0x100) {t : Text} (h : ∀ c ∈ t, c.toNat < limit) :
    decodeNarrow encoding limit (t.map fun c => c.toNat.toUInt8) = .ok t := by
  have hbyte : ∀ c ∈ t, c.toNat.toUInt8.toNat = c.toNat := fun c hc =>
    UInt8.toNat_ofNat_of_lt' (Nat.lt_of_lt_of_le (h c hc) hlimit)
  have hgood : (t.map fun c => c.toNat.toUInt8).takeWhile (fun b => b.toNat < limit)
      = t.map fun c => c.toNat.toUInt8 := by
    have hall : ∀ b ∈ t.map fun c => c.toNat.toUInt8, decide (b.toNat < limit) = true := by
      intro b hb
      obtain ⟨c, hc, rfl⟩ := List.mem_map.mp hb
      rw [hbyte c hc]
      exact decide_eq_true (h c hc)
    exact List.takeWhile_eq_self_iff.mpr hall
  have hback : (t.map fun c => c.toNat.toUInt8).map (fun b => Char.ofNat b.toNat) = t := by
    rw [List.map_map]
    refine (List.map_congr_left fun c hc => ?_).trans (List.map_id t)
    rw [Function.comp_apply, hbyte c hc, Char.ofNat_toNat]
    rfl
  simp only [decodeNarrow, hgood, List.drop_length, hback]

/-- **A text that was encoded is decoded again**, in every encoding. -/
theorem decode_of_encode {t : Text} {bytes : Bytes} :
    ∀ {encoding : Encoding}, encoding.encode t = .ok bytes → encoding.decode bytes = .ok t
  | utf8, h => by
      obtain rfl := Except.ok.inj h
      rw [decode, decodeUtf8, Utf8.decode_encode]
  | utf8Signed, h => by
      obtain rfl := Except.ok.inj h
      have hlong : ¬ (signature ++ Utf8.encode t).length < 3 := by
        rw [List.length_append]
        exact Nat.not_lt.mpr (Nat.le_add_right ..)
      have hlong' : ¬ (decide ((signature ++ Utf8.encode t).length < 3)
          && (signature ++ Utf8.encode t).isPrefixOf signature) = true := by
        rw [decide_eq_false hlong, Bool.false_and]
        exact Bool.false_ne_true
      have hsigned : signature.isPrefixOf (signature ++ Utf8.encode t) = true :=
        List.isPrefixOf_iff_prefix.mpr (List.prefix_append ..)
      have hdrop : (signature ++ Utf8.encode t).drop 3 = Utf8.encode t := rfl
      rw [decode, if_neg hlong', if_pos hsigned, hdrop, decodeUtf8, Utf8.decode_encode]
  | ascii, h => by
      obtain ⟨hnarrow, rfl⟩ := encodeNarrow_eq_ok h
      exact decodeNarrow_map (by decide) hnarrow
  | latin1, h => by
      obtain ⟨hnarrow, rfl⟩ := encodeNarrow_eq_ok h
      exact decodeNarrow_map (by decide) hnarrow

end Encoding

/-! ## Files on a disk -/

namespace Disk

variable {d d' : Disk} {p : Path} {encoding t : Text} {names : List Text}

/-- **Disks with the same folders**, seen from the same working directory. -/
structure SameFolders (d d' : Disk) : Prop where
  here_eq : d'.here = d.here
  folder_iff : ∀ names, d'.get? names = some .folder ↔ d.get? names = some .folder

theorem SameFolders.refl (d : Disk) : d.SameFolders d := ⟨rfl, fun _ => Iff.rfl⟩

theorem SameFolders.symm (h : d.SameFolders d') : d'.SameFolders d :=
  ⟨h.here_eq.symm, fun names => (h.folder_iff names).symm⟩

theorem SameFolders.trans {d'' : Disk} (h : d.SameFolders d') (h' : d'.SameFolders d'') :
    d.SameFolders d'' :=
  ⟨h'.here_eq.trans h.here_eq, fun names => (h'.folder_iff names).trans (h.folder_iff names)⟩

theorem SameFolders.start_eq (h : d.SameFolders d') : ∀ anchor, d'.start anchor = d.start anchor
  | .here => h.here_eq
  | .root => rfl
  | .doubleRoot => rfl

/-- **Writing a file keeps all folders**, as it puts no file where a folder stood. -/
theorem sameFolders_put (hnames : names ≠ []) (hfile : d.get? names ≠ some .folder)
    (content : Bytes) : d.SameFolders (d.put names (.file content)) := by
  refine ⟨rfl, fun others => ?_⟩
  rw [get?_put d hnames]
  split
  · rename_i heq
    exact ⟨fun h => (nomatch h), fun h => absurd (heq ▸ h) hfile⟩
  · exact Iff.rfl

/-- **Where a path leads depends on the folders alone.** -/
theorem SameFolders.follow_eq_ok (h : d.SameFolders d') :
    ∀ (parts folder : List Text) {result : List Text}, d.follow folder parts = .ok result →
      d'.follow folder parts = .ok result
  | [], _, _, hfollow => hfollow
  | name :: rest, folder, result, hfollow => by
      have hfolder : d.get? folder = some .folder := by
        rw [follow] at hfollow
        cases hget : d.get? folder with
        | none => simp [hget] at hfollow
        | some entry =>
          cases entry with
          | file content => simp [hget] at hfollow
          | folder => rfl
      rw [follow, hfolder] at hfollow
      rw [follow, (h.folder_iff folder).mpr hfolder]
      dsimp only at hfollow ⊢
      split at hfollow
      · rename_i hparent
        rw [if_pos hparent]
        exact h.follow_eq_ok rest _ hfollow
      · rename_i hparent
        rw [if_neg hparent]
        split at hfollow
        · exact nomatch hfollow
        · rename_i hlong
          rw [if_neg hlong]
          exact h.follow_eq_ok rest _ hfollow

/-- **A file that can be written**: its path leads somewhere, and to no folder. -/
def Leads (d : Disk) (p : Path) (names : List Text) : Prop :=
  d.resolve p = .ok names ∧ d.get? names ≠ some .folder

theorem Leads.ne_nil (h : d.Leads p names) : names ≠ [] := fun hnil => h.2 (hnil ▸ rfl)

/-- A path that can be resolved is followed from its start. -/
theorem resolve_eq_ok_iff :
    d.resolve p = .ok names
      ↔ (¬ p.text.contains '\x00' = true ∧ ¬ pathLimit < (Utf8.encode p.text).length)
        ∧ d.follow (d.start p.anchor) p.parts = .ok names := by
  rw [resolve]
  split
  · rename_i hnull
    exact ⟨fun h => (nomatch h), fun h => absurd hnull h.1.1⟩
  rename_i hnull
  split
  · rename_i hlong
    exact ⟨fun h => (nomatch h), fun h => absurd hlong h.1.2⟩
  rename_i hlong
  cases d.follow (d.start p.anchor) p.parts with
  | error cause => exact ⟨fun h => (nomatch h), fun h => (nomatch h.2)⟩
  | ok found => exact ⟨fun h => ⟨⟨hnull, hlong⟩, congrArg Except.ok (Except.ok.inj h)⟩,
      fun h => congrArg Except.ok (Except.ok.inj h.2)⟩

theorem SameFolders.leads (h : d.SameFolders d') (hleads : d.Leads p names) :
    d'.Leads p names := by
  obtain ⟨hgood, hfollow⟩ := resolve_eq_ok_iff.mp hleads.1
  refine ⟨resolve_eq_ok_iff.mpr ⟨hgood, ?_⟩, fun hfolder => hleads.2 ?_⟩
  · rw [h.start_eq]
    exact h.follow_eq_ok _ _ hfollow
  · exact (h.folder_iff names).mp hfolder

theorem SameFolders.leads_iff (h : d.SameFolders d') : d'.Leads p names ↔ d.Leads p names :=
  ⟨h.symm.leads, h.leads⟩

/-- Writing where a path leads keeps all folders. -/
theorem Leads.sameFolders (h : d.Leads p names) (content : Bytes) :
    d.SameFolders (d.put names (.file content)) := sameFolders_put h.ne_nil h.2 content

/-- **A file is read** where its path leads. -/
theorem read_eq_ok_iff {content : Bytes} :
    d.read p = .ok content ↔ ∃ names, d.Leads p names ∧ d.get? names = some (.file content) := by
  rw [read]
  cases hresolve : d.resolve p with
  | error trouble =>
    refine ⟨fun h => (nomatch h), ?_⟩
    rintro ⟨names, hleads, -⟩
    exact nomatch hresolve.symm.trans hleads.1
  | ok found =>
    refine ⟨fun h => ?_, ?_⟩
    · dsimp only at h
      split at h
      · exact nomatch h
      · exact nomatch h
      · rename_i hget
        rw [Except.ok.inj h] at hget
        exact ⟨found, ⟨hresolve, fun hfolder => nomatch hget.symm.trans hfolder⟩, hget⟩
    · rintro ⟨names, hleads, hget⟩
      obtain rfl := Except.ok.inj (hresolve.symm.trans hleads.1)
      simp only [hget]

/-- **A text is read** from the bytes of a file. -/
theorem readText_eq_ok_iff :
    d.readText p encoding = .ok t
      ↔ ¬ encoding.contains '\x00' = true ∧ ∃ names content e, d.Leads p names
        ∧ d.get? names = some (.file content) ∧ Encoding.ofName? encoding = some e
        ∧ e.decode content = .ok t := by
  refine ⟨fun h => ?_, ?_⟩
  · rw [readText] at h
    split at h
    · exact nomatch h
    rename_i hnull
    split at h
    · exact nomatch h
    rename_i content hread
    split at h
    · exact nomatch h
    rename_i e hname
    split at h
    · exact nomatch h
    rename_i hdecode
    obtain ⟨names, hleads, hget⟩ := read_eq_ok_iff.mp hread
    exact ⟨hnull, names, content, e, hleads, hget, hname, Except.ok.inj h ▸ hdecode⟩
  · rintro ⟨hnull, names, content, e, hleads, hget, hname, hdecode⟩
    rw [readText, if_neg hnull, read_eq_ok_iff.mpr ⟨names, hleads, hget⟩]
    simp only [hname, hdecode]

/-- **A file is opened for writing** where its path leads. -/
theorem openEmpty_eq_ok_iff {emptied : Disk} :
    d.openEmpty p = .ok (names, emptied)
      ↔ d.Leads p names ∧ emptied = d.put names (.file []) := by
  rw [openEmpty, Leads]
  cases d.resolve p with
  | error trouble => exact ⟨fun h => (nomatch h), fun h => (nomatch h.1.1)⟩
  | ok found =>
    dsimp only
    split
    · rename_i hfolder
      refine ⟨fun h => (nomatch h), fun h => ?_⟩
      exact absurd (Except.ok.inj h.1.1 ▸ hfolder) h.1.2
    · rename_i hfile
      refine ⟨fun h => ?_, ?_⟩
      · obtain ⟨rfl, rfl⟩ := Prod.mk.inj (Except.ok.inj h)
        exact ⟨⟨rfl, hfile⟩, rfl⟩
      · rintro ⟨⟨hnames, -⟩, rfl⟩
        rw [Except.ok.inj hnames]

/-- **What writing a text does**: its bytes are put where the path leads. -/
theorem writeText_eq_ok_iff :
    d.writeText p encoding t = (.ok (), d')
      ↔ ¬ encoding.contains '\x00' = true ∧ ∃ names e content, d.Leads p names
        ∧ Encoding.ofName? encoding = some e ∧ e.encode t = .ok content
        ∧ d.put names (.file content) = d' := by
  refine ⟨fun h => ?_, ?_⟩
  · rw [writeText] at h
    split at h
    · exact nomatch (Prod.mk.inj h).1
    rename_i hnull
    split at h
    · exact nomatch (Prod.mk.inj h).1
    rename_i names emptied hopen
    split at h
    · exact nomatch (Prod.mk.inj h).1
    rename_i e hname
    split at h
    · exact nomatch (Prod.mk.inj h).1
    rename_i content hencode
    obtain ⟨hleads, rfl⟩ := openEmpty_eq_ok_iff.mp hopen
    rw [put_put] at h
    exact ⟨hnull, names, e, content, hleads, hname, hencode, (Prod.mk.inj h).2⟩
  · rintro ⟨hnull, names, e, content, hleads, hname, hencode, rfl⟩
    rw [writeText, if_neg hnull, openEmpty_eq_ok_iff.mpr ⟨hleads, rfl⟩]
    simp only [hname, hencode, put_put]

/-- What is put where a path leads is read there. -/
theorem Leads.read_put (h : d.Leads p names) (content : Bytes) :
    (d.put names (.file content)).read p = .ok content := by
  refine read_eq_ok_iff.mpr ⟨names, (h.sameFolders content).leads h, ?_⟩
  rw [get?_put d h.ne_nil, if_pos rfl]

/-- **A text that was written is read again.** -/
theorem readText_of_writeText (h : d.writeText p encoding t = (.ok (), d')) :
    d'.readText p encoding = .ok t := by
  obtain ⟨hnull, names, e, content, hleads, hname, hencode, rfl⟩ := writeText_eq_ok_iff.mp h
  rw [readText, if_neg hnull, hleads.read_put]
  simp only [hname, Encoding.decode_of_encode hencode]

end Disk

/-! ## Sessions -/

namespace Session

variable {s s' : Session} {path code : Text} {failure : Failure}

theorem writeFile_eq_ok (h : s.writeFile path code = (.ok (), s')) :
    (s'.loadFile path).1 = .ok code ∧ s'.shifts = s.shifts ∧ s'.store.mode = s.store.mode := by
  simp only [writeFile] at h
  split at h
  · exact nomatch (Prod.mk.inj h).1
  · rename_i disk hwrite
    obtain rfl := (Prod.mk.inj h).2
    exact ⟨Disk.readText_of_writeText hwrite, rfl, rfl⟩

/-- A file is not written only if the disk refuses the text. -/
theorem writeFile_eq_error (h : s.writeFile path code = (.error failure, s')) :
    ∃ disk, s.disk.writeText (s.store.resolve path) s.store.encoding code
      = (.error failure, disk) := by
  simp only [writeFile] at h
  split at h
  · rename_i disk hwrite
    obtain rfl := Except.error.inj (Prod.mk.inj h).1
    exact ⟨disk, hwrite⟩
  · cases (Prod.mk.inj h).1

/-- **Why a backup is not made**: the path has no last part; or the file cannot be read; or the copy
cannot be written. -/
theorem backUp_eq_error (h : s.backUp path = (.error failure, s')) :
    (s.store.resolve path).extend? ".bak".toList = none
        ∧ failure = .disk (.nameless (s.store.resolve path))
      ∨ s.disk.readText (s.store.resolve path) s.store.encoding = .error failure
      ∨ ∃ copy text disk,
          s.disk.writeText copy s.store.encoding text = (.error failure, disk) := by
  simp only [backUp] at h
  split at h
  · rename_i hcopy
    exact .inl ⟨hcopy, (Except.error.inj (Prod.mk.inj h).1).symm⟩
  rename_i copy _
  split at h
  · rename_i hread
    obtain rfl := Except.error.inj (Prod.mk.inj h).1
    exact .inr (.inl hread)
  rename_i text _
  split at h
  · rename_i disk hwrite
    obtain rfl := Except.error.inj (Prod.mk.inj h).1
    exact .inr (.inr ⟨copy, text, disk, hwrite⟩)
  · cases (Prod.mk.inj h).1

theorem backUp_eq_ok (h : s.backUp path = (.ok (), s')) :
    ∃ copy text, s.disk.writeText copy s.store.encoding text = (.ok (), s'.disk)
      ∧ s'.shifts = s.shifts
      ∧ s'.store = { s.store with backedUp := path :: s.store.backedUp } := by
  simp only [backUp] at h
  split at h
  · exact nomatch (Prod.mk.inj h).1
  rename_i copy _
  split at h
  · exact nomatch (Prod.mk.inj h).1
  rename_i text _
  split at h
  · exact nomatch (Prod.mk.inj h).1
  rename_i disk hwrite
  obtain rfl := (Prod.mk.inj h).2
  exact ⟨copy, text, hwrite, rfl, rfl⟩

/-- **A text that was written is loaded again**, in every kind of store; the shifts stay. -/
theorem load_of_write (h : s.write path code = (.ok (), s')) :
    (s'.load path).1 = .ok code ∧ s'.shifts = s.shifts := by
  rw [write] at h
  cases hmode : s.store.mode with
  | dry =>
    rw [hmode] at h
    obtain rfl := (Prod.mk.inj h).2
    simp [load, note, hmode, Table.lookup_put]
  | inPlace backup =>
    rw [hmode] at h
    dsimp only at h
    have hplace : ∀ {t : Session}, t.store.mode = .inPlace backup → t.shifts = s.shifts →
        t.writeFile path code = (.ok (), s') →
          (s'.load path).1 = .ok code ∧ s'.shifts = s.shifts := by
      intro t htmode htshifts hwrite
      obtain ⟨hload, hshifts, hsame⟩ := writeFile_eq_ok hwrite
      rw [load, hsame, htmode]
      exact ⟨hload, hshifts.trans htshifts⟩
    split at h
    · split at h
      · exact nomatch (Prod.mk.inj h).1
      · rename_i t hbackUp
        obtain ⟨-, -, -, hshifts, hstore⟩ := backUp_eq_ok hbackUp
        exact hplace (by rw [hstore]; exact hmode) hshifts h
    · exact hplace hmode rfl h

/-! ## Writing again and again -/

/-- **A session that keeps what is written to a file**: a dry one, or one that works in place with
UTF-8 and has made the backup of the file, if it makes backups, or can make it. -/
def Keeps (s : Session) (path : Text) : Prop :=
  s.store.mode = .dry
    ∨ ∃ backup, s.store.mode = .inPlace backup
      ∧ Encoding.ofName? s.store.encoding = some .utf8
      ∧ (backup = true → path ∈ s.store.backedUp ∨ (s.backUp path).1 = .ok ())

/-- Whether a session keeps a file depends on its disk and its store. -/
theorem Keeps.congr (h : s.Keeps path) (hdisk : s'.disk = s.disk) (hstore : s'.store = s.store) :
    s'.Keeps path := by
  have hbackUp : (s'.backUp path).1 = (s.backUp path).1 := by
    simp only [backUp, hdisk, hstore]
    repeat' split
    all_goals rfl
  rw [Keeps, hstore, hbackUp]
  exact h

/-- UTF-8 can write every text to a file that is there, and no backup is due afterwards. -/
theorem exists_writeFile {backup : Bool} {names : List Text}
    (hmode : s.store.mode = .inPlace backup) (hnull : ¬ s.store.encoding.contains '\x00' = true)
    (hutf8 : Encoding.ofName? s.store.encoding = some .utf8)
    (hleads : s.disk.Leads (s.store.resolve path) names)
    (hmade : backup = true → path ∈ s.store.backedUp) (code : Text) :
    ∃ s', s.writeFile path code = (.ok (), s') ∧ s'.Keeps path := by
  have hwrite := Disk.writeText_eq_ok_iff.mpr
    ⟨hnull, names, .utf8, Utf8.encode code, hleads, hutf8, rfl, rfl⟩
  simp only [writeFile, note, hwrite]
  exact ⟨_, rfl, .inr ⟨backup, hmode, hutf8, fun hon => .inl (hmade hon)⟩⟩

/-- A backup changes no other file, and is noted. -/
theorem leads_of_backUp {names : List Text} (h : s.backUp path = (.ok (), s'))
    (hleads : s.disk.Leads (s.store.resolve path) names) :
    s'.disk.Leads (s'.store.resolve path) names ∧ s'.store.mode = s.store.mode
      ∧ s'.store.encoding = s.store.encoding ∧ path ∈ s'.store.backedUp := by
  obtain ⟨copy, text, hcopy, -, hstore⟩ := backUp_eq_ok h
  obtain ⟨-, others, -, content, hothers, -, -, hdisk⟩ := Disk.writeText_eq_ok_iff.mp hcopy
  rw [← hdisk, hstore]
  exact ⟨(hothers.sameFolders content).leads hleads, rfl, rfl, List.mem_cons_self⟩

/-- **A session that keeps a file can write it**, and goes on keeping it. -/
theorem Keeps.exists_write {old : Text} (h : s.Keeps path) (hload : (s.load path).1 = .ok old)
    (code : Text) : ∃ s', s.write path code = (.ok (), s') ∧ s'.Keeps path := by
  obtain hdry | ⟨backup, hmode, hutf8, hbackup⟩ := h
  · rw [write, hdry]
    exact ⟨_, rfl, .inl hdry⟩
  rw [load, hmode] at hload
  obtain ⟨hnull, names, -, -, hleads, -⟩ := Disk.readText_eq_ok_iff.mp hload
  rw [write, hmode]
  dsimp only
  split
  · rename_i hdue
    obtain ⟨hon, hnew⟩ := Bool.and_eq_true_iff.mp hdue
    have hmade : (s.backUp path).1 = .ok () :=
      (hbackup hon).resolve_left fun hmem => by simp [hmem] at hnew
    have hpair : s.backUp path = (.ok (), (s.backUp path).2) := Prod.ext hmade rfl
    obtain ⟨hleads', hmode', hencoding, hmem⟩ := leads_of_backUp hpair hleads
    rw [hpair]
    exact exists_writeFile (hmode'.trans hmode) (hencoding ▸ hnull) (hencoding ▸ hutf8) hleads'
      (fun _ => hmem) code
  · rename_i hdue
    refine exists_writeFile hmode hnull hutf8 hleads (fun hon => ?_) code
    rw [hon, Bool.true_and, Bool.not_eq_true, Bool.not_eq_false'] at hdue
    exact List.contains_iff_mem.mp hdue

end Session

end CallEdits
