import CallEdits.Proofs.LineBalance
import CallEdits.Proofs.PlainPaths
import CallEdits.Proofs.WriteOutcomes
import Mathlib

/-!
# Proofs/DryRuns — a dry run shows what a real one does

    real   files ──write──▸ files ──write──▸ files
             ╎                ╎                ╎
    dry    overlay ─write─▸ overlay ─write─▸ overlay       over the files as they were at first

A real session keeps what was written in its files, by the names that a path leads to and in bytes;
a dry one keeps it in its overlay, by the path as it is spelled and in characters.  `Mirrors` ties
the two together: the file of every path in the overlay holds the bytes of its text, and every other
file is as it was at first.  Both then load the same texts (`Mirrors.load_eq`), so a step comes to
the same in both and keeps the relation (`replaceAt_mirrors`), failed steps included.
-/

namespace CallEdits

open CallEdits.Path (Plain)

/-! ## Disks that differ in files alone -/

namespace Disk

variable {d d' : Disk} {p : Path} {names : List Text}

/-- **Disks that differ in the content of files alone.** -/
structure Alike (d d' : Disk) : Prop extends SameFolders d d' where
  none_iff : ∀ names, d'.get? names = none ↔ d.get? names = none

theorem Alike.refl (d : Disk) : d.Alike d := ⟨.refl d, fun _ => Iff.rfl⟩

/-- Writing a file again changes its content alone. -/
theorem Alike.put (h : d.Alike d') (hnames : names ≠ []) {old : Bytes}
    (hold : d'.get? names = some (.file old)) (content : Bytes) :
    d.Alike (d'.put names (.file content)) := by
  have hfile : d'.get? names ≠ some .folder := fun hfolder => nomatch hold.symm.trans hfolder
  refine ⟨h.toSameFolders.trans (sameFolders_put hnames hfile content), fun others => ?_⟩
  rw [← h.none_iff, get?_put d' hnames]
  split
  · rename_i heq
    rw [heq, hold]
    exact ⟨fun hnone => (nomatch hnone), fun hnone => (nomatch hnone)⟩
  · exact Iff.rfl

/-- **Names lead to the same place**, or the same name stops them. -/
theorem Alike.follow_eq (h : d.Alike d') :
    ∀ parts folder : List Text, d'.follow folder parts = d.follow folder parts
  | [], _ => rfl
  | name :: rest, folder => by
      rw [follow, follow]
      cases hget : d.get? folder with
      | none => rw [(h.none_iff folder).mpr hget]
      | some entry =>
        cases entry with
        | folder =>
          rw [(h.folder_iff folder).mpr hget]
          simp only [h.follow_eq rest]
        | file content =>
          -- The content may differ, but a file it is on both.
          cases hget' : d'.get? folder with
          | none => cases hget.symm.trans ((h.none_iff folder).mp hget')
          | some entry' =>
            cases entry' with
            | folder => cases hget.symm.trans ((h.folder_iff folder).mp hget')
            | file content' => rfl

theorem Alike.resolve_eq (h : d.Alike d') (p : Path) : d'.resolve p = d.resolve p := by
  rw [resolve, resolve, h.start_eq, h.follow_eq]

/-- **A text is read alike** if its file is the same. -/
theorem Alike.readText_eq (h : d.Alike d')
    (hsame : ∀ names, d.resolve p = .ok names → d'.get? names = d.get? names) (encoding : Text) :
    d'.readText p encoding = d.readText p encoding := by
  have hread : d'.read p = d.read p := by
    rw [read, read, h.resolve_eq]
    cases hresolve : d.resolve p with
    | error trouble => rfl
    | ok names => simp only [hsame names hresolve]
  rw [readText, readText, hread]

/-- **Do two paths lead to one place?** -/
def SameFile (d : Disk) (p q : Path) : Prop :=
  ∃ names, d.resolve p = .ok names ∧ d.resolve q = .ok names

end Disk

namespace Session

/-! ## The relation -/

/-- **A real session and a dry one that hold the same texts**, begun on one disk. -/
structure Mirrors (disk : Disk) (root : Path) (encoding : Text) (paths : Set Text)
    (real dry : Session) : Prop where
  real_mode : real.store.mode = .inPlace false
  real_root : real.store.root = root
  real_encoding : real.store.encoding = encoding
  dry_mode : dry.store.mode = .dry
  dry_root : dry.store.root = root
  dry_encoding : dry.store.encoding = encoding
  dry_disk : dry.disk = disk
  shifts_eq : real.shifts = dry.shifts
  alike : disk.Alike real.disk
  written_iff : ∀ path, path ∈ real.store.written ↔ path ∈ dry.store.overlay.map Prod.fst
  nodup_keys : (dry.store.overlay.map Prod.fst).Nodup
  keys_sub : ∀ path ∈ dry.store.overlay.map Prod.fst, path ∈ paths
  held : ∀ path code, dry.store.overlay.lookup path = some code →
    ¬ encoding.contains '\x00' = true ∧ ∃ names, disk.Leads (root ++ Path.ofText path) names
      ∧ real.disk.get? names = some (.file (Utf8.encode code))
  rest : ∀ names, real.disk.get? names ≠ disk.get? names →
    ∃ path ∈ dry.store.overlay.map Prod.fst, disk.Leads (root ++ Path.ofText path) names

variable {disk : Disk} {root : Path} {encoding : Text} {paths : Set Text} {real dry : Session}
  {path : Text}

theorem mirrors_dry :
    Mirrors disk root encoding paths (inPlace false disk root encoding)
      (Session.dry disk root encoding) where
  real_mode := rfl
  real_root := rfl
  real_encoding := rfl
  dry_mode := rfl
  dry_root := rfl
  dry_encoding := rfl
  dry_disk := rfl
  shifts_eq := rfl
  alike := .refl disk
  written_iff := fun _ => Iff.rfl
  nodup_keys := List.nodup_nil
  keys_sub := fun _ h => nomatch h
  held := fun _ _ h => nomatch h
  rest := fun _ h => absurd rfl h

namespace Mirrors

theorem log (h : Mirrors disk root encoding paths real dry) (log log' : List Event) :
    Mirrors disk root encoding paths { real with log } { dry with log := log' } := by
  obtain ⟨h₁, h₂, h₃, h₄, h₅, h₆, h₇, h₈, h₉, h₁₀, h₁₁, h₁₂, h₁₃, h₁₄⟩ := h
  exact ⟨h₁, h₂, h₃, h₄, h₅, h₆, h₇, h₈, h₉, h₁₀, h₁₁, h₁₂, h₁₃, h₁₄⟩

theorem shift_eq (h : Mirrors disk root encoding paths real dry) (path : Text) :
    real.shift path = dry.shift path := by
  rw [shift, shift, h.shifts_eq]

theorem real_load (h : Mirrors disk root encoding paths real dry) (path : Text) :
    (real.load path).1 = real.disk.readText (root ++ Path.ofText path) encoding := by
  rw [load, h.real_mode]
  change real.disk.readText (real.store.root ++ Path.ofText path) real.store.encoding = _
  rw [h.real_root, h.real_encoding]

/-- **Both sessions load the same text**, under every path that is no second spelling of one that
may be written. -/
theorem load_eq (h : Mirrors disk root encoding paths real dry)
    (hutf8 : Encoding.ofName? encoding = some .utf8)
    (hown : ∀ q ∈ paths, disk.SameFile (root ++ Path.ofText path) (root ++ Path.ofText q) →
      path = q) :
    (real.load path).1 = (dry.load path).1 := by
  rw [h.real_load, load, h.dry_mode]
  dsimp only
  cases hheld : dry.store.overlay.lookup path with
  | some code =>
    obtain ⟨hnull, names, hleads, hget⟩ := h.held path code hheld
    have hdecode : Encoding.utf8.decode (Utf8.encode code) = .ok code :=
      Encoding.decode_of_encode rfl
    exact Disk.readText_eq_ok_iff.mpr
      ⟨hnull, names, _, .utf8, h.alike.leads hleads, hget, hutf8, hdecode⟩
  | none =>
    change _ = dry.disk.readText (dry.store.root ++ Path.ofText path) dry.store.encoding
    rw [h.dry_disk, h.dry_root, h.dry_encoding]
    refine h.alike.readText_eq (fun names hnames => ?_) encoding
    by_contra hne
    obtain ⟨q, hq, hleads⟩ := h.rest names hne
    obtain rfl := hown q (h.keys_sub q hq) ⟨names, hnames, hleads.1⟩
    exact (Table.lookup_eq_none_iff path _).mp hheld hq

/-- **The relation survives a text that both write**, the one to its file and the other to its
overlay. -/
theorem put (h : Mirrors disk root encoding paths real dry) (hplain : ∀ p ∈ paths, Plain p)
    (hpath : path ∈ paths) (hnull : ¬ encoding.contains '\x00' = true) {names : List Text}
    {bytes : Bytes} (hleads : disk.Leads (root ++ Path.ofText path) names)
    (hget : real.disk.get? names = some (.file bytes)) (code : Text) (shifts : List (Text × Int))
    (log log' : List Event) :
    Mirrors disk root encoding paths
      { real with disk := real.disk.put names (.file (Utf8.encode code)),
                  store.written := path :: real.store.written, shifts, log }
      { dry with store.overlay := Table.put path code dry.store.overlay, shifts, log := log' } where
  real_mode := h.real_mode
  real_root := h.real_root
  real_encoding := h.real_encoding
  dry_mode := h.dry_mode
  dry_root := h.dry_root
  dry_encoding := h.dry_encoding
  dry_disk := h.dry_disk
  shifts_eq := rfl
  alike := h.alike.put hleads.ne_nil hget _
  written_iff := by
    intro p
    rw [Table.mem_keys_put, List.mem_cons, h.written_iff]
  nodup_keys := by
    rw [Table.keys_put]
    split
    · exact h.nodup_keys
    · rename_i hnew
      exact List.Nodup.append h.nodup_keys (List.nodup_singleton path)
        (List.disjoint_singleton.mpr hnew)
  keys_sub := by
    intro p hp
    rcases (Table.mem_keys_put ..).mp hp with rfl | hp
    · exact hpath
    · exact h.keys_sub p hp
  held := by
    intro p held hheld
    rw [Table.lookup_put] at hheld
    by_cases hp : p = path
    · subst hp
      rw [if_pos BEq.rfl] at hheld
      obtain rfl := Option.some.inj hheld
      exact ⟨hnull, names, hleads, by rw [Disk.get?_put _ hleads.ne_nil, if_pos rfl]⟩
    · rw [if_neg (mt eq_of_beq hp)] at hheld
      obtain ⟨-, names', hleads', hget'⟩ := h.held p held hheld
      -- Two plain paths that are spelled differently are two files.
      have hne : names' ≠ names := by
        rintro rfl
        have hmem : p ∈ dry.store.overlay.map Prod.fst := by
          by_contra hnot
          exact nomatch hheld.symm.trans ((Table.lookup_eq_none_iff p _).mpr hnot)
        exact hp (Disk.eq_of_resolve_eq (hplain p (h.keys_sub p hmem)) (hplain path hpath)
          hleads'.1 hleads.1)
      exact ⟨hnull, names', hleads', by rw [Disk.get?_put _ hleads.ne_nil, if_neg hne, hget']⟩
  rest := by
    intro names' hne
    rw [Disk.get?_put _ hleads.ne_nil] at hne
    split at hne
    · rename_i heq
      exact ⟨path, (Table.mem_keys_put ..).mpr (.inl rfl), heq ▸ hleads⟩
    · obtain ⟨p, hp, hleads'⟩ := h.rest names' hne
      exact ⟨p, (Table.mem_keys_put ..).mpr (.inr hp), hleads'⟩

/-- The same paths are changed. -/
theorem changed_eq (h : Mirrors disk root encoding paths real dry) :
    real.store.changed = dry.store.changed := by
  rw [Store.changed, Store.changed, h.real_mode, h.dry_mode]
  refine Text.sort_eq_sort (Text.nodup_eraseDups _) h.nodup_keys fun path => ?_
  rw [List.mem_eraseDups, h.written_iff]

end Mirrors

end Session

namespace Editor

open Session

variable {e : Editor} {disk : Disk} {root : Path} {encoding : Text} {paths : Set Text}
  {s : Session}

/-! ## One step -/

/-- A file that can be loaded is written in place, as UTF-8 has bytes for every text. -/
theorem exists_commit_inPlace (hmode : s.store.mode = .inPlace false)
    (hutf8 : Encoding.ofName? s.store.encoding = some .utf8) (location : Location) {old : Text}
    (hload : s.disk.readText (s.store.resolve location.path) s.store.encoding = .ok old)
    (shift : Int) (edit : Edit) :
    ¬ s.store.encoding.contains '\x00' = true
      ∧ ∃ names bytes log, s.disk.Leads (s.store.resolve location.path) names
        ∧ s.disk.get? names = some (.file bytes)
        ∧ commit location shift s edit = (.ok (some edit.record),
          { s with disk := s.disk.put names (.file (Utf8.encode edit.code)),
                      store.written := location.path :: s.store.written,
                      shifts := Table.put location.path (shift + edit.record.delta) s.shifts,
                      log }) := by
  obtain ⟨hnull, names, bytes, -, hleads, hget, -, -⟩ := Disk.readText_eq_ok_iff.mp hload
  have hsecure : s.secure location.path = (.ok (), s) := by
    rw [secure, hmode, if_neg fun hdue => absurd hdue.1 (by decide)]
  obtain ⟨log, hwrite⟩ := writeFile_of_leads hnull hleads hutf8 edit.code
  rw [commit, write_inPlace hmode, hsecure]
  dsimp only
  rw [hwrite]
  exact ⟨hnull, names, bytes, _, hleads, hget, rfl⟩

/-- **A step comes to the same in both sessions**, and they still hold the same texts. -/
theorem replaceAt_mirrors (hutf8 : Encoding.ofName? encoding = some .utf8)
    (hplain : ∀ p ∈ paths, Plain p) (location : Location) (hpath : location.path ∈ paths)
    (index : Int) (real dry : Session) (h : Mirrors disk root encoding paths real dry) :
    (e.replaceAt location index real).1 = (e.replaceAt location index dry).1
      ∧ Mirrors disk root encoding paths (e.replaceAt location index real).2
        (e.replaceAt location index dry).2 := by
  cases hdecl : e.isDeclaration location.path with
  | true =>
    rw [replaceAt, replaceAt, if_pos hdecl, if_pos hdecl]
    exact ⟨rfl, h.log _ _⟩
  | false =>
    have hown : ∀ q ∈ paths, disk.SameFile (root ++ Path.ofText location.path)
        (root ++ Path.ofText q) → location.path = q := by
      rintro q hq ⟨names, hnames, hsame⟩
      exact Disk.eq_of_resolve_eq (hplain _ hpath) (hplain q hq) hnames hsame
    have hload := h.load_eq hutf8 hown
    obtain ⟨log, hreal⟩ := replaceAt_eq_match index real hdecl
    obtain ⟨log', hdry⟩ := replaceAt_eq_match index dry hdecl
    rw [hreal, hdry, hload, h.shift_eq]
    cases hcode : (dry.load location.path).1 with
    | error failure => exact ⟨rfl, h.log log log'⟩
    | ok code =>
      dsimp only
      cases e.edit location (location.line + dry.shift location.path) index code with
      | error failure => exact ⟨rfl, h.log log log'⟩
      | ok edit =>
        have hread : real.disk.readText (real.store.resolve location.path) real.store.encoding
            = .ok code := by
          rw [Store.resolve, h.real_root, h.real_encoding, ← h.real_load, hload, hcode]
        obtain ⟨hnull, names, bytes, log₁, hleads, hget, hcommit⟩ :=
          exists_commit_inPlace (s := { real with log }) h.real_mode
            (h.real_encoding ▸ hutf8) location hread (dry.shift location.path) edit
        obtain ⟨log₂, hcommit'⟩ := commit_dry (s := { dry with log := log' }) h.dry_mode location
          (dry.shift location.path) edit
        dsimp only
        rw [hcommit, hcommit']
        have hleads' : disk.Leads (root ++ Path.ofText location.path) names := by
          rw [← h.alike.leads_iff, ← h.real_root]
          exact hleads
        refine ⟨rfl, ?_⟩
        dsimp only
        rw [h.shifts_eq]
        exact h.put hplain hpath (h.real_encoding ▸ hnull) hleads' hget edit.code _ log₁ log₂

/-! ## A whole run -/

/-- **A dry run shows what the real one does.**  They have the same records or fail alike, with the
same shifts and the same changed paths; every file that the real run leaves holds the text that the
dry session loads, or cannot be read for the same reason, unless its path spells a listed file
differently; and the dry run leaves the disk as it is. -/
theorem dry_run_predicts (e : Editor) (disk : Disk) (root : Path)
    (hutf8 : Encoding.ofName? encoding = some .utf8) {locations : List Location}
    (hplain : ∀ l ∈ locations, Plain l.path) :
    let real := e.run locations (inPlace false disk root encoding)
    let dry := e.run locations (Session.dry disk root encoding)
    real.1 = dry.1 ∧ real.2.shifts = dry.2.shifts
      ∧ real.2.store.changed = dry.2.store.changed
      ∧ (∀ path, Plain path ∨ (∀ l ∈ locations,
            ¬ disk.SameFile (root ++ Path.ofText path) (root ++ Path.ofText l.path)) →
          real.2.disk.readText (root ++ Path.ofText path) encoding = (dry.2.load path).1)
      ∧ dry.2.disk = disk := by
  intro real dry
  let paths : Set Text := {p | ∃ l ∈ locations, l.path = p}
  have hplain' : ∀ p ∈ paths, Plain p := by
    rintro p ⟨l, hl, rfl⟩
    exact hplain l hl
  obtain ⟨hresult, hmirrors⟩ :=
    runFrom_simulates (e := e) (R := Mirrors disk root encoding paths)
      (fun _ _ log log' h => h.log log log') (Location.sort locations)
      (fun l hl => replaceAt_mirrors hutf8 hplain' l ⟨l, List.mem_mergeSort.mp hl, rfl⟩) []
      _ _ mirrors_dry
  refine ⟨hresult, hmirrors.shifts_eq, hmirrors.changed_eq, fun path hpath => ?_,
    hmirrors.dry_disk⟩
  refine (hmirrors.real_load path).symm.trans (hmirrors.load_eq hutf8 fun q hq hsame => ?_)
  rcases hpath with hpath | hpath
  · obtain ⟨names, hnames, hnames'⟩ := hsame
    exact Disk.eq_of_resolve_eq hpath (hplain' q hq) hnames hnames'
  · obtain ⟨l, hl, rfl⟩ := hq
    exact absurd hsame (hpath l hl)

/-- Both runs replace the calls of one file and give up at another, which has no line; the text that
the dry session holds back is what the file of the real one holds. -/
theorem dry_run_predicts_given_up :
    let e : Editor := ⟨['f'], Policy.apply (.leading {}), [".h".toList]⟩
    let a : Text := "a.c".toList
    let b : Text := "b.c".toList
    let disk : Disk :=
      ⟨[([a], .file (Utf8.encode "f(x,\ny);\nf(é);\n".toList)), ([b], .file [])], []⟩
    let locations : List Location := [⟨b, 1⟩, ⟨a, 1⟩, ⟨a, 3⟩]
    let real := e.run locations (inPlace false disk {} "utf-8".toList)
    let dry := e.run locations (Session.dry disk {} "utf-8".toList)
    (∀ l ∈ locations, Plain l.path)
      ∧ dry.1 = .error (.fault (.overflow (some b) (some 1) (some 0))) ∧ real.1 = dry.1
      ∧ real.2.shifts = [(a, -1)] ∧ real.2.store.changed = [a]
      ∧ (dry.2.load a).1 = .ok "f(ERR_0, x, y);\nf(ERR_1, é);\n".toList
      ∧ real.2.disk.readText ({} ++ Path.ofText a) "utf-8".toList = (dry.2.load a).1
      ∧ dry.2.disk = disk := by
  intro e a b disk locations real dry
  have hplain : ∀ l ∈ locations, Plain l.path := by decide
  have hfailure : dry.1 = .error (.fault (.overflow (some b) (some 1) (some 0))) := by
    dsimp only [dry, e, locations, disk, a, b]
    cbv
  have hshifts : dry.2.shifts = [(a, -1)] := by
    dsimp only [dry, e, locations, disk, a, b]
    cbv
  have hchanged : dry.2.store.changed = [a] := by
    dsimp only [dry, e, locations, disk, a, b]
    cbv
  have hload : (dry.2.load a).1 = .ok "f(ERR_0, x, y);\nf(ERR_1, é);\n".toList := by
    dsimp only [dry, e, locations, disk, a, b]
    cbv
  have hutf8 : Encoding.ofName? "utf-8".toList = some .utf8 := by cbv
  obtain ⟨hresult, hshifts', hchanged', htexts, hdisk⟩ := dry_run_predicts e disk {} hutf8 hplain
  exact ⟨hplain, hfailure, hresult, hshifts'.trans hshifts, hchanged'.trans hchanged, hload,
    htexts a (.inl (by decide)), hdisk⟩

end Editor

end CallEdits
