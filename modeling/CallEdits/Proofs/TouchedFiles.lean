import CallEdits.Proofs.PlainPaths
import CallEdits.Proofs.RunSteps
import CallEdits.Proofs.WriteOutcomes
import Mathlib

/-!
# Proofs/TouchedFiles — what a run can reach

All that a session does to files it does for some path: the path is loaded, its backup is made, its
text is written or held back, its lines are added up.  `Confined paths` says of two sessions that
whatever lies between them was done for one of `paths`: on the disk, in the store, in the shifts and
in the log.  This is kept when one thing follows another (`Confined.trans`), so it is enough to look
at each thing that a session does; a step does all of it for the path of its location, and nothing
at all if that holds declarations (`confined_replaceAt`).
-/

namespace CallEdits

open CallEdits.Path (backupSuffix)

/-- **The files that are opened for a path**: its own, and its backup where backups are made. -/
def Store.Opens (store : Store) (path : Text) (p : Path) : Prop :=
  p = store.resolve path
    ∨ store.mode = .inPlace true ∧ (store.resolve path).extend? backupSuffix = some p

/-- **Was a file opened for one of these paths?**  An event that opens no file is always allowed. -/
def Event.IsFor (store : Store) (paths : Set Text) : Event → Prop
  | .load target | .write target | .backup target => ∃ path ∈ paths, store.Opens path target
  | .loadOverlay path | .writeOverlay path => path ∈ paths
  | _ => True

namespace Session

/-- **What a session has noted about a path**: its shift, the text that is held back, and whether
its file was written and backed up. -/
def about (s : Session) (path : Text) : Option Int × Option Text × Bool × Bool :=
  (s.shifts.lookup path, s.store.overlay.lookup path, s.store.written.contains path,
    s.store.backedUp.contains path)

/-- **All that lies between two sessions was done for these paths.** -/
structure Confined (paths : Set Text) (s s' : Session) : Prop where
  root_eq : s'.store.root = s.store.root
  encoding_eq : s'.store.encoding = s.store.encoding
  mode_eq : s'.store.mode = s.store.mode
  folders : s.disk.SameFolders s'.disk
  files : ∀ names, s'.disk.get? names ≠ s.disk.get? names →
    ∃ path ∈ paths, ∃ p, s.store.Opens path p ∧ s.disk.Leads p names
  about_eq : ∀ path ∉ paths, s'.about path = s.about path
  events : ∃ log, s'.log = log ++ s.log ∧ ∀ event ∈ log, event.IsFor s.store paths

variable {paths paths' : Set Text} {s s' s'' : Session} {path : Text}

/-! ## One thing after another -/

namespace Confined

theorem opens_iff (h : Confined paths s s') {p : Path} :
    s'.store.Opens path p ↔ s.store.Opens path p := by
  rw [Store.Opens, Store.Opens, Store.resolve, Store.resolve, h.root_eq, h.mode_eq]

theorem isFor_iff (h : Confined paths s s') {event : Event} :
    event.IsFor s'.store paths' ↔ event.IsFor s.store paths' := by
  cases event <;> simp only [Event.IsFor, h.opens_iff]

theorem refl (paths : Set Text) (s : Session) : Confined paths s s where
  root_eq := rfl
  encoding_eq := rfl
  mode_eq := rfl
  folders := .refl _
  files := fun _ hne => absurd rfl hne
  about_eq := fun _ _ => rfl
  events := ⟨[], rfl, fun _ hmem => nomatch hmem⟩

theorem trans (h : Confined paths s s') (h' : Confined paths s' s'') : Confined paths s s'' where
  root_eq := h'.root_eq.trans h.root_eq
  encoding_eq := h'.encoding_eq.trans h.encoding_eq
  mode_eq := h'.mode_eq.trans h.mode_eq
  folders := h.folders.trans h'.folders
  files := by
    intro names hne
    by_cases hsame : s'.disk.get? names = s.disk.get? names
    · rw [← hsame] at hne
      obtain ⟨path, hpath, p, hopens, hleads⟩ := h'.files names hne
      exact ⟨path, hpath, p, h.opens_iff.mp hopens, h.folders.leads_iff.mp hleads⟩
    · exact h.files names hsame
  about_eq := fun path hpath => (h'.about_eq path hpath).trans (h.about_eq path hpath)
  events := by
    obtain ⟨log, hlog, hfor⟩ := h.events
    obtain ⟨log', hlog', hfor'⟩ := h'.events
    refine ⟨log' ++ log, by rw [hlog', hlog, List.append_assoc], fun event hmem => ?_⟩
    rcases List.mem_append.mp hmem with hmem | hmem
    · exact h.isFor_iff.mp (hfor' event hmem)
    · exact hfor event hmem

theorem mono (h : Confined paths s s') (hsub : paths ⊆ paths') : Confined paths' s s' where
  root_eq := h.root_eq
  encoding_eq := h.encoding_eq
  mode_eq := h.mode_eq
  folders := h.folders
  files := by
    intro names hne
    obtain ⟨path, hpath, hleads⟩ := h.files names hne
    exact ⟨path, hsub hpath, hleads⟩
  about_eq := fun path hpath => h.about_eq path fun hmem => hpath (hsub hmem)
  events := by
    obtain ⟨log, hlog, hfor⟩ := h.events
    refine ⟨log, hlog, fun event hmem => ?_⟩
    have hevent := hfor event hmem
    cases event with
    | load | write | backup =>
      obtain ⟨path, hpath, hopens⟩ := hevent
      exact ⟨path, hsub hpath, hopens⟩
    | loadOverlay | writeOverlay => exact hsub hevent
    | _ => trivial

end Confined

/-! ## The things that a session does -/

/-- An event is added to the log. -/
theorem confined_note {event : Event} (h : event.IsFor s.store paths) :
    Confined paths s (s.note event) where
  root_eq := rfl
  encoding_eq := rfl
  mode_eq := rfl
  folders := .refl _
  files := fun _ hne => absurd rfl hne
  about_eq := fun _ _ => rfl
  events := ⟨[event], rfl, fun _ hmem => List.mem_singleton.mp hmem ▸ h⟩

/-- Something is noted about a path. -/
theorem confined_of_about (hpath : path ∈ paths) (hdisk : s'.disk = s.disk) (hlog : s'.log = s.log)
    (hroot : s'.store.root = s.store.root) (hencoding : s'.store.encoding = s.store.encoding)
    (hmode : s'.store.mode = s.store.mode) (habout : ∀ p, p ≠ path → s'.about p = s.about p) :
    Confined paths s s' where
  root_eq := hroot
  encoding_eq := hencoding
  mode_eq := hmode
  folders := hdisk ▸ .refl _
  files := fun _ hne => absurd (by rw [hdisk]) hne
  about_eq := fun p hp => habout p fun heq => hp (heq ▸ hpath)
  events := ⟨[], hlog, fun _ hmem => nomatch hmem⟩

/-- A file that belongs to the path is written, or is left empty. -/
theorem confined_writeText (hpath : path ∈ paths) {p : Path} (hopens : s.store.Opens path p)
    (encoding code : Text) :
    Confined paths s { s with disk := (s.disk.writeText p encoding code).2 } := by
  obtain hsame | ⟨names, content, hleads, hput⟩ := s.disk.writeText_snd p encoding code
  · rw [hsame]
    exact .refl paths s
  · rw [hput]
    refine ⟨rfl, rfl, rfl, hleads.sameFolders content, fun names' hne => ?_, fun _ _ => rfl,
      ⟨[], rfl, fun _ hmem => nomatch hmem⟩⟩
    rw [Disk.get?_put _ hleads.ne_nil] at hne
    split at hne
    · rename_i heq
      exact ⟨path, hpath, p, hopens, heq ▸ hleads⟩
    · exact absurd rfl hne

theorem confined_load (hpath : path ∈ paths) (s : Session) :
    Confined paths s (s.load path).2 := by
  have hfile : Confined paths s (s.loadFile path).2 := confined_note ⟨path, hpath, .inl rfl⟩
  rw [load]
  split
  · exact hfile
  · split
    · exact confined_note hpath
    · exact hfile

theorem confined_backUp (hpath : path ∈ paths) (hmode : s.store.mode = .inPlace true) :
    Confined paths s (s.backUp path).2 := by
  simp only [backUp]
  split
  · exact .refl paths s
  rename_i copy hcopy
  split
  · exact .refl paths s
  rename_i text _
  have hopens : s.store.Opens path copy := .inr ⟨hmode, hcopy⟩
  have hwritten := confined_writeText hpath hopens s.store.encoding text
  split
  · rename_i hwrite
    rwa [hwrite] at hwritten
  · rename_i disk hwrite
    rw [hwrite] at hwritten
    have hmade : Confined paths s
        { s with disk, store.backedUp := path :: s.store.backedUp } := by
      refine hwritten.trans (confined_of_about hpath rfl rfl rfl rfl rfl fun p hp => ?_)
      simp [about, hp]
    exact hmade.trans (confined_note ⟨path, hpath, hmade.opens_iff.mpr hopens⟩)

theorem confined_writeFile (hpath : path ∈ paths) (s : Session) (code : Text) :
    Confined paths s (s.writeFile path code).2 := by
  have hopens : s.store.Opens path (s.store.resolve path) := .inl rfl
  have hnoted : Confined paths s (s.note (.write (s.store.resolve path))) :=
    confined_note ⟨path, hpath, hopens⟩
  simp only [writeFile]
  generalize s.note (.write (s.store.resolve path)) = t at hnoted ⊢
  have hwritten := hnoted.trans
    (confined_writeText hpath (hnoted.opens_iff.mpr hopens) t.store.encoding code)
  split
  · rename_i hwrite
    rwa [hwrite] at hwritten
  · rename_i hwrite
    rw [hwrite] at hwritten
    refine hwritten.trans (confined_of_about hpath rfl rfl rfl rfl rfl fun p hp => ?_)
    simp [about, hp]

/-- **A text is written for its own path**, with or without a backup, failed or not. -/
theorem confined_write (hpath : path ∈ paths) (s : Session) (code : Text) :
    Confined paths s (s.write path code).2 := by
  cases hmode : s.store.mode with
  | dry =>
    have hheld : Confined paths s
        { s with store.overlay := Table.put path code s.store.overlay } :=
      confined_of_about hpath rfl rfl rfl rfl rfl fun p hp => by
        simp [about, Table.lookup_put, hp]
    rw [write, hmode]
    exact hheld.trans (confined_note hpath)
  | inPlace backup =>
    have hsecured : Confined paths s (s.secure path).2 := by
      rw [secure]
      split
      · rename_i hdue
        exact confined_backUp hpath hdue.1
      · exact .refl paths s
    rw [write_inPlace hmode]
    rcases hsecure : s.secure path with ⟨failure | _, t⟩
    · rwa [hsecure] at hsecured
    · rw [hsecure] at hsecured
      exact hsecured.trans (confined_writeFile hpath t code)

end Session

namespace Editor

open Session

variable {e : Editor} {paths : Set Text}

theorem confined_commit {location : Location} (hpath : location.path ∈ paths) (shift : Int)
    (s : Session) (edit : Edit) : Confined paths s (commit location shift s edit).2 := by
  have hwritten := confined_write hpath s edit.code
  rw [commit]
  rcases hwrite : s.write location.path edit.code with ⟨failure | _, t⟩
  · rwa [hwrite] at hwritten
  · rw [hwrite] at hwritten
    have hshifted : Confined paths t
        { t with shifts := Table.put location.path (shift + edit.record.delta) t.shifts } :=
      confined_of_about hpath rfl rfl rfl rfl rfl fun p hp => by
        simp [about, Table.lookup_put, hp]
    exact (hwritten.trans hshifted).trans (confined_note trivial)

/-- **All that a step does it does for the path of its location**, and nothing if that holds
declarations. -/
theorem confined_replaceAt (location : Location) (index : Int) (s : Session)
    (hpath : e.isDeclaration location.path = false → location.path ∈ paths) :
    Confined paths s (e.replaceAt location index s).2 := by
  cases hdecl : e.isDeclaration location.path with
  | true =>
    rw [replaceAt, if_pos hdecl]
    exact confined_note trivial
  | false =>
    have hbegun : Confined paths s (s.note (.begin location (s.shift location.path)
        (location.line + s.shift location.path))) := confined_note trivial
    have hloaded := hbegun.trans (confined_load (hpath hdecl) _)
    obtain hend | ⟨edit, hend⟩ := e.replaceAt_snd index s hdecl
    · rwa [hend]
    · rw [hend]
      exact hloaded.trans (confined_commit (hpath hdecl) _ _ edit)

/-- **All that a run does it does for paths that are listed and hold no declarations**, whether it
succeeds or not. -/
theorem confined_run (e : Editor) (locations : List Location) (s : Session) :
    Confined {p | (∃ l ∈ locations, l.path = p) ∧ e.isDeclaration p = false} s
      (e.run locations s).2 := by
  refine runFrom_preserves_of_mem (P := Confined _ s)
    (fun _ _ h => h.trans (confined_note trivial)) (Location.sort locations)
    (fun l hl index t h => h.trans (confined_replaceAt l index t fun hdecl => ?_)) [] s
    (.refl _ s)
  exact ⟨⟨l, List.mem_mergeSort.mp hl, rfl⟩, hdecl⟩

end Editor

end CallEdits
