import CallEdits.Proofs.Regions
import CallEdits.Proofs.RunSteps
import Mathlib

/-!
# Proofs/LineBalance — the shifts of a dry session add up

The session never counts the lines of a file again: it adds the change that every edit reports.
`Balanced` is the invariant that makes this sound — for every file that the overlay holds, the
breaks of its text are those of the file on the disk and the shift together — and one step preserves
it (`balanced_replaceAt`) because an edit counts the breaks that it exchanges (`breaks_of_edit`).

    breaks (overlay p) = breaks (disk p) + shift p
-/

namespace CallEdits

namespace Session

/-- **A dry session before its first step.** -/
def dry (disk : Disk) (root : Path) (encoding : Text) : Session :=
  { disk, store := { root, encoding, mode := .dry } }

/-- The text of a file on the disk. -/
def onDisk (disk : Disk) (root : Path) (encoding path : Text) : Except Failure Text :=
  disk.readText (root ++ Path.ofText path) encoding

/-- **The shifts add up**: every text that is held back has the breaks of its file on the disk and
those of its shift. -/
structure Balanced (disk : Disk) (root : Path) (encoding : Text) (s : Session) : Prop where
  disk_eq : s.disk = disk
  root_eq : s.store.root = root
  encoding_eq : s.store.encoding = encoding
  mode_eq : s.store.mode = .dry
  keys_eq : s.shifts.map Prod.fst = s.store.overlay.map Prod.fst
  breaks_eq : ∀ path code, s.store.overlay.lookup path = some code →
    ∃ original, onDisk disk root encoding path = .ok original
      ∧ (code.breaks : Int) = original.breaks + s.shift path

variable {disk : Disk} {root : Path} {encoding : Text} {s : Session}

theorem balanced_dry : Balanced disk root encoding (dry disk root encoding) :=
  ⟨rfl, rfl, rfl, rfl, rfl, fun _ _ h => nomatch h⟩

namespace Balanced

theorem log (h : Balanced disk root encoding s) (log : List Event) :
    Balanced disk root encoding { s with log } :=
  ⟨h.disk_eq, h.root_eq, h.encoding_eq, h.mode_eq, h.keys_eq, h.breaks_eq⟩

/-- A text comes from the overlay, or else from the disk. -/
theorem load_eq (h : Balanced disk root encoding s) (path : Text) :
    (s.load path).1 = match s.store.overlay.lookup path with
      | some code => .ok code
      | none => onDisk disk root encoding path := by
  rw [load, h.mode_eq]
  cases s.store.overlay.lookup path with
  | some code => rfl
  | none =>
    change s.disk.readText (s.store.root ++ Path.ofText path) s.store.encoding = _
    rw [h.disk_eq, h.root_eq, h.encoding_eq]
    rfl

/-- **Every text that can be loaded is balanced**, whether it is held back or not. -/
theorem breaks_load (h : Balanced disk root encoding s) {path code : Text}
    (hload : (s.load path).1 = .ok code) :
    ∃ original, onDisk disk root encoding path = .ok original
      ∧ (code.breaks : Int) = original.breaks + s.shift path := by
  rw [h.load_eq] at hload
  cases hheld : s.store.overlay.lookup path with
  | some held =>
    rw [hheld] at hload
    obtain rfl := Except.ok.inj hload
    exact h.breaks_eq path held hheld
  | none =>
    rw [hheld] at hload
    have hshift : s.shifts.lookup path = none := by
      rw [Table.lookup_eq_none_iff, h.keys_eq, ← Table.lookup_eq_none_iff]
      exact hheld
    refine ⟨code, hload, ?_⟩
    rw [shift, hshift]
    exact (Int.add_zero _).symm

/-- **A text that is put in with its change keeps the balance.** -/
theorem put (h : Balanced disk root encoding s) {path code new : Text} {delta : Int}
    (hload : (s.load path).1 = .ok code) (hnew : (new.breaks : Int) = code.breaks + delta)
    (log : List Event) :
    Balanced disk root encoding
      { s with store.overlay := Table.put path new s.store.overlay,
               shifts := Table.put path (s.shift path + delta) s.shifts, log } where
  disk_eq := h.disk_eq
  root_eq := h.root_eq
  encoding_eq := h.encoding_eq
  mode_eq := h.mode_eq
  keys_eq := by rw [Table.keys_put, Table.keys_put, h.keys_eq]
  breaks_eq := by
    intro p held hheld
    rw [Table.lookup_put] at hheld
    change ∃ original : Text, _
      ∧ (held.breaks : Int) = original.breaks + ((Table.put path _ _).lookup p).getD 0
    rw [Table.lookup_put]
    by_cases hp : p == path
    · rw [if_pos hp] at hheld ⊢
      obtain rfl := eq_of_beq hp
      obtain rfl := Option.some.inj hheld
      obtain ⟨original, horiginal, hbreaks⟩ := h.breaks_load hload
      refine ⟨original, horiginal, ?_⟩
      rw [Option.getD_some]
      omega
    · rw [if_neg hp] at hheld ⊢
      exact h.breaks_eq p held hheld

end Balanced

end Session

namespace Editor

open Session

/-! ## One step -/

variable {e : Editor} {disk : Disk} {root : Path} {encoding : Text} {s s' : Session}
  {location : Location} {index : Int} {record : Record}

/-- In a dry session a commit cannot fail. -/
theorem commit_dry (hdry : s.store.mode = .dry) (location : Location) (shift : Int) (edit : Edit) :
    ∃ log, commit location shift s edit = (.ok (some edit.record),
      { s with store.overlay := Table.put location.path edit.code s.store.overlay,
               shifts := Table.put location.path (shift + edit.record.delta) s.shifts, log }) := by
  rw [commit, Session.write, hdry]
  exact ⟨_, rfl⟩

/-- **A step keeps the balance**, whatever comes of it. -/
theorem balanced_replaceAt (hname : '\n' ∉ e.function) (location : Location) (index : Int)
    (s : Session) (h : Balanced disk root encoding s) :
    Balanced disk root encoding (e.replaceAt location index s).2 := by
  obtain ⟨log, ⟨-, hstep⟩ | ⟨-, failure, hstep, -⟩ | ⟨-, code, edit, hload, hedit, hstep⟩⟩ :=
    e.replaceAt_cases location index s
  · rw [hstep]
    exact h.log log
  · rw [hstep]
    exact h.log log
  · obtain ⟨log', hcommit⟩ :=
      commit_dry (h.log log).mode_eq location (s.shift location.path) edit
    rw [hstep, hcommit]
    exact h.put hload (breaks_of_edit hname hedit) log'

/-- **A record counts the breaks that its step adds to the text.** -/
def CountsBreaks (before : Session) (record : Record) (after : Session) : Prop :=
  ∃ old new, (before.load record.location.path).1 = .ok old
    ∧ (after.load record.location.path).1 = .ok new
    ∧ record.delta = (new.breaks : Int) - old.breaks

theorem countsBreaks_of_replaceAt (hname : '\n' ∉ e.function) (h : Balanced disk root encoding s)
    (hrecord : e.replaceAt location index s = (.ok (some record), s')) :
    CountsBreaks s record s' := by
  obtain ⟨log, ⟨-, hstep⟩ | ⟨-, failure, hstep, -⟩ | ⟨-, code, edit, hload, hedit, hstep⟩⟩ :=
    e.replaceAt_cases location index s
  · exact nomatch (Prod.mk.inj (hrecord.symm.trans hstep)).1
  · exact nomatch (Prod.mk.inj (hrecord.symm.trans hstep)).1
  · obtain ⟨log', hcommit⟩ :=
      commit_dry (h.log log).mode_eq location (s.shift location.path) edit
    obtain ⟨hrec, hs'⟩ := Prod.mk.inj ((hrecord.symm.trans hstep).trans hcommit)
    obtain rfl := Option.some.inj (Except.ok.inj hrec)
    have hbreaks := breaks_of_edit hname hedit
    have hafter := h.put hload hbreaks log'
    have hpath : edit.record.location.path = location.path := by
      obtain ⟨-, -, g, replacement, -, -, rfl⟩ := edit_eq_ok_iff.mp hedit
      rfl
    refine ⟨code, edit.code, hpath ▸ hload, ?_, by omega⟩
    rw [hs', hpath, hafter.load_eq]
    simp only [Table.lookup_put, BEq.rfl, if_true]

/-! ## Sequences of requests -/

/-- What may be asked of an editor: a whole run, or a single location. -/
inductive Request
  | run (locations : List Location)
  | replaceAt (location : Location) (index : Int)

/-- The session after a request, failed or not. -/
def perform (e : Editor) (s : Session) : Request → Session
  | .run locations => (e.run locations s).2
  | .replaceAt location index => (e.replaceAt location index s).2

theorem balanced_perform (hname : '\n' ∉ e.function) (h : Balanced disk root encoding s) :
    ∀ request, Balanced disk root encoding (e.perform s request)
  | .run _ => runFrom_preserves (fun _ log h => h.log log) (balanced_replaceAt hname) _ _ _ h
  | .replaceAt location index => balanced_replaceAt hname location index s h

theorem balanced_foldl (hname : '\n' ∉ e.function) : ∀ (requests : List Request) (s : Session),
    Balanced disk root encoding s → Balanced disk root encoding (requests.foldl e.perform s)
  | [], _, h => h
  | request :: requests, _, h => balanced_foldl hname requests _ (balanced_perform hname h request)

/-- **The shifts of a dry session add up**, after every sequence of requests: a text that can be
loaded has the breaks of its file on the disk and those of its shift, the files with a shift are the
files that were changed, and every record of what is asked next counts the breaks that it adds. -/
theorem dry_shifts_add_up (hname : '\n' ∉ e.function) (disk : Disk) (root : Path) (encoding : Text)
    (requests : List Request) :
    let s := requests.foldl e.perform (Session.dry disk root encoding)
    (∀ path code, (s.load path).1 = .ok code →
        ∃ original, disk.readText (root ++ Path.ofText path) encoding = .ok original
          ∧ (code.breaks : Int) = original.breaks + s.shift path)
      ∧ s.shifts.map Prod.fst = s.store.overlay.map Prod.fst
      ∧ s.store.changed = Text.sort (s.shifts.map Prod.fst)
      ∧ (∀ location index record s', e.replaceAt location index s = (.ok (some record), s') →
          CountsBreaks s record s')
      ∧ (∀ locations records s', e.run locations s = (.ok records, s') →
          records = (e.steps 0 (Location.sort locations) s).map Step.record
            ∧ ∀ step ∈ e.steps 0 (Location.sort locations) s,
                CountsBreaks step.before step.record step.after) := by
  intro s
  have h : Balanced disk root encoding s := balanced_foldl hname requests _ balanced_dry
  refine ⟨fun path code hload => h.breaks_load hload, h.keys_eq, ?_, ?_, ?_⟩
  · rw [Store.changed, h.mode_eq, h.keys_eq]
  · exact fun location index record s' hrecord => countsBreaks_of_replaceAt hname h hrecord
  · intro locations records s' hrun
    refine ⟨records_of_runFrom _ [] s hrun, fun step hstep => ?_⟩
    obtain ⟨hbefore, location, index, hrecord⟩ :=
      exists_of_mem_steps (balanced_replaceAt hname) _ 0 s h hstep
    exact countsBreaks_of_replaceAt hname hbefore hrecord

/-- A call over two lines becomes one line, and the overlay of the dry session is one line short. -/
theorem dry_shifts_add_up_joined_lines :
    let e : Editor := ⟨['f'], Policy.apply (.leading {}), []⟩
    let disk : Disk := { entries := [([['a']], .file (Utf8.encode "f(a,\nb);\n".toList))] }
    let s := [Request.replaceAt ⟨['a'], 1⟩ 0, .run [⟨['a'], 9⟩]].foldl e.perform
      (Session.dry disk {} "utf-8".toList)
    '\n' ∉ e.function ∧ (s.load ['a']).1 = .ok "f(ERR_0, a, b);\n".toList
      ∧ s.shift ['a'] = -1 ∧ s.store.changed = [['a']]
      ∧ ∃ original, disk.readText ({} ++ Path.ofText ['a']) "utf-8".toList = .ok original
          ∧ (Text.breaks "f(ERR_0, a, b);\n".toList : Int) = original.breaks + s.shift ['a'] := by
  intro e disk s
  have hname : '\n' ∉ e.function := by decide
  have hload : (s.load ['a']).1 = .ok "f(ERR_0, a, b);\n".toList := by
    dsimp only [s, e, disk]
    cbv
  have hbalance := (dry_shifts_add_up hname disk {} "utf-8".toList _).1 ['a'] _ hload
  have hshift : s.shift ['a'] = -1 := by
    dsimp only [s, e, disk]
    cbv
  have hchanged : s.store.changed = [['a']] := by
    dsimp only [s, e, disk]
    cbv
  exact ⟨hname, hload, hshift, hchanged, hbalance⟩

end Editor

end CallEdits
