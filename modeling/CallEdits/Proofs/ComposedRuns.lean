import CallEdits.Proofs.AbortedRuns
import Mathlib

/-!
# Proofs/ComposedRuns — one run, or two in turn

    run (A ++ B)   ≈   run A ──▸ run B,  the numbers of B going on where those of A stopped

A run hands on two things from one location to the next: the session, and the number of calls that
it has replaced.  So a run can be cut in two between any locations (`runFrom_append`).  The second
part begins with the session of the first, but for the last words in its log, and these are never
read (`replaceAt_sameState`); and it counts its calls from zero again, which a policy that starts
with a later number makes up for (`replaceAt_advance`).
-/

namespace CallEdits

namespace Session

/-! ## Sessions that differ in their logs -/

/-- **Sessions that differ in their logs alone.** -/
structure SameState (s t : Session) : Prop where
  disk_eq : t.disk = s.disk
  store_eq : t.store = s.store
  shifts_eq : t.shifts = s.shifts

variable {s t : Session}

theorem SameState.refl (s : Session) : s.SameState s := ⟨rfl, rfl, rfl⟩

theorem SameState.trans {u : Session} (h : s.SameState t) (h' : t.SameState u) : s.SameState u :=
  ⟨h'.disk_eq.trans h.disk_eq, h'.store_eq.trans h.store_eq, h'.shifts_eq.trans h.shifts_eq⟩

theorem sameState_log (s : Session) (log : List Event) : s.SameState { s with log } :=
  ⟨rfl, rfl, rfl⟩

theorem SameState.exists_log (h : s.SameState t) : ∃ log, t = { s with log } := by
  obtain ⟨disk, store, shifts, log⟩ := t
  obtain ⟨rfl, rfl, rfl⟩ := h
  exact ⟨log, rfl⟩

theorem SameState.log (h : s.SameState t) (log log' : List Event) :
    SameState { s with log } { t with log := log' } := ⟨h.disk_eq, h.store_eq, h.shifts_eq⟩

theorem SameState.shift_eq (h : s.SameState t) (path : Text) : t.shift path = s.shift path := by
  rw [shift, shift, h.shifts_eq]

/-- Results that are the same, with sessions that differ in their logs alone. -/
def Parallel {α : Type} (x y : α × Session) : Prop := x.1 = y.1 ∧ x.2.SameState y.2

theorem parallel_writeFile (h : s.SameState t) (path code : Text) :
    Parallel (s.writeFile path code) (t.writeFile path code) := by
  obtain ⟨log, rfl⟩ := h.exists_log
  simp only [writeFile, note, Store.resolve]
  rcases s.disk.writeText (s.store.root ++ Path.ofText path) s.store.encoding code with
    ⟨_ | _, disk⟩ <;> exact ⟨rfl, rfl, rfl, rfl⟩

theorem parallel_backUp (h : s.SameState t) (path : Text) :
    Parallel (s.backUp path) (t.backUp path) := by
  obtain ⟨log, rfl⟩ := h.exists_log
  simp only [backUp, note, Store.resolve]
  repeat' split
  all_goals exact ⟨rfl, rfl, rfl, rfl⟩

/-- **A text is written alike**, whatever the log says. -/
theorem parallel_write (h : s.SameState t) (path code : Text) :
    Parallel (s.write path code) (t.write path code) := by
  rw [write, write, h.store_eq]
  split
  · exact ⟨rfl, h.disk_eq, rfl, h.shifts_eq⟩
  split
  · obtain ⟨hresult, hafter⟩ := parallel_backUp h path
    rcases hs : s.backUp path with ⟨result, s'⟩
    rcases ht : t.backUp path with ⟨result', t'⟩
    rw [hs, ht] at hresult hafter
    obtain rfl : result = result' := hresult
    cases result with
    | error failure => exact ⟨rfl, hafter⟩
    | ok _ => exact parallel_writeFile hafter path code
  · exact parallel_writeFile h path code

end Session

namespace Editor

open Session

variable {e : Editor} {P : Policy} {s t : Session}

theorem parallel_commit (h : s.SameState t) (location : Location) (shift : Int) (edit : Edit) :
    Parallel (commit location shift s edit) (commit location shift t edit) := by
  obtain ⟨hresult, hafter⟩ := parallel_write h location.path edit.code
  rw [commit, commit]
  rcases hs : s.write location.path edit.code with ⟨result, s'⟩
  rcases ht : t.write location.path edit.code with ⟨result', t'⟩
  rw [hs, ht] at hresult hafter
  obtain rfl : result = result' := hresult
  cases result with
  | error failure => exact ⟨rfl, hafter⟩
  | ok _ => exact ⟨rfl, hafter.disk_eq, hafter.store_eq, congrArg (Table.put _ _) hafter.shifts_eq⟩

/-- **A step does not read the log.** -/
theorem replaceAt_sameState (h : s.SameState t) (e : Editor) (location : Location) (index : Int) :
    Parallel (e.replaceAt location index s) (e.replaceAt location index t) := by
  by_cases hdecl : e.isDeclaration location.path = true
  · rw [replaceAt, replaceAt, if_pos hdecl, if_pos hdecl]
    exact ⟨rfl, h.log ..⟩
  · have hdecl' : e.isDeclaration location.path = false := Bool.eq_false_iff.mpr hdecl
    obtain ⟨log, hs⟩ := replaceAt_eq_match index s hdecl'
    obtain ⟨log', ht⟩ := replaceAt_eq_match index t hdecl'
    have hload : (t.load location.path).1 = (s.load location.path).1 :=
      load_congr h.disk_eq h.store_eq
    rw [hs, ht, hload, h.shift_eq]
    have hlogs : SameState { s with log } { t with log := log' } := h.log ..
    cases (s.load location.path).1 with
    | error failure => exact ⟨rfl, hlogs⟩
    | ok code =>
      dsimp only
      cases e.edit location (location.line + s.shift location.path) index code with
      | error failure => exact ⟨rfl, hlogs⟩
      | ok edit => exact parallel_commit hlogs location _ edit

/-- **A run does not read the log.** -/
theorem run_sameState (h : s.SameState t) (e : Editor) (locations : List Location) :
    Parallel (e.run locations s) (e.run locations t) :=
  runFrom_simulates (fun _ _ _ _ h => h.log ..) _
    (fun location _ index _ _ h => replaceAt_sameState h e location index) [] s t h

end Editor

/-! ## Numbers that go on -/

/-- **The policy that goes on** after `count` calls: its numbers start that much later. -/
def Policy.advance (count : Nat) : Policy → Policy
  | .diagnostic p => .diagnostic { p with idStart := p.idStart + count }
  | .leading p => .leading { p with idStart := p.idStart + count }

/-- **A later start is a higher rank**: a policy sees nothing else of the calls before. -/
theorem Policy.advance_apply (P : Policy) (count : Nat) (site : Call.Site) :
    (P.advance count).apply site = P.apply { site with index := count + site.index } := by
  cases P with
  | diagnostic p =>
    have hnumber : p.idStart + count + site.index = p.idStart + (count + site.index) :=
      Int.add_assoc ..
    simp only [advance, apply, Diagnostic.apply, hnumber]
    rfl
  | leading p =>
    have hnumber : p.idStart + count + site.index = p.idStart + (count + site.index) :=
      Int.add_assoc ..
    simp only [advance, apply, Leading.apply, hnumber]
    rfl

namespace Editor

open Session

variable {e : Editor} {P : Policy} {s t : Session}

/-- **The editor that goes on** after `count` calls. -/
def advance (e : Editor) (P : Policy) (count : Nat) : Editor :=
  { e with policy := (P.advance count).apply }

theorem edit_advance (hpolicy : e.policy = P.apply) (count : Nat) (location : Location)
    (target index : Int) (code : Text) :
    (e.advance P count).edit location target index code
      = e.edit location target (count + index) code := by
  simp only [edit, editFrom, advance, Policy.advance_apply, hpolicy]

/-- **A step of the editor that goes on** is the step of the first one at a higher rank. -/
theorem replaceAt_advance (hpolicy : e.policy = P.apply) (count : Nat) (location : Location)
    (index : Int) (s : Session) :
    (e.advance P count).replaceAt location index s
      = e.replaceAt location (count + index) s := by
  simp only [replaceAt, edit_advance hpolicy]
  rfl

/-- **A run of the editor that goes on** is the rest of a run that has the records `first`. -/
theorem runFrom_advance (hpolicy : e.policy = P.apply) (first : List Record) :
    ∀ (locations : List Location) (done : List Record) (s : Session),
      Parallel (e.runFrom (done ++ first.reverse) locations s)
        (((e.advance P first.length).runFrom done locations s).map
          (Except.map (first ++ ·)) id)
  | [], done, s => by
      refine ⟨?_, rfl, rfl, rfl⟩
      simp [runFrom, Except.map]
  | location :: rest, done, s => by
      have hrank : ((done ++ first.reverse).length : Int) = first.length + done.length := by
        simp [Int.add_comm]
      have hstep := replaceAt_advance hpolicy first.length location done.length s
      rw [runFrom, runFrom, hrank, hstep]
      rcases e.replaceAt location (first.length + done.length) s with ⟨failure | (_ | record), t⟩
      · exact ⟨rfl, .refl t⟩
      · exact runFrom_advance hpolicy first rest done t
      · exact runFrom_advance hpolicy first rest (record :: done) t

/-! ## A run in two parts -/

/-- **A run can be cut in two**: it fails where its first part fails, or else goes on where that
ended, with the records that it has. -/
theorem runFrom_append (e : Editor) (second : List Location) :
    ∀ (first : List Location) (done : List Record) (s : Session),
      (∃ failure t, e.runFrom done first s = (.error failure, t)
          ∧ e.runFrom done (first ++ second) s = (.error failure, t))
        ∨ ∃ records t, e.runFrom done first s = (.ok records, t.note (.finished records.length))
          ∧ e.runFrom done (first ++ second) s = e.runFrom records.reverse second t
  | [], done, s => by
      refine .inr ⟨done.reverse, s, ?_, ?_⟩
      · rw [runFrom, List.length_reverse]
      · rw [List.reverse_reverse, List.nil_append]
  | location :: rest, done, s => by
      rcases hstep : e.replaceAt location done.length s with ⟨failure | record?, t⟩
      · exact .inl ⟨failure, t, by rw [runFrom, hstep], by rw [List.cons_append, runFrom, hstep]⟩
      · rw [List.cons_append, runFrom_cons hstep, runFrom_cons hstep]
        exact runFrom_append e second rest (record?.toList ++ done) t

/-- **Two runs in turn**: if the first succeeds, the second goes on with its session and its
numbers, and the records of both are given. -/
def runInTurn (e : Editor) (P : Policy) (first second : List Location) (s : Session) :
    Except Failure (List Record) × Session :=
  match e.run first s with
  | (.error failure, t) => (.error failure, t)
  | (.ok records, t) =>
    match (e.advance P records.length).run second t with
    | (.error failure, u) => (.error failure, u)
    | (.ok more, u) => (.ok (records ++ more), u)

/-- **One run comes to the same as two in turn**, if the locations of the first come before those of
the second: the result, the disk, the store and the shifts are the same, also where one file is
listed in both, and where either run fails. -/
theorem run_append_eq_runInTurn (hpolicy : e.policy = P.apply) {first second : List Location}
    (hle : ∀ a ∈ first, ∀ b ∈ second, a.le b = true) (s : Session) :
    (e.run (first ++ second) s).1 = (e.runInTurn P first second s).1
      ∧ (e.run (first ++ second) s).2.SameState (e.runInTurn P first second s).2 := by
  rw [runInTurn, run, run, Location.sort_append hle]
  obtain ⟨failure, t, hfirst, hboth⟩ | ⟨records, t, hfirst, hboth⟩ :=
    runFrom_append e (Location.sort second) (Location.sort first) [] s
  · rw [hboth, hfirst]
    exact ⟨rfl, .refl t⟩
  · have hrest := runFrom_advance hpolicy records (Location.sort second) [] t
    have hlog := run_sameState (sameState_log t (.finished records.length :: t.log))
      (e.advance P records.length) second
    rw [List.nil_append] at hrest
    rw [hboth, hfirst]
    dsimp only [run, note] at hrest hlog ⊢
    generalize e.runFrom records.reverse (Location.sort second) t = both at hrest ⊢
    generalize (e.advance P records.length).runFrom [] (Location.sort second) t = rest at hrest hlog
    generalize (e.advance P records.length).runFrom [] (Location.sort second)
      { t with log := .finished records.length :: t.log } = last at hlog ⊢
    obtain ⟨result, u⟩ := last
    obtain ⟨rfl, hlast⟩ : rest.1 = result ∧ rest.2.SameState u := hlog
    obtain ⟨hresult, hsame⟩ := hrest
    obtain ⟨result, u'⟩ := rest
    cases result with
    | error failure => exact ⟨hresult, hsame.trans hlast⟩
    | ok more => exact ⟨hresult, hsame.trans hlast⟩

/-- A file listed in both runs: the first call joins two lines, and the second run finds its call
one line higher and gives it the next number. -/
theorem run_append_eq_runInTurn_shared_file :
    let P : Policy := .leading {}
    let e : Editor := ⟨['f'], P.apply, [".h".toList]⟩
    let path : Text := "a.c".toList
    let s : Session :=
      { disk := ⟨[([path], .file (Utf8.encode "f(a,\n  b);\nf(c);\n".toList))], []⟩, store := {} }
    let records : List Record :=
      [⟨⟨path, 1⟩, 1, "f(ERR_0, a, b)".toList, -1⟩, ⟨⟨path, 3⟩, 2, "f(ERR_1, c)".toList, 0⟩]
    (∀ a ∈ [Location.mk path 1], ∀ b ∈ [Location.mk path 3, ⟨"a.h".toList, 1⟩], a.le b = true)
      ∧ (e.run ([⟨path, 1⟩] ++ [⟨path, 3⟩, ⟨"a.h".toList, 1⟩]) s).1 = .ok records
      ∧ (e.runInTurn P [⟨path, 1⟩] [⟨path, 3⟩, ⟨"a.h".toList, 1⟩] s).1 = .ok records
      ∧ (e.runInTurn P [⟨path, 1⟩] [⟨path, 3⟩, ⟨"a.h".toList, 1⟩] s).2.disk.entries
        = [([path], .file (Utf8.encode "f(ERR_0, a, b);\nf(ERR_1, c);\n".toList))] := by
  intro P e path s records
  have hle : ∀ a ∈ [Location.mk path 1], ∀ b ∈ [Location.mk path 3, ⟨"a.h".toList, 1⟩],
      a.le b = true := by decide
  have hrun : (e.run ([⟨path, 1⟩] ++ [⟨path, 3⟩, ⟨"a.h".toList, 1⟩]) s).1 = .ok records := by
    dsimp only [e, P, s, path, records]
    cbv
  have hdisk : (e.run ([⟨path, 1⟩] ++ [⟨path, 3⟩, ⟨"a.h".toList, 1⟩]) s).2.disk.entries
      = [([path], .file (Utf8.encode "f(ERR_0, a, b);\nf(ERR_1, c);\n".toList))] := by
    dsimp only [e, P, s, path]
    cbv
  have hpolicy : e.policy = P.apply := rfl
  obtain ⟨hresult, hsame⟩ := run_append_eq_runInTurn hpolicy hle s
  exact ⟨hle, hrun, hresult.symm.trans hrun, by rw [hsame.disk_eq]; exact hdisk⟩

end Editor

end CallEdits
