import CallEdits.Proofs.RunSteps
import Mathlib

/-!
# Proofs/AbortedRuns — a run that gives up

    location 1 ──▸ … ──▸ location j − 1 ──▸ location j      location j + 1 …
    ╰──────── a run that succeeds ────────╯     ╰ fault

A fault is found before anything is written: the line, the call, its arguments and the policy are
all looked at on the loaded text.  Writing can fail too, but never with a fault (`write_ne_fault`).
So the location at which a run gives up leaves no trace but in the log (`replaceAt_eq_fault`), and
the session is that of a run over the locations before it.
-/

namespace CallEdits

/-! ## Files know no faults -/

namespace Disk

variable {d d' : Disk} {p : Path} {encoding t : Text} {fault : Fault}

theorem readText_ne_fault : d.readText p encoding ≠ .error (.fault fault) := by
  rw [readText]
  repeat' split
  all_goals exact fun h => by cases h

theorem writeText_ne_fault : d.writeText p encoding t ≠ (.error (.fault fault), d') := by
  rw [writeText]
  repeat' split
  all_goals exact fun h => by cases h

end Disk

namespace Session

variable {s s' : Session} {path code : Text} {fault : Fault}

theorem backUp_ne_fault : s.backUp path ≠ (.error (.fault fault), s') := by
  intro h
  obtain ⟨-, hnameless⟩ | hread | ⟨_, _, _, hwrite⟩ := backUp_eq_error h
  · cases hnameless
  · exact Disk.readText_ne_fault hread
  · exact Disk.writeText_ne_fault hwrite

theorem writeFile_ne_fault : s.writeFile path code ≠ (.error (.fault fault), s') := by
  intro h
  obtain ⟨_, hwrite⟩ := writeFile_eq_error h
  exact Disk.writeText_ne_fault hwrite

/-- **Writing never ends with a fault**, in any kind of store. -/
theorem write_ne_fault : s.write path code ≠ (.error (.fault fault), s') := by
  intro h
  rw [write] at h
  split at h
  · cases h
  split at h
  · split at h
    · rename_i hbackUp
      obtain rfl := Except.error.inj (Prod.mk.inj h).1
      exact backUp_ne_fault hbackUp
    · exact writeFile_ne_fault h
  · exact writeFile_ne_fault h

end Session

namespace Editor

variable {e : Editor} {location : Location} {index : Int} {s s' : Session} {fault : Fault}

theorem commit_ne_fault {shift : Int} {edit : Edit} :
    commit location shift s edit ≠ (.error (.fault fault), s') := by
  intro h
  rw [commit] at h
  split at h
  · rename_i hwrite
    obtain rfl := Except.error.inj (Prod.mk.inj h).1
    exact Session.write_ne_fault hwrite
  · cases h

/-! ## The step that fails -/

/-- **A location with a fault leaves no trace but in the log.** -/
theorem replaceAt_eq_fault (h : e.replaceAt location index s = (.error (.fault fault), s')) :
    ∃ log, s' = { s with log } := by
  obtain ⟨log, ⟨-, hstep⟩ | ⟨-, failure, hstep, -⟩ | ⟨-, code, edit, -, -, hstep⟩⟩ :=
    e.replaceAt_cases location index s
  · exact nomatch (Prod.mk.inj (h.symm.trans hstep)).1
  · exact ⟨log, (Prod.mk.inj (h.symm.trans hstep)).2⟩
  · exact absurd (hstep.symm.trans h) commit_ne_fault

/-- A location that succeeds hands its record, if any, to the rest of the run. -/
theorem runFrom_cons {done : List Record} {record? : Option Record} {t : Session}
    (h : e.replaceAt location done.length s = (.ok record?, t)) (rest : List Location) :
    e.runFrom done (location :: rest) s = e.runFrom (record?.toList ++ done) rest t := by
  rw [runFrom, h]
  cases record? <;> rfl

/-- **Where a run fails**: the locations before make a run that succeeds, and the session it leaves,
but for its last words, is the one in which the next location fails. -/
theorem exists_prefix_of_runFrom {failure : Failure} : ∀ (locations : List Location)
    (done : List Record) (s : Session), e.runFrom done locations s = (.error failure, s') →
      ∃ j location records t, locations[j]? = some location
        ∧ e.runFrom done (locations.take j) s = (.ok records, t.note (.finished records.length))
        ∧ e.replaceAt location records.length t = (.error failure, s')
  | [], _, _, h => nomatch (Prod.mk.inj h).1
  | location :: rest, done, s, h => by
      rcases hstep : e.replaceAt location done.length s with ⟨failure' | record?, t⟩
      · rw [runFrom, hstep] at h
        obtain ⟨hfailure, rfl⟩ := Prod.mk.inj h
        obtain rfl := Except.error.inj hfailure
        refine ⟨0, location, done.reverse, s, rfl, ?_, ?_⟩
        · rw [List.take_zero, runFrom, List.length_reverse]
        · rw [List.length_reverse, hstep]
      · rw [runFrom_cons hstep] at h
        obtain ⟨j, failing, records, t', hj, hrun, hfail⟩ :=
          exists_prefix_of_runFrom rest (record?.toList ++ done) t h
        refine ⟨j + 1, failing, records, t', hj, ?_, hfail⟩
        rw [List.take_succ_cons, runFrom_cons hstep]
        exact hrun

/-! ## The run as a whole -/

/-- **A run that ends with a fault has done what the locations before it ask for**, and nothing
else: there is a first location that fails, a run over those before it succeeds, and it leaves the
same disk, the same store with its overlay, backups and changed paths, and the same shifts. -/
theorem run_aborts_after_prefix {locations : List Location}
    (h : e.run locations s = (.error (.fault fault), s')) :
    ∃ j location records t, (Location.sort locations)[j]? = some location
      ∧ e.run ((Location.sort locations).take j) s
        = (.ok records, t.note (.finished records.length))
      ∧ e.replaceAt location records.length t = (.error (.fault fault), s')
      ∧ s'.disk = t.disk ∧ s'.store = t.store ∧ s'.shifts = t.shifts := by
  obtain ⟨j, location, records, t, hj, hrun, hfail⟩ := exists_prefix_of_runFrom _ [] s h
  obtain ⟨log, rfl⟩ := replaceAt_eq_fault hfail
  refine ⟨j, location, records, t, hj, ?_, hfail, rfl, rfl, rfl⟩
  rw [run, Location.sort_take_sort]
  exact hrun

/-- The second call of a file has too few arguments for its diagnostic: the first one stays
replaced, behind a backup of the file as it was. -/
theorem run_aborts_after_prefix_few_arguments :
    let P : Policy := .diagnostic ⟨['E'], 0, ['g'], [], 1⟩
    let e : Editor := ⟨['f'], P.apply, [".h".toList]⟩
    let path : Text := "a.c".toList
    let code : Text := "f(a, b);\nf(c);\n".toList
    let s : Session :=
      { disk := ⟨[([path], .file (Utf8.encode code))], []⟩, store := { mode := .inPlace true } }
    let fault : Fault := .call (.fewArguments path 2 ['f'] 1 1) none none
    (e.run [⟨path, 2⟩, ⟨path, 1⟩] s).1 = .error (.fault fault)
      ∧ ∃ (j : Nat) (location : Location) (records : List Record) (t : Session),
        (Location.sort [⟨path, 2⟩, ⟨path, 1⟩])[j]? = some location
        ∧ e.run ((Location.sort [⟨path, 2⟩, ⟨path, 1⟩]).take j) s
          = (.ok records, t.note (.finished records.length))
        ∧ t.disk.entries
          = [([path], .file (Utf8.encode "f(E + 0, b);\ng(b);\nf(c);\n".toList)),
              (["a.c.bak".toList], .file (Utf8.encode code))]
        ∧ t.store.backedUp = [path] ∧ t.shifts = [(path, 1)] := by
  intro P e path code s fault
  have hfault : (e.run [⟨path, 2⟩, ⟨path, 1⟩] s).1 = .error (.fault fault) := by
    dsimp only [e, P, s, path, code, fault]
    cbv
  have hleft : (e.run [⟨path, 2⟩, ⟨path, 1⟩] s).2.disk.entries
      = [([path], .file (Utf8.encode "f(E + 0, b);\ng(b);\nf(c);\n".toList)),
          (["a.c.bak".toList], .file (Utf8.encode code))]
      ∧ (e.run [⟨path, 2⟩, ⟨path, 1⟩] s).2.store.backedUp = [path]
      ∧ (e.run [⟨path, 2⟩, ⟨path, 1⟩] s).2.shifts = [(path, 1)] := by
    dsimp only [e, P, s, path, code]
    refine ⟨?_, ?_, ?_⟩ <;> cbv
  obtain ⟨j, location, records, t, hj, hrun, -, hdisk, hstore, hshifts⟩ :=
    run_aborts_after_prefix (Prod.ext hfault rfl)
  rw [hdisk, hstore, hshifts] at hleft
  exact ⟨hfault, j, location, records, t, hj, hrun, hleft⟩

end Editor

end CallEdits
