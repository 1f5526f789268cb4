import CallEdits.Proofs.AbortedRuns
import Mathlib

/-!
# Proofs/NamedSites — the place that a fault names

    stage of a location         path      line
    no such line in the file    path      line + shift
    no call from the line on    path      line
    call not closed             path      line
    refused by the policy       none      none

A location that fails with a fault fails before its file is written, so the fault comes from the
edit of the loaded text (`edit_of_replaceAt_fault`).  At two of its four stages the fault carries
the location as the report gives it, whatever the lines were shifted by.  A line that the file does
not have is counted in the file as it is now; and a policy gives the place in its words, from where
nothing carries it over.
-/

namespace CallEdits

namespace Fault

/-! ## What a fault carries -/

/-- The path that a fault is about. -/
def path? : Fault → Option Text
  | call _ path _ => path
  | notFound path .. => path
  | overflow path .. => path
  | _ => none

/-- The line that a fault is about. -/
def line? : Fault → Option Int
  | call _ _ line => line
  | notFound _ line .. => line
  | overflow _ line _ => line
  | _ => none

/-- **A fault names a location**: it carries the path and the line. -/
def Names (fault : Fault) (location : Location) : Prop :=
  fault.path? = some location.path ∧ fault.line? = some location.line

/-- Is the file too short? -/
def isOverflow : Fault → Bool
  | overflow .. => true
  | _ => false

/-- Has the call too few arguments for the policy? -/
def lacksArguments : Fault → Bool
  | call (.fewArguments ..) .. => true
  | _ => false

end Fault

/-! ## Where faults come from -/

/-- The words in which a policy refuses a call begin with the location. -/
theorem Fault.message_fewArguments (location : Location) (function : Text) (count : Nat)
    (bound : Int) :
    (call (.fewArguments location.path location.line function count bound) none none).message
      = location.render ++ ": ".toList ++ function ++ "() has ".toList ++ Numeral.ofNat count
        ++ " argument(s), expected more than ".toList ++ Numeral.ofInt bound := rfl

theorem Session.load_ne_fault {s : Session} {path : Text} {fault : Fault} :
    (s.load path).1 ≠ .error (.fault fault) := by
  rw [load]
  split
  · exact Disk.readText_ne_fault
  split
  · intro h
    cases h
  · exact Disk.readText_ne_fault

namespace Editor

variable {e : Editor} {P : Policy} {location : Location} {index : Int} {s : Session} {fault : Fault}

/-- **A fault comes from the edit of the loaded text.** -/
theorem edit_of_replaceAt_fault (h : (e.replaceAt location index s).1 = .error (.fault fault)) :
    ∃ code, (s.load location.path).1 = .ok code
      ∧ e.edit location (location.line + s.shift location.path) index code
        = .error (.fault fault) := by
  obtain ⟨log, ⟨-, hstep⟩ | ⟨-, failure, hstep, hcause⟩ | ⟨-, code, edit, -, -, hstep⟩⟩ :=
    e.replaceAt_cases location index s
  · rw [hstep] at h
    cases h
  · rw [hstep] at h
    obtain rfl := Except.error.inj h
    exact hcause.resolve_left Session.load_ne_fault
  · rw [hstep] at h
    exact absurd (Prod.ext h rfl : commit _ _ _ _ = (_, _)) commit_ne_fault

/-- **What the fault of an edit carries**, for each stage at which it can arise. -/
theorem edit_eq_fault (hpolicy : e.policy = P.apply) {target : Int} {code : Text}
    (h : e.edit location target index code = .error (.fault fault)) :
    (∃ count, fault = .overflow (some location.path) (some target) (some count))
      ∨ (fault.Names location ∧ fault.isOverflow = false ∧ fault.lacksArguments = false)
      ∨ ∃ function count bound, fault
        = .call (.fewArguments location.path location.line function count bound) none none := by
  rcases edit_eq_error h with ⟨-, hfault⟩ | hfault | ⟨_, _, flaw, -, -, hfault⟩
    | ⟨site, hpath, hline, -, hrefused⟩
  · obtain ⟨-, rfl⟩ := Failure.ofFault_eq_fault_iff.mp hfault.symm
    exact .inl ⟨_, rfl⟩
  · obtain ⟨-, rfl⟩ := Failure.ofFault_eq_fault_iff.mp hfault.symm
    exact .inr (.inl ⟨⟨rfl, rfl⟩, rfl, rfl⟩)
  · obtain ⟨-, rfl⟩ := Failure.ofFault_eq_fault_iff.mp hfault.symm
    exact .inr (.inl ⟨⟨rfl, rfl⟩, rfl, rfl⟩)
  · rw [hpolicy] at hrefused
    obtain ⟨count, bound, hfault⟩ | hnumeral := Policy.apply_eq_error hrefused
    · obtain ⟨-, rfl⟩ := Failure.ofFault_eq_fault_iff.mp hfault.symm
      exact .inr (.inr ⟨site.function, count, bound, by rw [hpath, hline]⟩)
    · cases hnumeral

/-- **A fault that a step ends with can be stated**: its message has no number with too many
digits. -/
theorem isWritable_of_replaceAt_fault (hpolicy : e.policy = P.apply)
    (h : (e.replaceAt location index s).1 = .error (.fault fault)) : fault.isWritable = true := by
  obtain ⟨code, -, hedit⟩ := edit_of_replaceAt_fault h
  obtain ⟨raised, hraised⟩ | hnumeral := exists_fault_of_edit hpolicy hedit
  · obtain ⟨hwritable, rfl⟩ := Failure.ofFault_eq_fault_iff.mp hraised.symm
    exact hwritable
  · cases hnumeral

/-- **Which faults name the location that the report gives**: all but two.  One is the fault of a
line that the file does not have, once earlier replacements have shifted its lines: it carries the
shifted line.  The other is the fault of a call with too few arguments for the policy: it carries
neither path nor line, and only its message begins with them. -/
theorem fault_names_location_iff (hpolicy : e.policy = P.apply)
    (h : (e.replaceAt location index s).1 = .error (.fault fault)) :
    (fault.Names location
        ↔ (fault.isOverflow = true → s.shift location.path = 0) ∧ fault.lacksArguments = false)
      ∧ (fault.isOverflow = true → fault.path? = some location.path
          ∧ fault.line? = some (location.line + s.shift location.path))
      ∧ (fault.lacksArguments = true → fault.path? = none ∧ fault.line? = none
          ∧ location.render ++ ": ".toList <+: fault.message) := by
  obtain ⟨code, -, hedit⟩ := edit_of_replaceAt_fault h
  rcases edit_eq_fault hpolicy hedit with
    ⟨count, rfl⟩ | ⟨hnames, hoverflow, hlacks⟩ | ⟨function, count, bound, rfl⟩
  · refine ⟨?_, fun _ => ⟨rfl, rfl⟩, nofun⟩
    simp [Fault.Names, Fault.path?, Fault.line?, Fault.isOverflow, Fault.lacksArguments]
  · simp [hnames, hoverflow, hlacks]
  · refine ⟨?_, nofun, fun _ => ⟨rfl, rfl, ?_⟩⟩
    · simp [Fault.Names, Fault.path?, Fault.lacksArguments]
    · rw [Fault.message_fewArguments]
      simp only [List.append_assoc, List.prefix_append_right_inj, List.prefix_append]

/-- A call on two lines is put on one, and the file does not have the fifth line that the report
names next: the fault is about the fourth.  A call with two arguments is refused by the diagnostic
policy, with a fault that is about no place at all. -/
theorem fault_names_location_iff_shifted :
    let path : Text := "a.c".toList
    let disk : Disk := ⟨[([path], .file (Utf8.encode "f(a,\n  b);\n".toList))], []⟩
    let leading : Policy := .leading {}
    let diagnostic : Policy := .diagnostic {}
    let s : Session := (replaceAt ⟨['f'], leading.apply, []⟩ ⟨path, 1⟩ 0 ⟨disk, {}, [], []⟩).2
    s.shift path = -1
      ∧ (∃ fault, (replaceAt ⟨['f'], leading.apply, []⟩ ⟨path, 5⟩ 1 s).1 = .error (.fault fault)
        ∧ fault.line? = some 4 ∧ ¬ fault.Names ⟨path, 5⟩)
      ∧ ∃ fault, (replaceAt ⟨['f'], diagnostic.apply, []⟩ ⟨path, 1⟩ 0 ⟨disk, {}, [], []⟩).1
          = .error (.fault fault)
        ∧ fault.path? = none ∧ fault.line? = none ∧ ¬ fault.Names ⟨path, 1⟩ := by
  intro path disk leading diagnostic s
  have hshift : s.shift path = -1 := by
    dsimp only [s, leading, disk, path]
    cbv
  have hoverflow : (replaceAt ⟨['f'], leading.apply, []⟩ ⟨path, 5⟩ 1 s).1
      = .error (.fault (.overflow (some path) (some 4) (some 1))) := by
    dsimp only [s, leading, disk, path]
    cbv
  have hrefused : (replaceAt ⟨['f'], diagnostic.apply, []⟩ ⟨path, 1⟩ 0 ⟨disk, {}, [], []⟩).1
      = .error (.fault (.call (.fewArguments path 1 ['f'] 2 3) none none)) := by
    dsimp only [diagnostic, disk, path]
    cbv
  obtain ⟨hnames, hline, -⟩ := fault_names_location_iff (P := leading) rfl hoverflow
  obtain ⟨hnames', -, hplace⟩ := fault_names_location_iff (P := diagnostic) rfl hrefused
  refine ⟨hshift, ⟨_, hoverflow, ?_, fun h => ?_⟩, _, hrefused, (hplace rfl).1, (hplace rfl).2.1,
    fun h => ?_⟩
  · rw [(hline rfl).2, hshift]
    rfl
  · exact absurd ((hnames.mp h).1 rfl) (by rw [hshift]; decide)
  · exact absurd (hnames'.mp h).2 (by decide)

end Editor

end CallEdits
