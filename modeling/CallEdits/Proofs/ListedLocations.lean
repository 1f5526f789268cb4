import CallEdits.Proofs.ComposedRuns
import CallEdits.Proofs.OwnText
import CallEdits.Proofs.ReportLines
import CallEdits.Proofs.RewrittenCalls
import Mathlib

/-!
# Proofs/ListedLocations — what a run takes from its list of locations

    given      b.c:2   a.h:7   a.c:9   a.c:1
    sorted     a.c:1   a.c:9   a.h:7   b.c:2
    handled    a.c:1   a.c:9           b.c:2
    numbered     0       1               2

A run sorts its locations, so nothing is left of the order in which they were given.  It then passes
declaration files over.  A location there leaves a line in the log and nothing else, and the rank of
a call counts the calls before it and not the locations; so the run is the one over the other
locations (`runFrom_handled`), and the numbers of its calls follow each other without gaps
(`exists_replaceAt_of_getElem?_steps`).
-/

namespace CallEdits

/-! ## Numbers and identifiers -/

namespace Numeral

theorem ofNat_injective : Function.Injective ofNat :=
  Function.LeftInverse.injective valueFrom_ofNat

/-- **Different numbers are written differently.** -/
theorem ofInt_injective : Function.Injective ofInt := by
  have hsign : ∀ m n, ofNat m ≠ '-' :: ofNat n := fun m n h =>
    absurd (isDigit_of_mem_ofNat (h ▸ List.mem_cons_self : '-' ∈ ofNat m)) (by decide)
  intro i j h
  match i, j with
  | .ofNat m, .ofNat n => exact congrArg Int.ofNat (ofNat_injective h)
  | .ofNat m, .negSucc n => exact absurd h (hsign m (n + 1))
  | .negSucc m, .ofNat n => exact absurd h.symm (hsign n (m + 1))
  | .negSucc m, .negSucc n =>
    exact congrArg Int.negSucc (Nat.succ.inj (ofNat_injective (List.cons.inj h).2))

end Numeral

namespace Policy

/-- **The identifier of a call**: the first argument that the policy generates for the call before
which `rank` others were replaced. -/
def identifier (P : Policy) (rank : Nat) : Text := P.generated (Numeral.ofInt (P.idStart + rank))

/-- **Different calls get different identifiers.** -/
theorem identifier_injective (P : Policy) : Function.Injective P.identifier := by
  intro j k h
  have hnumber : Numeral.ofInt (P.idStart + j) = Numeral.ofInt (P.idStart + k) := by
    cases P with
    | diagnostic p => exact List.append_cancel_left h
    | leading p => exact List.append_cancel_left h
  exact Int.ofNat.inj (Int.add_left_cancel (Numeral.ofInt_injective hnumber))

end Policy

namespace Editor

open Session

variable {e : Editor} {P : Policy} {location : Location} {s s' t : Session} {record : Record}

/-! ## Locations that are passed over -/

/-- **The locations that a run handles**: those outside declaration files. -/
def handled (e : Editor) (locations : List Location) : List Location :=
  locations.filter fun location => !e.isDeclaration location.path

theorem handled_cons_of_isDeclaration (h : e.isDeclaration location.path = true)
    (rest : List Location) : e.handled (location :: rest) = e.handled rest :=
  List.filter_cons_of_neg (by simp [h])

theorem handled_cons (h : e.isDeclaration location.path = false) (rest : List Location) :
    e.handled (location :: rest) = location :: e.handled rest :=
  List.filter_cons_of_pos (by simp [h])

/-- **Passing declaration files over comes to leaving them out**: the result, the disk, the store
and the shifts are the same. -/
theorem runFrom_handled (e : Editor) : ∀ (locations : List Location) (done : List Record)
    (s t : Session), s.SameState t →
      Parallel (e.runFrom done locations s) (e.runFrom done (e.handled locations) t)
  | [], _, _, _, h => ⟨rfl, h.log ..⟩
  | location :: rest, done, s, t, h => by
      by_cases hdecl : e.isDeclaration location.path = true
      · rw [handled_cons_of_isDeclaration hdecl, runFrom, replaceAt, if_pos hdecl]
        exact runFrom_handled e rest done _ t (h.log ..)
      · rw [handled_cons (Bool.eq_false_iff.mpr hdecl), runFrom, runFrom]
        obtain ⟨hresult, hafter⟩ := replaceAt_sameState h e location done.length
        rcases hs : e.replaceAt location done.length s with ⟨result, s'⟩
        rcases ht : e.replaceAt location done.length t with ⟨result', t'⟩
        rw [hs, ht] at hresult hafter
        obtain rfl : result = result' := hresult
        rcases result with failure | (_ | record)
        · exact ⟨rfl, hafter⟩
        · exact runFrom_handled e rest done s' t' hafter
        · exact runFrom_handled e rest (record :: done) s' t' hafter

/-! ## Locations that are handled -/

/-- **A location that succeeds has a record unless it is passed over.** -/
theorem isDeclaration_of_replaceAt {index : Int} {record? : Option Record}
    (h : e.replaceAt location index s = (.ok record?, s')) :
    e.isDeclaration location.path = record?.isNone := by
  by_cases hdecl : e.isDeclaration location.path = true
  · rw [replaceAt, if_pos hdecl] at h
    obtain rfl := Except.ok.inj (Prod.mk.inj h).1
    exact hdecl
  · obtain ⟨htrue, -⟩ | ⟨_, edit, rfl, -⟩ := replaceAt_eq_ok h
    · exact absurd htrue hdecl
    · exact Bool.eq_false_iff.mpr hdecl

/-- A record names the location at which it was made. -/
theorem location_of_replaceAt {index : Int}
    (h : e.replaceAt location index s = (.ok (some record), s')) : record.location = location := by
  obtain ⟨-, hnone⟩ | ⟨code, edit, hrecord, -, hedit, -⟩ := replaceAt_eq_ok h
  · exact nomatch hnone
  · obtain ⟨-, -, g, replacement, -, -, rfl⟩ := edit_eq_ok_iff.mp hedit
    obtain rfl := Option.some.inj hrecord
    rfl

/-- **What is written for a call is numbered by its rank**: it begins with a call whose first
argument is the identifier. -/
theorem exists_identifier_of_replaceAt (hpolicy : e.policy = P.apply) {rank : Nat}
    (h : e.replaceAt location rank s = (.ok (some record), s')) :
    ∃ arguments tail, record.replacement
      = Policy.application (P.calledName e.function) (P.identifier rank :: arguments) ++ tail := by
  obtain ⟨text, g, -, -, -, happly, -⟩ := exists_region?_of_replaceAt h
  rw [hpolicy] at happly
  obtain ⟨number, tail, hnumber, heq, -⟩ := Policy.exists_application_of_apply happly
  obtain rfl := Numeral.eq_ofInt_of_write hnumber
  exact ⟨_, tail, heq⟩

/-- **A run that succeeds makes a record at each location that it handles**, in their order. -/
theorem map_location_of_runFrom {records : List Record} : ∀ (locations : List Location)
    (done : List Record) (s : Session), e.runFrom done locations s = (.ok records, s') →
      (e.steps done.length locations s).map (fun step => step.record.location)
        = e.handled locations
  | [], _, _, _ => rfl
  | location :: rest, done, s, h => by
      rw [runFrom] at h
      rw [steps]
      rcases hstep : e.replaceAt location done.length s with ⟨failure | (_ | record), t⟩
      · rw [hstep] at h
        cases (Prod.mk.inj h).1
      · rw [hstep] at h
        rw [handled_cons_of_isDeclaration (isDeclaration_of_replaceAt hstep)]
        exact map_location_of_runFrom rest done t h
      · rw [hstep] at h
        rw [handled_cons (isDeclaration_of_replaceAt hstep), List.map_cons,
          location_of_replaceAt hstep]
        exact congrArg (location :: ·) (map_location_of_runFrom rest (record :: done) t h)

/-- **The ranks of the steps of a run have no gaps.** -/
theorem exists_replaceAt_of_getElem?_steps {step : Step} : ∀ (locations : List Location)
    (index : Nat) (s : Session) (k : Nat), (e.steps index locations s)[k]? = some step →
      ∃ location, e.replaceAt location (index + k : Nat) step.before
        = (.ok (some step.record), step.after)
  | [], _, _, _, h => by cases h
  | location :: rest, index, s, k, h => by
      rw [steps] at h
      rcases hstep : e.replaceAt location index s with ⟨failure | (_ | record), t⟩
      · rw [hstep] at h
        cases h
      · rw [hstep] at h
        exact exists_replaceAt_of_getElem?_steps rest index t k h
      · rw [hstep] at h
        cases k with
        | zero =>
          obtain rfl := Option.some.inj h
          exact ⟨location, hstep⟩
        | succ k =>
          rw [Nat.add_comm k 1, ← Nat.add_assoc]
          exact exists_replaceAt_of_getElem?_steps rest (index + 1) t k h

/-! ## The run as a whole -/

/-- **Declaration files leave no trace, and the numbers of calls have no gaps.**  A run has the
result, the disk, the store and the shifts of the run over the locations that it handles.  If it
succeeds, it has one record for each of these, in the order of locations; what was written for the
`k`-th of them, counted from zero, begins with a call whose first argument is numbered by `k`; and
no two of these arguments are the same. -/
theorem run_numbers_handled_calls (hpolicy : e.policy = P.apply) (locations : List Location)
    (s : Session) :
    ((e.run locations s).1 = (e.run (e.handled locations) s).1
        ∧ (e.run locations s).2.SameState (e.run (e.handled locations) s).2)
      ∧ ∀ records t, e.run locations s = (.ok records, t) →
        records.map Record.location = Location.sort (e.handled locations)
          ∧ (∀ k record, records[k]? = some record → ∃ arguments tail,
              record.replacement = Policy.application (P.calledName e.function)
                (P.identifier k :: arguments) ++ tail)
          ∧ ((List.range records.length).map P.identifier).Nodup := by
  have hsort : Location.sort (e.handled locations) = e.handled (Location.sort locations) :=
    Location.sort_filter _ locations
  refine ⟨?_, fun records t hrun => ⟨?_, fun k record hrecord => ?_, ?_⟩⟩
  · rw [run, run, hsort]
    exact runFrom_handled e _ [] s s (.refl s)
  · rw [hsort, ← map_location_of_runFrom _ [] s hrun, records_of_runFrom _ [] s hrun,
      List.reverse_nil, List.nil_append, List.map_map]
    rfl
  · rw [records_of_runFrom _ [] s hrun, List.reverse_nil, List.nil_append, List.getElem?_map]
      at hrecord
    obtain ⟨step, hstep, rfl⟩ := Option.map_eq_some_iff.mp hrecord
    obtain ⟨location, hreplace⟩ := exists_replaceAt_of_getElem?_steps _ _ s k hstep
    rw [List.length_nil, Nat.zero_add] at hreplace
    exact exists_identifier_of_replaceAt hpolicy hreplace
  · exact List.nodup_range.map P.identifier_injective

/-- A header that does not exist is listed between two files: the call behind it gets the number
after that of the call before it. -/
theorem run_numbers_handled_calls_around_header :
    let P : Policy := .leading {}
    let e : Editor := ⟨['f'], P.apply, [".h".toList]⟩
    let locations : List Location := [⟨"b.c".toList, 1⟩, ⟨"a.h".toList, 7⟩, ⟨"a.c".toList, 1⟩]
    let s : Session :=
      { disk := ⟨[(["a.c".toList], .file (Utf8.encode "f(x);\n".toList)),
          (["b.c".toList], .file (Utf8.encode "f(y);\n".toList))], []⟩, store := {} }
    e.handled locations = [⟨"b.c".toList, 1⟩, ⟨"a.c".toList, 1⟩]
      ∧ (e.run [⟨"b.c".toList, 1⟩, ⟨"a.c".toList, 1⟩] s).1
        = .ok [⟨⟨"a.c".toList, 1⟩, 1, "f(ERR_0, x)".toList, 0⟩,
            ⟨⟨"b.c".toList, 1⟩, 1, "f(ERR_1, y)".toList, 0⟩]
      ∧ ∃ arguments tail, "f(ERR_1, y)".toList
        = Policy.application (P.calledName ['f']) (P.identifier 1 :: arguments) ++ tail := by
  intro P e locations s
  have hhandled : e.handled locations = [⟨"b.c".toList, 1⟩, ⟨"a.c".toList, 1⟩] := by
    dsimp only [e, locations]
    cbv
  have hrun : (e.run locations s).1
      = .ok [⟨⟨"a.c".toList, 1⟩, 1, "f(ERR_0, x)".toList, 0⟩,
          ⟨⟨"b.c".toList, 1⟩, 1, "f(ERR_1, y)".toList, 0⟩] := by
    dsimp only [e, P, s, locations]
    cbv
  obtain ⟨⟨hresult, -⟩, hrecords⟩ := run_numbers_handled_calls (P := P) (e := e) rfl locations s
  rw [hhandled] at hresult
  obtain ⟨-, hnumbered, -⟩ := hrecords _ _ (Prod.ext hrun rfl)
  exact ⟨hhandled, hresult.symm.trans hrun, hnumbered 1 _ rfl⟩

/-- **The order in which locations are given does not matter**: lists with the same locations, each
as often, make the same run, with the same result and the same session at its end.  And the sites of
a report are given in the order in which they are handled. -/
theorem run_forgets_given_order (e : Editor) (s : Session) :
    (∀ given given' : List Location, given.Perm given' → e.run given s = e.run given' s)
      ∧ ∀ separator layout text found, Report.parse separator layout text = .ok found →
        Location.sort found = found := by
  refine ⟨fun given given' hperm => ?_, fun separator layout text found hparse => ?_⟩
  · rw [run, run, Location.sort_congr hperm]
  · obtain ⟨nodes, listed, -, -, rfl⟩ := Report.exists_outline_of_parse hparse
    exact Location.sort_sort listed

/-- A list with a call twice, turned around: both runs replace it once more in its own replacement.
And a report that lists the lines of a file downwards. -/
theorem run_forgets_given_order_repeated :
    let e : Editor := ⟨['f'], Policy.apply (.leading {}), [".h".toList]⟩
    let path : Text := "a.c".toList
    let s : Session :=
      { disk := ⟨[([path], .file (Utf8.encode "f(x);\nf(y);\n".toList))], []⟩, store := {} }
    let report : Text :=
      " a.c  (2 usages found)\n  g  (2 usages found)\n   12 f(y);\n   7 f(x);\n".toList
    e.run [⟨path, 2⟩, ⟨path, 1⟩, ⟨path, 1⟩] s = e.run [⟨path, 1⟩, ⟨path, 1⟩, ⟨path, 2⟩] s
      ∧ (e.run [⟨path, 2⟩, ⟨path, 1⟩, ⟨path, 1⟩] s).2.disk.entries
        = [([path], .file (Utf8.encode "f(ERR_1, ERR_0, x);\nf(ERR_2, y);\n".toList))]
      ∧ Report.parse ['/'] ⟨1, 0⟩ report = .ok [⟨path, 7⟩, ⟨path, 12⟩]
      ∧ Location.sort [⟨path, 7⟩, ⟨path, 12⟩] = [⟨path, 7⟩, ⟨path, 12⟩] := by
  intro e path s report
  have hperm : [Location.mk path 2, ⟨path, 1⟩, ⟨path, 1⟩].Perm
      [⟨path, 1⟩, ⟨path, 1⟩, ⟨path, 2⟩] := by decide
  have hdisk : (e.run [⟨path, 2⟩, ⟨path, 1⟩, ⟨path, 1⟩] s).2.disk.entries
      = [([path], .file (Utf8.encode "f(ERR_1, ERR_0, x);\nf(ERR_2, y);\n".toList))] := by
    dsimp only [e, s, path]
    cbv
  have hnodes : Report.outline ⟨1, 0⟩ report
      = .ok [⟨1, 1, .heading path⟩, ⟨2, 2, .heading ['g']⟩, ⟨3, 3, .call 12⟩, ⟨3, 4, .call 7⟩] := by
    decide +kernel
  have hparse : Report.parse ['/'] ⟨1, 0⟩ report = .ok [⟨path, 7⟩, ⟨path, 12⟩] := by
    rw [Report.parse_eq_map hnodes]
    dsimp only [path]
    cbv
  obtain ⟨hsame, hsites⟩ := run_forgets_given_order e s
  exact ⟨hsame _ _ hperm, hdisk, hparse, hsites _ _ _ _ hparse⟩

end Editor

end CallEdits
