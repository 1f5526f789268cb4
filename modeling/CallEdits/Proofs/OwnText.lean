import CallEdits.Proofs.Patches
import CallEdits.Proofs.Replacements
import CallEdits.Proofs.RunSteps
import Mathlib

/-!
# Proofs/OwnText — when a run meets its own text

    before   f(a,              after the first step   f(ERR_0, a, b); f(c);
               b); f(c);                              ▴ the search for the second call starts here

A report lists calls by the lines on which they start.  Where a call ends on the line of the next
one, the replacement may pull that line up, and the search for the next call starts in front of what
the run has just written: it finds the replacement instead of the call.

The module says exactly when this happens.  Every step stays behind the replacement of the step
before it if and only if `Clear` holds of the listed calls and their replacements: every call ends
before the next listed line starts, or else no call stands in the last line of what has been
written.  The induction goes over the listed calls and carries `Exchanged` along as long as their
lines are clear (`Lists.exists_exchanged`); the first line that is not clear settles both sides
(`Lists.not_startsAt`).
-/

namespace CallEdits

open Call Source

/-- **The listed lines are clear of calls that the run has written**, from where the text is `done`
up to `stop` of the original. -/
def Clear (name code done : Text) (stop : Nat) : List Patch → Prop
  | [] => True
  | q :: rest =>
    (EndsBefore code stop q.line ∨ find name done.lastLine = none)
      ∧ Clear name code (q.append code done stop) q.region.stop rest

/-- The patch that a record is, of a listed call. -/
def Patch.ofRecord (call : Int × Region) (record : Record) : Patch :=
  ⟨call.1, call.2, record.replacement⟩

namespace Editor

/-- **A call that is listed by its line**: the first call from the line on starts on it. -/
structure Lists (e : Editor) (code : Text) (call : Int × Region) : Prop where
  region_eq : region? e.function code call.1 = some call.2
  on_line : (Text.breaks (code.take call.2.start) : Int) + 1 = call.1

/-- The call that a step replaces, in the text before the step. -/
def Step.region? (e : Editor) (step : Step) : Option Region :=
  match (step.before.load step.record.location.path).1 with
  | .error _ => none
  | .ok text => Call.region? e.function text step.record.resolvedLine

/-- The call of a step starts at or after a position. -/
def Step.StartsAt (e : Editor) (n : Nat) (step : Step) : Prop :=
  ∃ g, step.region? e = some g ∧ n ≤ g.start

/-- **A step stays behind the step before it**: its call starts at or after the end of the
replacement that was written there. -/
def Step.StaysBehind (e : Editor) (a b : Step) : Prop :=
  ∃ g h, a.region? e = some g ∧ b.region? e = some h
    ∧ g.start + a.record.replacement.length ≤ h.start

variable {e : Editor} {P : Policy} {path code done text : Text} {stop : Nat} {s s' : Session}
  {index : Nat} {record : Record} {call : Int × Region}

/-! ## One step -/

/-- A step replaces a call, and leaves the text with the replacement. -/
theorem exists_region?_of_replaceAt {location : Location} {index : Int}
    (h : e.replaceAt location index s = (.ok (some record), s')) :
    ∃ text g, (s.load location.path).1 = .ok text
      ∧ Call.region? e.function text (location.line + s.shift location.path) = some g
      ∧ Step.region? e ⟨s, record, s'⟩ = some g
      ∧ e.policy (e.siteAt location (location.line + s.shift location.path) index text g)
        = .ok record.replacement
      ∧ (s'.load location.path).1 = .ok (g.replace text record.replacement)
      ∧ s'.shift location.path = s.shift location.path
        + ((record.replacement.breaks : Int) + e.function.breaks - (g.text text).breaks) := by
  obtain ⟨-, hnone⟩ | ⟨text, edit, hrecord, hload, hedit, hafter, hshift⟩ := replaceAt_eq_ok h
  · exact nomatch hnone
  · obtain ⟨-, -, g, replacement, hg, hpolicy, rfl⟩ := edit_eq_ok_iff.mp hedit
    obtain rfl := Option.some.inj hrecord
    refine ⟨text, g, hload, hg, ?_, hpolicy, hafter, hshift⟩
    simp only [Step.region?, replaced, hload, hg]

/-- Every step of a run replaces a call. -/
theorem exists_region?_of_mem_steps {locations : List Location} {step : Step}
    (h : step ∈ e.steps index locations s) : ∃ g, step.region? e = some g := by
  obtain ⟨-, location, i, hstep⟩ :=
    exists_of_mem_steps (P := fun _ => True) (fun _ _ _ _ => trivial) locations index s trivial h
  obtain ⟨-, g, -, -, hg, -⟩ := exists_region?_of_replaceAt hstep
  exact ⟨g, hg⟩

namespace Lists

variable {shift : Int}

theorem line_pos (h : e.Lists code call) : 1 ≤ call.1 := by
  have := h.on_line
  omega

theorem exists_lineStart? (h : e.Lists code call) :
    ∃ start, lineStart? code call.1 = some start := by
  obtain ⟨start, hstart, -⟩ := Option.bind_eq_some_iff.mp h.region_eq
  exact ⟨start, hstart⟩

/-- **A listed call is found where it has moved to**, if its line is clear. -/
theorem region?_move (h : e.Lists code call) (hname : ')' ∉ e.function)
    (hexchanged : Exchanged code done stop text shift) (hle : stop ≤ call.2.start)
    (hclear : EndsBefore code stop call.1 ∨ find e.function done.lastLine = none) :
    Call.region? e.function text (call.1 + shift) = some (call.2.move done stop) := by
  obtain ⟨start, hstart⟩ := h.exists_lineStart?
  by_cases hstop : stop ≤ start
  · exact (hexchanged.region?_apart h.line_pos h.region_eq hstart hstop).2.2
  · have hnone : find e.function done.lastLine = none := by
      refine hclear.resolve_left ?_
      rintro ⟨start', hstart', hstop'⟩
      obtain rfl := Option.some.inj (hstart.symm.trans hstart')
      exact hstop hstop'
    exact hexchanged.region?_tight hname h.region_eq h.on_line hstart (Nat.not_le.mp hstop) hle
      hnone

/-- **Else a call is found that the run has written**, before the end of what is done. -/
theorem start_lt (h : e.Lists code call) (hname : ')' ∉ e.function)
    (hexchanged : Exchanged code done stop text shift) (hle : stop ≤ call.2.start)
    (hcovered : ¬ (EndsBefore code stop call.1 ∨ find e.function done.lastLine = none))
    {g : Region} (hg : Call.region? e.function text (call.1 + shift) = some g) :
    g.start < done.length := by
  obtain ⟨hends, hfind⟩ := not_or.mp hcovered
  obtain ⟨start, hstart⟩ := h.exists_lineStart?
  obtain ⟨found, hfound⟩ := Option.ne_none_iff_exists'.mp hfind
  have hstop : start < stop := Nat.not_le.mp fun hle' => hends ⟨start, hstart, hle'⟩
  exact hexchanged.region?_covered hname h.region_eq h.on_line hstart hstop hle hfound hg

/-- Listed calls that do not overlap come in the order of their lines. -/
theorem stop_le_start {call' : Int × Region} (h : e.Lists code call) (h' : e.Lists code call')
    (hline : call.1 < call'.1)
    (hdisjoint : call.2.stop ≤ call'.2.start ∨ call'.2.stop ≤ call.2.start) :
    call.2.stop ≤ call'.2.start := by
  refine hdisjoint.resolve_right fun hbefore => ?_
  obtain ⟨_, _, _, hparts⟩ := exists_parts_of_region? h'.line_pos h'.region_eq
  have hstart := hparts.start_le_stop
  have hbreaks := Exchanged.breaks_take (Nat.le_trans hstart hbefore) code
  have hon := h.on_line
  have hon' := h'.on_line
  omega

end Lists

/-! ## A listed call and its step -/

variable {t : Session} {i : Int}

/-- The end of a replacement is the end of what is done. -/
theorem length_append_ofRecord (hlen : call.2.start ≤ code.length) (hle : stop ≤ call.2.start) :
    ((Patch.ofRecord call record).append code done stop).length
      = (call.2.move done stop).start + record.replacement.length := by
  simp only [Patch.append, Patch.ofRecord, Region.move, List.length_append, List.length_drop,
    List.length_take]
  omega

/-- **The step of a call whose line is clear** starts behind what is done, and the text is then done
up to the end of its replacement. -/
theorem Lists.exists_exchanged (h : e.Lists code call) (hpolicy : e.policy = P.apply)
    (hname : ')' ∉ e.function) (hbreak : '\n' ∉ e.function) (hload : (s.load path).1 = .ok text)
    (hexchanged : Exchanged code done stop text (s.shift path)) (hle : stop ≤ call.2.start)
    (hclear : EndsBefore code stop call.1 ∨ find e.function done.lastLine = none)
    (hstep : e.replaceAt ⟨path, call.1⟩ i s = (.ok (some record), t)) :
    Step.region? e ⟨s, record, t⟩ = some (call.2.move done stop)
      ∧ ∃ text', (t.load path).1 = .ok text'
        ∧ Exchanged code ((Patch.ofRecord call record).append code done stop) call.2.stop text'
          (t.shift path) := by
  obtain ⟨text', g, hload', hregion, hg, happly, hafter, hshift⟩ :=
    exists_region?_of_replaceAt hstep
  obtain rfl : text' = text := Except.ok.inj (hload'.symm.trans hload)
  obtain rfl := Option.some.inj (hregion.symm.trans (h.region?_move hname hexchanged hle hclear))
  obtain ⟨_, _, _, hparts⟩ := exists_parts_of_region? h.line_pos h.region_eq
  rw [hpolicy] at happly
  have hpatch := hexchanged.patch (q := Patch.ofRecord call record) hparts hbreak hle
    (Policy.getLast?_apply happly)
  exact ⟨hg, _, hafter, hshift ▸ hpatch⟩

/-- **The step of a call whose line is not clear** starts inside what is done. -/
theorem Lists.not_startsAt (h : e.Lists code call) (hname : ')' ∉ e.function)
    (hload : (s.load path).1 = .ok text)
    (hexchanged : Exchanged code done stop text (s.shift path)) (hle : stop ≤ call.2.start)
    (hcovered : ¬ (EndsBefore code stop call.1 ∨ find e.function done.lastLine = none))
    (hstep : e.replaceAt ⟨path, call.1⟩ i s = (.ok (some record), t)) :
    ¬ Step.StartsAt e done.length ⟨s, record, t⟩ := by
  rintro ⟨g', hg', hbehind⟩
  obtain ⟨text', g, hload', hregion, hg, -⟩ := exists_region?_of_replaceAt hstep
  obtain rfl : text' = text := Except.ok.inj (hload'.symm.trans hload)
  obtain rfl := Option.some.inj (hg.symm.trans hg')
  exact absurd (h.start_lt hname hexchanged hle hcovered hregion) (Nat.not_lt.mpr hbehind)

theorem staysBehind_iff {a b : Step} {g : Region} (hg : a.region? e = some g) :
    Step.StaysBehind e a b ↔ b.StartsAt e (g.start + a.record.replacement.length) := by
  refine ⟨?_, fun ⟨h, hh, hle⟩ => ⟨g, h, hg, hh, hle⟩⟩
  rintro ⟨g', h, hg', hh, hle⟩
  obtain rfl := Option.some.inj (hg.symm.trans hg')
  exact ⟨h, hh, hle⟩

/-! ## A whole run -/

/-- **From where the text is done, the steps stay behind each other and behind what is done** if and
only if the lines of the calls that are left are clear. -/
theorem steps_stay_behind_iff_from (hpolicy : e.policy = P.apply) (hname : ')' ∉ e.function)
    (hbreak : '\n' ∉ e.function) (hdecl : e.isDeclaration path = false) :
    ∀ (calls : List (Int × Region)) (records : List Record) {all : List Record} {done text : Text}
      {stop : Nat} {s s' : Session}, (s.load path).1 = .ok text →
      Exchanged code done stop text (s.shift path) → (∀ c ∈ calls, e.Lists code c) →
      (∀ c ∈ calls.head?, stop ≤ c.2.start) → calls.IsChain (fun c d => c.2.stop ≤ d.2.start) →
      e.runFrom records (calls.map fun c => ⟨path, c.1⟩) s = (.ok all, s') →
      let steps := e.steps records.length (calls.map fun c => ⟨path, c.1⟩) s
      (∀ step ∈ steps.head?, step.StartsAt e done.length) ∧ steps.IsChain (Step.StaysBehind e)
        ↔ Clear e.function code done stop
            (List.zipWith Patch.ofRecord calls (steps.map Step.record))
  | [], records, all, done, text, stop, s, s', _, _, _, _, _, _ => by simp [steps, Clear]
  | call :: calls, records, all, done, text, stop, s, s', hload, hexchanged, hlists, hfirst, hchain,
      hrun => by
      obtain ⟨hnext, hrest⟩ := List.isChain_cons.mp hchain
      have hlisted := hlists call List.mem_cons_self
      have hle := hfirst call rfl
      rw [List.map_cons, runFrom] at hrun
      rcases hstep : e.replaceAt ⟨path, call.1⟩ records.length s with ⟨failure | (_ | record), t⟩
      · rw [hstep] at hrun
        cases (Prod.mk.inj hrun).1
      · obtain ⟨htrue, -⟩ | ⟨_, _, hnone, -⟩ := replaceAt_eq_ok hstep
        · exact absurd (hdecl.symm.trans htrue) Bool.false_ne_true
        · cases hnone
      rw [hstep] at hrun
      simp only [List.map_cons, steps, hstep, List.zipWith_cons_cons, Clear, List.isChain_cons,
        List.head?_cons, Option.mem_some_iff, forall_eq']
      -- Only a clear line keeps the invariant; after one that is not, nothing has to be said.
      by_cases hclear : EndsBefore code stop call.1 ∨ find e.function done.lastLine = none
      · obtain ⟨hg, text', hload', hexchanged'⟩ :=
          hlisted.exists_exchanged hpolicy hname hbreak hload hexchanged hle hclear hstep
        obtain ⟨_, _, _, hparts⟩ := exists_parts_of_region? hlisted.line_pos hlisted.region_eq
        have ih := steps_stay_behind_iff_from hpolicy hname hbreak hdecl calls (record :: records)
          hload' hexchanged' (fun c hc => hlists c (List.mem_cons_of_mem call hc)) hnext hrest hrun
        rw [length_append_ofRecord hparts.start_le_length hle] at ih
        have hstarts : Step.StartsAt e done.length ⟨s, record, t⟩ := ⟨_, hg, Nat.le_add_right ..⟩
        simp only [staysBehind_iff hg]
        exact ⟨fun h => ⟨hclear, ih.mp h.2⟩, fun h => ⟨hstarts, ih.mpr h.2⟩⟩
      · have hnot := hlisted.not_startsAt hname hload hexchanged hle hclear hstep
        exact iff_of_false (fun h => hnot h.1) fun h => hclear h.1

/-- A declaration file is passed over, at every location. -/
theorem steps_of_isDeclaration (hdecl : e.isDeclaration path = true) (index : Nat) :
    ∀ (calls : List (Int × Region)) (s : Session),
      e.steps index (calls.map fun c => ⟨path, c.1⟩) s = []
  | [], _ => rfl
  | call :: calls, s => by
      rw [List.map_cons, steps, replaceAt, if_pos hdecl]
      exact steps_of_isDeclaration hdecl index calls _

/-- **When a run never replaces what it has written.**  For calls of one file that are listed by the
lines on which they start and do not overlap, every step of a run that succeeds stays behind the
replacement of the step before it if and only if the listed lines are clear. -/
theorem steps_stay_behind_iff (hpolicy : e.policy = P.apply) (hname : ')' ∉ e.function)
    (hbreak : '\n' ∉ e.function) (hload : (s.load path).1 = .ok code) (hshift : s.shift path = 0)
    {calls : List (Int × Region)} {locations : List Location} {records : List Record}
    (hlocations : locations.Perm (calls.map fun c => ⟨path, c.1⟩))
    (hlines : calls.Pairwise fun c d => c.1 < d.1) (hlists : ∀ c ∈ calls, e.Lists code c)
    (hdisjoint : calls.Pairwise fun c d => c.2.stop ≤ d.2.start ∨ d.2.stop ≤ c.2.start)
    (hrun : e.run locations s = (.ok records, s')) :
    (e.steps 0 (Location.sort locations) s).IsChain (Step.StaysBehind e)
      ↔ Clear e.function code [] 0 (List.zipWith Patch.ofRecord calls records) := by
  have hsort : Location.sort locations = calls.map fun c => ⟨path, c.1⟩ :=
    Location.sort_eq hlocations hlines
  rw [run, hsort] at hrun
  have hrecords := records_of_runFrom _ [] s hrun
  rw [hsort, hrecords, List.reverse_nil, List.nil_append, List.length_nil]
  by_cases hdecl : e.isDeclaration path = true
  · rw [steps_of_isDeclaration hdecl 0 calls s, List.map_nil, List.zipWith_nil_right]
    exact iff_of_true .nil trivial
  · have hchain : calls.IsChain fun c d => c.2.stop ≤ d.2.start := by
      refine (hlines.and hdisjoint).imp_of_mem ?_ |>.isChain
      rintro c d hc hd ⟨hline, hapart⟩
      exact (hlists c hc).stop_le_start (hlists d hd) hline hapart
    have hiff := steps_stay_behind_iff_from hpolicy hname hbreak (by simpa using hdecl) calls []
      hload (hshift ▸ exchanged_nil code) hlists (fun _ _ => Nat.zero_le _) hchain hrun
    refine ⟨fun h => hiff.mp ⟨fun step hstep => ?_, h⟩, fun h => (hiff.mpr h).2⟩
    -- Nothing is done before the first step, so it is behind that.
    obtain ⟨g, hg⟩ := exists_region?_of_mem_steps (List.mem_of_mem_head? hstep)
    exact ⟨g, hg, Nat.zero_le _⟩

/-- The first call ends on the line of the second one and is pulled up to one line, and the second
step replaces the replacement. -/
theorem steps_stay_behind_iff_pulled_up :
    let P : Policy := .leading {}
    let e : Editor := ⟨['f'], P.apply, [".h".toList]⟩
    let path : Text := "a.c".toList
    let code : Text := "f(a,\n  b); f(c);\n".toList
    let s : Session := Session.mk ⟨[([path], .file (Utf8.encode code))], []⟩ { mode := .dry } [] []
    let calls : List (Int × Region) := [(1, ⟨0, 9, [['a'], ['b']]⟩), (2, ⟨11, 15, [['c']]⟩)]
    (∀ c ∈ calls, e.Lists code c)
      ∧ ((e.run [⟨path, 1⟩, ⟨path, 2⟩] s).2.load path).1
        = .ok "f(ERR_1, ERR_0, a, b); f(c);\n".toList
      ∧ ¬ (e.steps 0 (Location.sort [⟨path, 1⟩, ⟨path, 2⟩]) s).IsChain (Step.StaysBehind e) := by
  intro P e path code s calls
  have hload : (s.load path).1 = .ok code := by
    dsimp only [s, path, code]
    cbv
  have hlists : ∀ c ∈ calls, e.Lists code c := by
    intro c hc
    rcases List.mem_pair.mp hc with rfl | rfl
    · exact ⟨by decide +kernel, by decide +kernel⟩
    · exact ⟨by decide +kernel, by decide +kernel⟩
  let records : List Record :=
    [⟨⟨path, 1⟩, 1, "f(ERR_0, a, b)".toList, -1⟩,
      ⟨⟨path, 2⟩, 1, "f(ERR_1, ERR_0, a, b)".toList, 0⟩]
  have hok : (e.run [⟨path, 1⟩, ⟨path, 2⟩] s).1 = .ok records := by
    dsimp only [records, e, P, s, path, code]
    cbv
  have htext : ((e.run [⟨path, 1⟩, ⟨path, 2⟩] s).2.load path).1
      = .ok "f(ERR_1, ERR_0, a, b); f(c);\n".toList := by
    dsimp only [e, P, s, path, code]
    cbv
  have hpolicy : e.policy = P.apply := rfl
  have hiff := steps_stay_behind_iff hpolicy (by decide) (by decide) hload rfl (List.Perm.refl _)
    (by decide) hlists (by decide) (Prod.ext hok rfl)
  have hcovered : ¬ Clear e.function code [] 0 (List.zipWith Patch.ofRecord calls records) := by
    rintro ⟨-, ⟨start, hstart, hle⟩ | hnone, -⟩
    · have hfive : lineStart? code 2 = some 5 := by decide +kernel
      obtain rfl := Option.some.inj (hfive.symm.trans hstart)
      exact absurd hle (by decide)
    · exact absurd hnone (by decide +kernel)
  exact ⟨hlists, htext, fun h => hcovered (hiff.mp h)⟩

end Editor

end CallEdits
