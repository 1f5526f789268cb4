import CallEdits.Editor
import CallEdits.Proofs.LineNumbers
import CallEdits.Proofs.LocationOrder
import CallEdits.Proofs.WrittenFiles

/-!
# Proofs/RunSteps — what one step of a run can do

A step loads a file, edits its text, writes it back and adds up the lines.  `replaceAt_cases` says
once what can come of it, `edit_eq_error` why a text is not edited, and `Policy.apply_eq_error` why
a policy refuses a call; whatever a run preserves is read off from the three cases of a step.  The
sessions between the steps of a run are `steps`, and the records of a run are the records of its
steps (`records_of_runFrom`).
-/

namespace CallEdits

namespace Session

/-! ## The log is only written -/

theorem exists_log_load (s : Session) (path : Text) : ∃ log, (s.load path).2 = { s with log } := by
  rw [load]
  split
  · exact ⟨_, rfl⟩
  · split <;> exact ⟨_, rfl⟩

/-- What is loaded depends on the disk and the store. -/
theorem load_congr {s s' : Session} {path : Text} (hdisk : s'.disk = s.disk)
    (hstore : s'.store = s.store) : (s'.load path).1 = (s.load path).1 := by
  simp only [load, loadFile, hdisk, hstore]
  split
  · rfl
  · split <;> rfl

@[simp] theorem load_log (s : Session) (log : List Event) (path : Text) :
    (({ s with log } : Session).load path).1 = (s.load path).1 := load_congr rfl rfl

end Session

/-! ## Policies -/

theorem Numeral.eq_tooLarge_of_write {i : Int} {fault : Fault} (h : write i = .error fault) :
    fault = .tooLarge := by
  rw [write] at h
  split at h
  · cases h
  · exact (Except.error.inj h).symm

/-- **Why a policy refuses a call**: it has too few arguments, or its number cannot be written.  The
fault says where the call is, and carries it nowhere else. -/
theorem Policy.apply_eq_error {P : Policy} {site : Call.Site} {failure : Failure}
    (h : P.apply site = .error failure) :
    (∃ count bound, failure = .ofFault
        (.call (.fewArguments site.path site.line site.function count bound) none none))
      ∨ failure = .numeral .tooLarge := by
  cases P with
  | diagnostic p =>
    rw [Policy.apply, Diagnostic.apply] at h
    split at h
    · exact .inl ⟨_, _, (Except.error.inj h).symm⟩
    split at h
    · rename_i hwrite
      obtain rfl := Numeral.eq_tooLarge_of_write hwrite
      exact .inr (Except.error.inj h).symm
    · cases h
  | leading p =>
    rw [Policy.apply, Leading.apply] at h
    split at h
    · rename_i hwrite
      obtain rfl := Numeral.eq_tooLarge_of_write hwrite
      exact .inr (Except.error.inj h).symm
    · cases h

namespace Editor

variable {e : Editor} {location : Location} {index : Int} {s s' : Session}

/-! ## One text -/

/-- **Why a text is not edited**: it has no such line; or no call stands there; or the call is not
closed; or the policy refuses it. -/
theorem edit_eq_error {target : Int} {code : Text} {failure : Failure}
    (h : e.edit location target index code = .error failure) :
    (target < 1 ∨ (Source.lineCount code : Int) < target)
        ∧ failure = overflow location.path target (Source.lineCount code)
      ∨ failure = .ofFault (.notFound (some location.path) (some location.line) (some target)
          (some e.function))
      ∨ (∃ suffix found flaw, Call.find e.function suffix = some found
          ∧ Call.split found.after = .error flaw
          ∧ failure = .ofFault (.call (.resolved flaw target) (some location.path)
              (some location.line)))
      ∨ ∃ site : Call.Site, site.path = location.path ∧ site.line = location.line
          ∧ site.resolvedLine = target ∧ e.policy site = .error failure := by
  simp only [edit] at h
  split at h
  · rename_i hrange
    exact .inl ⟨hrange, (Except.error.inj h).symm⟩
  rename_i hrange
  have hle : target ≤ Source.lineCount code := by omega
  obtain ⟨start, hstart⟩ := Source.exists_lineStart hle
  simp only [hstart, editFrom] at h
  split at h
  · exact .inr (.inl (Except.error.inj h).symm)
  rename_i found hfound
  split at h
  · rename_i flaw hsplit
    exact .inr (.inr (.inl ⟨_, found, flaw, hfound, hsplit, (Except.error.inj h).symm⟩))
  split at h
  · rename_i hrefused
    exact .inr (.inr (.inr ⟨_, rfl, rfl, rfl, Except.error.inj h ▸ hrefused⟩))
  · cases h

/-- **What an edit fails with**, where a policy replaces the calls: a fault, or a number that cannot
be written. -/
theorem exists_fault_of_edit {P : Policy} (hpolicy : e.policy = P.apply) {target : Int}
    {code : Text} {failure : Failure}
    (h : e.edit location target index code = .error failure) :
    (∃ fault, failure = .ofFault fault) ∨ failure = .numeral .tooLarge := by
  rcases edit_eq_error h with ⟨-, hfault⟩ | hfault | ⟨_, _, _, -, -, hfault⟩
    | ⟨site, -, -, -, hrefused⟩
  · exact .inl ⟨_, hfault⟩
  · exact .inl ⟨_, hfault⟩
  · exact .inl ⟨_, hfault⟩
  · rw [hpolicy] at hrefused
    exact (Policy.apply_eq_error hrefused).imp_left fun ⟨_, _, hfault⟩ => ⟨_, hfault⟩

/-! ## One step -/

theorem replaceAt_eq_match (index : Int) (s : Session)
    (hdecl : e.isDeclaration location.path = false) :
    ∃ log, e.replaceAt location index s
      = match (s.load location.path).1 with
        | .error failure => (.error failure, { s with log })
        | .ok code =>
          match e.edit location (location.line + s.shift location.path) index code with
          | .error failure => (.error failure, { s with log })
          | .ok edit => commit location (s.shift location.path) { s with log } edit := by
  have hnot : ¬ e.isDeclaration location.path = true := by simp [hdecl]
  simp only [replaceAt, if_neg hnot]
  generalize hs : s.note (.begin location (s.shift location.path)
    (location.line + s.shift location.path)) = t
  have hload : (t.load location.path).1 = (s.load location.path).1 :=
    hs ▸ s.load_log _ location.path
  obtain ⟨log, hlog⟩ := t.exists_log_load location.path
  have hlog' : (t.load location.path).2 = { s with log } := hlog.trans (hs ▸ rfl)
  refine ⟨log, ?_⟩
  rw [← Prod.eta (t.load location.path), hload, hlog']
  cases (s.load location.path).1 with
  | error failure => rfl
  | ok code => cases e.edit location (location.line + s.shift location.path) index code <;> rfl

/-- **What comes of a location**: a declaration file is passed over; a file that cannot be loaded or
has no call there is left as it is; and else the edited text is written. -/
theorem replaceAt_cases (e : Editor) (location : Location) (index : Int) (s : Session) :
    ∃ log, (e.isDeclaration location.path = true
        ∧ e.replaceAt location index s = (.ok none, { s with log }))
      ∨ (e.isDeclaration location.path = false ∧ ∃ failure,
          e.replaceAt location index s = (.error failure, { s with log })
            ∧ ((s.load location.path).1 = .error failure ∨ ∃ code,
                (s.load location.path).1 = .ok code
                  ∧ e.edit location (location.line + s.shift location.path) index code
                    = .error failure))
      ∨ (e.isDeclaration location.path = false ∧ ∃ code edit,
          (s.load location.path).1 = .ok code
            ∧ e.edit location (location.line + s.shift location.path) index code = .ok edit
            ∧ e.replaceAt location index s
              = commit location (s.shift location.path) { s with log } edit) := by
  by_cases hdecl : e.isDeclaration location.path = true
  · exact ⟨_, .inl ⟨hdecl, by rw [replaceAt, if_pos hdecl]; rfl⟩⟩
  · have hdecl' : e.isDeclaration location.path = false := by simpa using hdecl
    obtain ⟨log, heq⟩ := replaceAt_eq_match index s hdecl'
    refine ⟨log, .inr ?_⟩
    rw [heq]
    cases hcode : (s.load location.path).1 with
    | error failure => exact .inl ⟨hdecl', failure, rfl, .inl rfl⟩
    | ok code =>
      cases hedit : e.edit location (location.line + s.shift location.path) index code with
      | error failure =>
        exact .inl ⟨hdecl', failure, by simp only [hedit], .inr ⟨code, rfl, hedit⟩⟩
      | ok edit => exact .inr ⟨hdecl', code, edit, rfl, hedit, by simp only [hedit]⟩

/-- **Where a step ends** that is not passed over: where it has loaded its file, or where it has
written it. -/
theorem replaceAt_snd (e : Editor) (index : Int) (s : Session)
    (hdecl : e.isDeclaration location.path = false) :
    let shift := s.shift location.path
    let loaded := ((s.note (.begin location shift (location.line + shift))).load location.path).2
    (e.replaceAt location index s).2 = loaded
      ∨ ∃ edit, (e.replaceAt location index s).2 = (commit location shift loaded edit).2 := by
  intro shift loaded
  rw [replaceAt, if_neg (Bool.eq_false_iff.mp hdecl)]
  dsimp only
  rcases hload : (s.note (.begin location shift (location.line + shift))).load location.path with
    ⟨failure | code, t⟩
  · exact .inl (congrArg Prod.snd hload).symm
  · obtain rfl : loaded = t := congrArg Prod.snd hload
    dsimp only
    cases e.edit location (location.line + shift) index code with
    | error failure => exact .inl rfl
    | ok edit => exact .inr ⟨edit, rfl⟩

/-! ## The file after a step -/

/-- A commit that succeeds leaves the edited text, and the shift with the new lines added. -/
theorem commit_eq_ok {shift : Int} {edit : Edit} {r : Option Record}
    (h : commit location shift s edit = (.ok r, s')) :
    r = some edit.record ∧ (s'.load location.path).1 = .ok edit.code
      ∧ s'.shift location.path = shift + edit.record.delta := by
  rw [commit] at h
  split at h
  · exact nomatch (Prod.mk.inj h).1
  · rename_i t hwrite
    obtain ⟨hr, rfl⟩ := Prod.mk.inj h
    refine ⟨(Except.ok.inj hr).symm, ?_, ?_⟩
    · rw [← (Session.load_of_write hwrite).1]
      exact Session.load_congr rfl rfl
    · change ((Table.put location.path _ t.shifts).lookup location.path).getD 0 = _
      rw [Table.lookup_put, if_pos BEq.rfl, Option.getD_some]

/-- A commit leaves the disk and the store that its write leaves. -/
theorem exists_commit_snd (location : Location) (shift : Int) (s : Session) (edit : Edit) :
    ∃ shifts log, (commit location shift s edit).2
      = { (s.write location.path edit.code).2 with shifts, log } := by
  rw [commit]
  rcases s.write location.path edit.code with ⟨_ | _, t⟩
  · exact ⟨t.shifts, t.log, rfl⟩
  · exact ⟨_, _, rfl⟩

/-- **What a step that succeeds has done**: it has passed a declaration file over, or else it has
edited the text of its file and shifted the lines that follow. -/
theorem replaceAt_eq_ok {r : Option Record}
    (h : e.replaceAt location index s = (.ok r, s')) :
    e.isDeclaration location.path = true ∧ r = none
      ∨ ∃ code edit, r = some edit.record ∧ (s.load location.path).1 = .ok code
        ∧ e.edit location (location.line + s.shift location.path) index code = .ok edit
        ∧ (s'.load location.path).1 = .ok edit.code
        ∧ s'.shift location.path = s.shift location.path + edit.record.delta := by
  obtain ⟨log, ⟨hdecl, hstep⟩ | ⟨-, failure, hstep, -⟩ | ⟨-, code, edit, hload, hedit, hstep⟩⟩ :=
    e.replaceAt_cases location index s
  · obtain ⟨hr, -⟩ := Prod.mk.inj (h.symm.trans hstep)
    exact .inl ⟨hdecl, Except.ok.inj hr⟩
  · exact nomatch (Prod.mk.inj (h.symm.trans hstep)).1
  · obtain ⟨hr, hafter, hshift⟩ := commit_eq_ok (hstep.symm.trans h)
    exact .inr ⟨code, edit, hr, hload, hedit, hafter, hshift⟩

/-- **A step on a file that the session keeps** succeeds if the edit does. -/
theorem exists_replaceAt (location : Location) {code : Text} {edit : Edit}
    (hdecl : e.isDeclaration location.path = false) (hkeeps : s.Keeps location.path)
    (hload : (s.load location.path).1 = .ok code)
    (hedit : e.edit location (location.line + s.shift location.path) index code = .ok edit) :
    ∃ s', e.replaceAt location index s = (.ok (some edit.record), s') ∧ s'.Keeps location.path
      ∧ (s'.load location.path).1 = .ok edit.code
      ∧ s'.shift location.path = s.shift location.path + edit.record.delta := by
  obtain ⟨log, hstep⟩ := replaceAt_eq_match index s hdecl
  rw [hload] at hstep
  simp only [hedit] at hstep
  obtain ⟨t, hwrite, ht⟩ := Session.Keeps.exists_write (s := { s with log })
    (hkeeps.congr rfl rfl) ((s.load_log log _).trans hload) edit.code
  obtain ⟨shifts, log', hcommit⟩ : ∃ shifts log', e.replaceAt location index s
      = (.ok (some edit.record), { t with shifts, log := log' }) := by
    rw [hstep, commit, hwrite]
    exact ⟨_, _, rfl⟩
  obtain ⟨-, hafter, hshift⟩ := commit_eq_ok (hstep.symm.trans hcommit)
  exact ⟨_, hcommit, ht.congr rfl rfl, hafter, hshift⟩

/-! ## The steps of a run -/

/-- **A call that a run replaced**, between the sessions before and after. -/
structure Step where
  before : Session
  record : Record
  after : Session

/-- The steps of a run over locations in this order, after `index` replaced calls.  A failure ends
them. -/
def steps (e : Editor) (index : Nat) : List Location → Session → List Step
  | [], _ => []
  | location :: rest, s =>
    match e.replaceAt location index s with
    | (.error _, _) => []
    | (.ok none, s') => steps e index rest s'
    | (.ok (some record), s') => ⟨s, record, s'⟩ :: steps e (index + 1) rest s'

/-- **The records of a run are the records of its steps.** -/
theorem records_of_runFrom {records : List Record} : ∀ (locations : List Location)
    (done : List Record) (s : Session), e.runFrom done locations s = (.ok records, s') →
      records = done.reverse ++ (e.steps done.length locations s).map Step.record
  | [], done, s, h => by
      rw [runFrom] at h
      rw [steps, List.map_nil, List.append_nil]
      exact (Except.ok.inj (Prod.mk.inj h).1).symm
  | location :: rest, done, s, h => by
      rw [runFrom] at h
      rw [steps]
      rcases hstep : e.replaceAt location done.length s with ⟨failure | (_ | record), t⟩
      · rw [hstep] at h
        exact nomatch (Prod.mk.inj h).1
      · rw [hstep] at h
        exact records_of_runFrom rest done t h
      · rw [hstep] at h
        have ih := records_of_runFrom rest (record :: done) t h
        rwa [List.reverse_cons, List.append_assoc] at ih

/-- **What every step preserves, a run preserves**; only the steps at its own locations count. -/
theorem runFrom_preserves_of_mem {P : Session → Prop}
    (hend : ∀ s calls, P s → P (s.note (.finished calls))) :
    ∀ (locations : List Location),
      (∀ location ∈ locations, ∀ index s, P s → P (e.replaceAt location index s).2) →
        ∀ (done : List Record) (s : Session), P s → P (e.runFrom done locations s).2
  | [], _, _, s, h => hend s _ h
  | location :: rest, hstep, done, s, h => by
      have hnext := hstep location List.mem_cons_self done.length s h
      have hrest := runFrom_preserves_of_mem hend rest fun location hmem =>
        hstep location (List.mem_cons_of_mem _ hmem)
      rw [runFrom]
      split
      · rename_i hs
        rwa [hs] at hnext
      · rename_i t hs
        rw [hs] at hnext
        exact hrest done t hnext
      · rename_i record t hs
        rw [hs] at hnext
        exact hrest (record :: done) t hnext

/-- **Two runs go side by side** if their steps do: they have the same result, and end in sessions
that belong together. -/
theorem runFrom_simulates {R : Session → Session → Prop}
    (hlog : ∀ s t log log', R s t → R { s with log } { t with log := log' }) :
    ∀ (locations : List Location),
      (∀ location ∈ locations, ∀ index s t, R s t →
        (e.replaceAt location index s).1 = (e.replaceAt location index t).1
          ∧ R (e.replaceAt location index s).2 (e.replaceAt location index t).2) →
        ∀ (done : List Record) (s t : Session), R s t →
          (e.runFrom done locations s).1 = (e.runFrom done locations t).1
            ∧ R (e.runFrom done locations s).2 (e.runFrom done locations t).2
  | [], _, _, s, t, h => ⟨rfl, hlog s t _ _ h⟩
  | location :: rest, hstep, done, s, t, h => by
      have hrest := runFrom_simulates hlog rest fun location hmem =>
        hstep location (List.mem_cons_of_mem _ hmem)
      obtain ⟨hsame, hnext⟩ := hstep location List.mem_cons_self done.length s t h
      rw [runFrom, runFrom]
      rcases hs : e.replaceAt location done.length s with ⟨result, s'⟩
      rcases ht : e.replaceAt location done.length t with ⟨result', t'⟩
      rw [hs, ht] at hsame hnext
      obtain rfl : result = result' := hsame
      rcases result with failure | (_ | record)
      · exact ⟨rfl, hnext⟩
      · exact hrest done s' t' hnext
      · exact hrest (record :: done) s' t' hnext

theorem runFrom_preserves {P : Session → Prop}
    (hlog : ∀ s log, P s → P { s with log })
    (hstep : ∀ location index s, P s → P (e.replaceAt location index s).2)
    (locations : List Location) (done : List Record) (s : Session) (h : P s) :
    P (e.runFrom done locations s).2 :=
  runFrom_preserves_of_mem (fun s _ => hlog s _) locations (fun location _ => hstep location) done
    s h

/-- **Every step of a run begins in a session that the steps before it preserve.** -/
theorem exists_location_of_mem_steps {P : Session → Prop} {step : Step} :
    ∀ (locations : List Location),
      (∀ location ∈ locations, ∀ index s, P s → P (e.replaceAt location index s).2) →
        ∀ (index : Nat) (s : Session), P s → step ∈ e.steps index locations s →
          P step.before ∧ ∃ location ∈ locations, ∃ i,
            e.replaceAt location i step.before = (.ok (some step.record), step.after)
  | [], _, _, _, _, h => nomatch h
  | location :: rest, hstep, index, s, hs, h => by
      have hnext := hstep location List.mem_cons_self index s hs
      have hrest : ∀ (index : Nat) (t : Session), P t → step ∈ e.steps index rest t →
          P step.before ∧ ∃ found ∈ location :: rest, ∃ i,
            e.replaceAt found i step.before = (.ok (some step.record), step.after) := by
        intro index t ht hmem
        obtain ⟨hbefore, found, hfound, i, heq⟩ := exists_location_of_mem_steps rest
          (fun location hmem => hstep location (List.mem_cons_of_mem _ hmem)) index t ht hmem
        exact ⟨hbefore, found, List.mem_cons_of_mem _ hfound, i, heq⟩
      rw [steps] at h
      split at h
      · exact nomatch h
      · rename_i t ht
        rw [ht] at hnext
        exact hrest index t hnext h
      · rename_i record t ht
        rw [ht] at hnext
        rcases List.mem_cons.mp h with rfl | h
        · exact ⟨hs, location, List.mem_cons_self, index, ht⟩
        · exact hrest (index + 1) t hnext h

theorem exists_of_mem_steps {P : Session → Prop}
    (hstep : ∀ location index s, P s → P (e.replaceAt location index s).2) {step : Step}
    (locations : List Location) (index : Nat) (s : Session) (hs : P s)
    (h : step ∈ e.steps index locations s) :
    P step.before ∧ ∃ location i,
      e.replaceAt location i step.before = (.ok (some step.record), step.after) := by
  obtain ⟨hbefore, location, -, i, heq⟩ :=
    exists_location_of_mem_steps locations (fun location _ => hstep location) index s hs h
  exact ⟨hbefore, location, i, heq⟩

end Editor

end CallEdits
