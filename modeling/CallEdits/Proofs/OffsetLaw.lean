import CallEdits.Proofs.Patches
import CallEdits.Proofs.Replacements
import CallEdits.Proofs.RunSteps
import Mathlib

/-!
# Proofs/OffsetLaw — a run makes all its patches at once

    original ──patch 1──▸ ──patch 2──▸ … ──patch k──▸ new text
        ╰───────────── splice of all k patches ───────────╯

A report numbers the lines of the original, and a run works on a text that it has changed already.
The *offset law* says that this makes no difference, if every call ends before the line of the next
one starts: the run replaces the calls of the original, each by what the policy makes of it in the
original, and the new text is the splice of these patches.

One step keeps the invariant `Progress` — the file is done up to some place of the original, and
the policy sees the rest as it was — and a run is an induction over its patches.  The session has to
keep the file: a backup that cannot be made ends the run.
-/

namespace CallEdits

open Call Source

/-- Where a report places a patch. -/
def Patch.location (path : Text) (q : Patch) : Location := ⟨path, q.line⟩

/-- What a record says of a patch. -/
def Patch.outcome (path : Text) (q : Patch) : Location × Text := (q.location path, q.replacement)

/-- The text of a file from the line of a record on, before its step, is the original from the
line that the report gave. -/
def Editor.Step.ReadsOriginal (code : Text) (step : Editor.Step) : Prop :=
  ∃ text position start, (step.before.load step.record.location.path).1 = .ok text
    ∧ lineStart? text step.record.resolvedLine = some position
    ∧ lineStart? code step.record.location.line = some start
    ∧ text.drop position = code.drop start

namespace Editor

/-- **A patch of the original**: the first call from a line on, and what the policy makes of it
there, as the call of rank `index`. -/
structure Plans (e : Editor) (path code : Text) (index : Nat) (q : Patch) : Prop where
  line_pos : 1 ≤ q.line
  region_eq : region? e.function code q.line = some q.region
  policy_eq : e.policy (e.siteAt (q.location path) q.line index code q.region) = .ok q.replacement

/-- **The file is done up to `stop` of the original**, and the policy sees it as it was. -/
structure Progress (P : Policy) (path code done : Text) (stop : Nat) (s : Session) (text : Text) :
    Prop where
  keeps : s.Keeps path
  load_eq : (s.load path).1 = .ok text
  exchanged : Exchanged code done stop text (s.shift path)
  seesAlike : P.SeesAlike text code

variable {e : Editor} {P : Policy} {path code done text : Text} {stop start : Nat} {s : Session}
  {index : Nat} {q : Patch}

/-! ## One patch -/

/-- The policy makes of a call in the new text what it makes of it in the original. -/
theorem Progress.apply_eq (h : Progress P path code done stop s text) (hpolicy : e.policy = P.apply)
    (hq : e.Plans path code index q) (hstart : lineStart? code q.line = some start)
    (hstop : stop ≤ start) :
    P.apply (e.siteAt (q.location path) (q.line + s.shift path) index text
      (q.region.move done stop)) = .ok q.replacement := by
  have hbefore := h.exchanged.lastLine_apart hq.line_pos hq.region_eq hstart hstop
  rw [← hq.policy_eq, hpolicy]
  exact Policy.apply_siteAt h.seesAlike rfl hbefore

/-- **A patch is made**, and the file is done up to its end. -/
theorem Progress.exists_replaceAt (h : Progress P path code done stop s text)
    (hpolicy : e.policy = P.apply) (hP : P.Unbroken) (hname : '\n' ∉ e.function)
    (hdecl : e.isDeclaration path = false) (hq : e.Plans path code index q)
    (hstart : lineStart? code q.line = some start) (hstop : stop ≤ start) :
    ∃ record s' text', e.replaceAt (q.location path) index s = (.ok (some record), s')
      ∧ record.location = q.location path ∧ record.replacement = q.replacement
      ∧ Step.ReadsOriginal code ⟨s, record, s'⟩
      ∧ Progress P path code (q.append code done stop) q.region.stop s' text' := by
  obtain ⟨hone, hcount, hregion⟩ := h.exchanged.region?_apart hq.line_pos hq.region_eq hstart hstop
  have happly := h.apply_eq hpolicy hq hstart hstop
  have hedit : e.edit (q.location path) (q.line + s.shift path) index text = .ok (e.replaced
      (q.location path) (q.line + s.shift path) text (q.region.move done stop) q.replacement) :=
    edit_eq_ok_iff.mpr ⟨hone, hcount, _, _, hregion, hpolicy ▸ happly, rfl⟩
  obtain ⟨s', hstep, hkeeps, hload, hshift⟩ :=
    Editor.exists_replaceAt (q.location path) hdecl h.keeps h.load_eq hedit
  refine ⟨_, s', _, hstep, rfl, rfl, ?_, hkeeps, hload, ?_, ?_⟩
  · obtain ⟨position, hposition, hdrop⟩ :=
      h.exchanged.drop_lineStart_apart hq.line_pos hq.region_eq hstart hstop
    exact ⟨text, position, start, h.load_eq, hposition, hstart, hdrop⟩
  · obtain ⟨_, _, _, hparts⟩ := exists_parts_of_region? hq.line_pos hq.region_eq
    have hle := Nat.le_trans hstop (le_start_of_region? hq.region_eq hstart)
    have hexchanged := h.exchanged.patch hparts hname hle (Policy.getLast?_apply happly)
    exact (show s'.shift path = _ from hshift) ▸ hexchanged
  · obtain ⟨_, _, _, hparts⟩ := exists_parts_of_region? hone hregion
    exact (Policy.seesAlike_replace hP hparts happly).trans h.seesAlike

/-! ## All patches -/

/-- **From where the file is done, a run makes the patches that are left.** -/
theorem Progress.exists_runFrom (hpolicy : e.policy = P.apply) (hP : P.Unbroken)
    (hname : '\n' ∉ e.function) (hdecl : e.isDeclaration path = false) :
    ∀ (patches : List Patch) (records : List Record) {done text : Text} {stop : Nat} {s : Session},
      Progress P path code done stop s text →
      (∀ i q, patches[i]? = some q → e.Plans path code (records.length + i) q) →
      (∀ q ∈ patches.head?, EndsBefore code stop q.line) →
      patches.IsChain (fun q r => EndsBefore code q.region.stop r.line) →
      ∃ new s', e.runFrom records (patches.map (Patch.location path)) s
          = (.ok (records.reverse ++ new), s')
        ∧ new.map (fun r => (r.location, r.replacement)) = patches.map (Patch.outcome path)
        ∧ (s'.load path).1 = .ok (done ++ spliceFrom code stop patches)
        ∧ ∀ step ∈ e.steps records.length (patches.map (Patch.location path)) s,
            step.ReadsOriginal code
  | [], records, done, text, stop, s, h, _, _, _ => by
      refine ⟨[], s.note (.finished records.length), ?_, rfl, ?_, fun _ h => (nomatch h)⟩
      · rw [List.append_nil]
        rfl
      · rw [spliceFrom, ← h.exchanged.text_eq, ← h.load_eq]
        exact Session.load_congr rfl rfl
  | q :: patches, records, done, text, stop, s, h, hplans, hfirst, hchain => by
      obtain ⟨hnext, hrest⟩ := List.isChain_cons.mp hchain
      obtain ⟨start, hstart, hstop⟩ := hfirst q rfl
      obtain ⟨record, t, text', hstep, hlocation, hreplacement, hreads, hprogress⟩ :=
        h.exists_replaceAt hpolicy hP hname hdecl (hplans 0 q rfl) hstart hstop
      -- The patches that are left have the ranks after this one.
      obtain ⟨new, s', hrun, houtcomes, hload, hsteps⟩ :=
        exists_runFrom hpolicy hP hname hdecl patches (record :: records) hprogress
          (fun i r hr => by
            have hplan := hplans (i + 1) r hr
            rwa [← Nat.add_assoc, Nat.add_right_comm] at hplan)
          hnext hrest
      refine ⟨record :: new, s', ?_, ?_, ?_, ?_⟩
      · rw [List.map_cons, runFrom, show e.replaceAt _ (records.length : Int) s = _ from hstep]
        rw [List.reverse_cons, List.append_assoc] at hrun
        exact hrun
      · rw [List.map_cons, List.map_cons, houtcomes, hlocation, hreplacement]
        rfl
      · rw [append_spliceFrom_cons]
        exact hload
      · intro step hmem
        rw [List.map_cons, steps, show e.replaceAt _ (records.length : Int) s = _ from hstep]
          at hmem
        rcases List.mem_cons.mp hmem with rfl | hmem
        · exact hreads
        · exact hsteps step hmem

/-- **The offset law.**  A run over the locations of one file, whose calls in the original all end
before the line of the next one starts, succeeds and makes all patches of the original at once; and
every step reads from its shifted line on what the original has from the reported line on. -/
theorem run_makes_all_patches (hpolicy : e.policy = P.apply) (hP : P.Unbroken)
    (hname : '\n' ∉ e.function) (hdecl : e.isDeclaration path = false) (hkeeps : s.Keeps path)
    (hload : (s.load path).1 = .ok code) (hshift : s.shift path = 0) {patches : List Patch}
    {locations : List Location} (hlocations : locations.Perm (patches.map (Patch.location path)))
    (hlines : patches.Pairwise fun q r => q.line < r.line)
    (hplans : ∀ i q, patches[i]? = some q → e.Plans path code i q)
    (hapart : patches.IsChain fun q r => EndsBefore code q.region.stop r.line) :
    ∃ records s', e.run locations s = (.ok records, s')
      ∧ records.map (fun r => (r.location, r.replacement)) = patches.map (Patch.outcome path)
      ∧ (s'.load path).1 = .ok (splice code patches)
      ∧ records = (e.steps 0 (Location.sort locations) s).map Step.record
      ∧ ∀ step ∈ e.steps 0 (Location.sort locations) s, step.ReadsOriginal code := by
  have hprogress : Progress P path code [] 0 s code :=
    ⟨hkeeps, hload, hshift ▸ exchanged_nil code, P.seesAlike_refl code⟩
  have hsort : Location.sort locations = patches.map (Patch.location path) :=
    Location.sort_eq hlocations hlines
  have hfirst : ∀ q ∈ patches.head?, EndsBefore code 0 q.line := by
    intro q hq
    obtain ⟨rest, rfl⟩ := List.head?_eq_some_iff.mp hq
    obtain ⟨start, hstart, -⟩ := Option.bind_eq_some_iff.mp (hplans 0 q rfl).region_eq
    exact ⟨start, hstart, Nat.zero_le _⟩
  obtain ⟨records, s', hrun, houtcomes, htext, hsteps⟩ :=
    Progress.exists_runFrom hpolicy hP hname hdecl patches [] hprogress
      (fun i q hq => (Nat.zero_add i).symm ▸ hplans i q hq) hfirst hapart
  rw [run, hsort]
  exact ⟨records, s', hrun, houtcomes, htext, records_of_runFrom _ [] s hrun, hsteps⟩

/-- Two calls in a file whose lines end with `"\r\n"`, the first one over two lines, are replaced in
place, after a backup. -/
theorem run_makes_all_patches_two_calls :
    let P : Policy := .diagnostic ⟨['E'], 0, ['g'], [], 1⟩
    let e : Editor := ⟨['f'], P.apply, [".h".toList]⟩
    let path : Text := "a.c".toList
    let code : Text := "  f(a,\r\n    b);\r\nf(c, d);\r\n".toList
    let s : Session :=
      { disk := ⟨[([path], .file (Utf8.encode code))], []⟩, store := { mode := .inPlace true } }
    let patches : List Patch :=
      [⟨1, ⟨2, 14, [['a'], ['b']]⟩, "f(E + 0, b);\r\n  g(b)".toList⟩,
        ⟨3, ⟨17, 24, [['c'], ['d']]⟩, "f(E + 1, d);\r\ng(d)".toList⟩]
    s.Keeps path ∧ (∀ i q, patches[i]? = some q → e.Plans path code i q)
      ∧ (patches.IsChain fun q r => EndsBefore code q.region.stop r.line)
      ∧ ∃ records s', e.run [⟨path, 3⟩, ⟨path, 1⟩] s = (.ok records, s')
        ∧ records.map (fun r => (r.location, r.replacement)) = patches.map (Patch.outcome path)
        ∧ (s'.load path).1
          = .ok "  f(E + 0, b);\r\n  g(b);\r\nf(E + 1, d);\r\ng(d);\r\n".toList := by
  intro P e path code s patches
  have hbackUp : (s.backUp path).1 = .ok () := by
    dsimp only [s, path, code]
    cbv
  have hload : (s.load path).1 = .ok code := by
    dsimp only [s, path, code]
    cbv
  have hkeeps : s.Keeps path := .inr ⟨true, rfl, by decide +kernel, fun _ => .inr hbackUp⟩
  have hplans : ∀ i q, patches[i]? = some q → e.Plans path code i q := by
    rintro (_ | _ | i) q hq
    · obtain rfl := Option.some.inj hq
      refine ⟨by decide, by decide +kernel, ?_⟩
      dsimp only [e, P, path, code]
      cbv
    · obtain rfl := Option.some.inj hq
      refine ⟨by decide, by decide +kernel, ?_⟩
      dsimp only [e, P, path, code]
      cbv
    · cases hq
  have hapart : patches.IsChain fun q r => EndsBefore code q.region.stop r.line :=
    .cons_cons ⟨17, by decide +kernel, by decide⟩ (.singleton _)
  have hP : P.Unbroken := ⟨by decide, by decide, by decide⟩
  obtain ⟨records, s', hrun, houtcomes, htext, -⟩ :=
    run_makes_all_patches (e := e) rfl hP (by decide) (by decide +kernel) hkeeps hload rfl
      (List.Perm.swap _ _ []) (by decide) hplans hapart
  exact ⟨hkeeps, hplans, hapart, records, s', hrun, houtcomes, htext⟩

/-- **A backup that cannot be made ends the run**, though the policy accepts the only call: a folder
stands where the backup would. -/
theorem run_stops_without_backup :
    let P : Policy := .leading {}
    let e : Editor := ⟨['f'], P.apply, [".h".toList]⟩
    let path : Text := "a.c".toList
    let code : Text := "f(a);\n".toList
    let s : Session :=
      { disk := ⟨[([path], .file (Utf8.encode code)), (["a.c.bak".toList], .folder)], []⟩,
        store := { mode := .inPlace true } }
    P.Unbroken ∧ '\n' ∉ e.function ∧ e.isDeclaration path = false
      ∧ Encoding.ofName? s.store.encoding = some .utf8 ∧ (s.load path).1 = .ok code
      ∧ s.shift path = 0
      ∧ e.Plans path code 0 ⟨1, ⟨0, 4, [['a']]⟩, "f(ERR_0, a)".toList⟩
      ∧ (e.run [⟨path, 1⟩] s).1
        = .error (.disk (.refused .isFolder (Path.ofText "a.c.bak".toList))) := by
  intro P e path code s
  refine ⟨trivial, by decide, by decide +kernel, by decide +kernel, ?_, rfl,
    ⟨by decide, by decide +kernel, ?_⟩, ?_⟩
  · dsimp only [s, path, code]
    cbv
  · dsimp only [e, P, path, code]
    cbv
  · dsimp only [e, P, s, path, code]
    cbv

end Editor

end CallEdits
