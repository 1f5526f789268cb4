import CallEdits.Proofs.RunSteps
import CallEdits.Proofs.WriteOutcomes
import Mathlib

/-!
# Proofs/EmptiedFiles — the one failure that costs a file

A location can fail at every stage: its file cannot be loaded, the line or the call is missing, the
policy refuses the call, the backup cannot be made.  All of these leave the file as it was.  There
is one more stage,

    load ──▸ edit ──▸ backup ──▸ open ──▸ encode
                                  ╰ the file is empty from here on

and a text that cannot be encoded fails after the file was emptied.  A text read as ASCII or Latin-1
becomes such a text as soon as the policy brings in a character that the encoding does not know.
-/

namespace CallEdits

/-! ## Failures before the write -/

theorem Failure.blamesText_ofFault (fault : Fault) : (ofFault fault).blamesText = false := by
  rw [ofFault]
  split <;> rfl

namespace Editor

variable {e : Editor} {location : Location} {index : Int} {s s' : Session} {failure : Failure}

/-- An edit is made on characters, not on bytes. -/
theorem blamesText_of_edit {P : Policy} (hpolicy : e.policy = P.apply) {target : Int} {code : Text}
    (h : e.edit location target index code = .error failure) : failure.blamesText = false := by
  obtain ⟨fault, rfl⟩ | rfl := exists_fault_of_edit hpolicy h
  · exact Failure.blamesText_ofFault fault
  · rfl

/-- There is no call in an empty text. -/
theorem ne_nil_of_edit {target : Int} {code : Text} {edit : Edit}
    (h : e.edit location target index code = .ok edit) : code ≠ [] := by
  rintro rfl
  have hempty : target < 1 ∨ ((Source.lineCount [] : Nat) : Int) < target := by
    change target < 1 ∨ (0 : Int) < target
    omega
  simp only [Editor.edit, if_pos hempty] at h
  cases h

end Editor

namespace Session

/-! ## The write that fails -/

variable {s s' : Session} {path old code : Text} {backup : Bool} {failure : Failure}

/-- **A write that fails**, of a file that can be loaded: nothing has happened, or else the file is
empty and the failure blames the characters of the new text. -/
theorem write_eq_error (hmode : s.store.mode = .inPlace backup)
    (hload : (s.load path).1 = .ok old) (h : s.write path code = (.error failure, s')) :
    s' = s ∧ failure.blamesText = false
      ∨ s'.disk.read (s.store.resolve path) = .ok [] ∧ failure.blamesText = true
        ∧ (Encoding.ofName? s.store.encoding = some .ascii
          ∨ Encoding.ofName? s.store.encoding = some .latin1) := by
  rw [load, hmode] at hload
  obtain ⟨hnull, names, -, e, hleads, -, hname, -⟩ := Disk.readText_eq_ok_iff.mp hload
  rw [write_inPlace hmode] at h
  -- What the write does once the backup is made, if one was due.
  have hafter : ∀ {t : Session}, t.writeFile path code = (.error failure, s') →
      t.store.root = s.store.root → t.store.encoding = s.store.encoding →
      t.disk.Leads (s.store.resolve path) names →
        s'.disk.read (s.store.resolve path) = .ok [] ∧ failure.blamesText = true
          ∧ (Encoding.ofName? s.store.encoding = some .ascii
            ∨ Encoding.ofName? s.store.encoding = some .latin1) := by
    intro t hwrite hroot hencoding hleads'
    have htarget : t.store.resolve path = s.store.resolve path := by
      rw [Store.resolve, Store.resolve, hroot]
    obtain ⟨log, heq⟩ := writeFile_of_leads (hencoding ▸ hnull) (htarget ▸ hleads')
      (hencoding ▸ hname) code
    rw [heq] at hwrite
    cases hencode : e.encode code with
    | ok content =>
      rw [hencode] at hwrite
      cases (Prod.mk.inj hwrite).1
    | error fault =>
      rw [hencode] at hwrite
      obtain ⟨hfailure, rfl⟩ := Prod.mk.inj hwrite
      obtain ⟨hblames, hnarrow⟩ := Encoding.encode_eq_error hencode
      refine ⟨hleads'.read_put [], Except.error.inj hfailure ▸ hblames, ?_⟩
      rw [hname]
      exact hnarrow.imp (congrArg some) (congrArg some)
  obtain ⟨refusal, hsecure, hblames⟩ | ⟨-, hsecure⟩
    | ⟨-, -, copy, others, content, log, -, hothers, -, hsecure⟩ := secure_cases hload hname
  · rw [hsecure] at h
    obtain ⟨hfailure, rfl⟩ := Prod.mk.inj h
    exact .inl ⟨rfl, Except.error.inj hfailure ▸ hblames⟩
  · rw [hsecure] at h
    exact .inr (hafter h rfl rfl hleads)
  · rw [hsecure] at h
    exact .inr (hafter h rfl rfl ((hothers.sameFolders content).leads hleads))

end Session

namespace Editor

variable {e : Editor} {location : Location} {index : Int} {s s' : Session} {failure : Failure}

/-- **A location that fails costs its file if and only if the new text cannot be encoded.**  The
file is empty then, and its encoding is ASCII or Latin-1; after every other failure it has the bytes
that it had. -/
theorem failed_replaceAt_empties_iff {P : Policy} (hpolicy : e.policy = P.apply) {backup : Bool}
    (hmode : s.store.mode = .inPlace backup)
    (h : e.replaceAt location index s = (.error failure, s')) :
    (s'.disk.read (s.store.resolve location.path) ≠ s.disk.read (s.store.resolve location.path)
        ↔ failure.blamesText = true)
      ∧ (failure.blamesText = true →
          s'.disk.read (s.store.resolve location.path) = .ok []
            ∧ (Encoding.ofName? s.store.encoding = some .ascii
              ∨ Encoding.ofName? s.store.encoding = some .latin1)) := by
  obtain ⟨log, ⟨-, hstep⟩ | ⟨-, failure', hstep, hcause⟩ | ⟨-, code, edit, hload, hedit, hstep⟩⟩ :=
    e.replaceAt_cases location index s
  · cases (Prod.mk.inj (h.symm.trans hstep)).1
  · obtain ⟨hfailure, rfl⟩ := Prod.mk.inj (h.symm.trans hstep)
    obtain rfl := Except.error.inj hfailure
    have hblames : failure.blamesText = false := by
      rcases hcause with hload | ⟨code, -, hedit⟩
      · rw [Session.load, hmode] at hload
        exact Disk.blamesText_of_readText hload
      · exact blamesText_of_edit hpolicy hedit
    simp [hblames]
  · rw [h, commit] at hstep
    split at hstep
    · rename_i failure' t hwrite
      obtain ⟨hfailure, rfl⟩ := Prod.mk.inj hstep
      obtain rfl := Except.error.inj hfailure
      obtain ⟨rfl, hblames⟩ | ⟨hempty, hblames, hnarrow⟩ :=
        Session.write_eq_error (s := { s with log }) hmode ((s.load_log log _).trans hload) hwrite
      · simp [hblames]
      · refine ⟨⟨fun _ => hblames, fun _ hsame => ?_⟩, fun _ => ⟨hempty, hnarrow⟩⟩
        -- A file without bytes has no text, and no call is found there.
        rw [Session.load, hmode] at hload
        obtain ⟨-, names, content, encoding, hleads, hget, -, hdecode⟩ :=
          Disk.readText_eq_ok_iff.mp hload
        have hread := Disk.read_eq_ok_iff.mpr ⟨names, hleads, hget⟩
        obtain rfl := Except.ok.inj ((hsame.symm.trans hempty).symm.trans hread)
        exact ne_nil_of_edit hedit (by cases encoding <;> exact (Except.ok.inj hdecode).symm)
    · cases (Prod.mk.inj hstep).1

/-- An identifier with an accent is put into an ASCII file, and nothing is left of the file. -/
theorem failed_replaceAt_empties_iff_accent :
    let P : Policy := .leading { idStem := ['é'] }
    let e : Editor := ⟨['f'], P.apply, []⟩
    let path : Text := "a.c".toList
    let code : Bytes := Utf8.encode "f(a);\n".toList
    let s : Session :=
      { disk := ⟨[([path], .file code)], []⟩, store := { encoding := "ascii".toList } }
    let failure : Failure := .encoding (.badChars .ascii 2 ['é'])
    (e.replaceAt ⟨path, 1⟩ 0 s).1 = .error failure
      ∧ s.disk.read (s.store.resolve path) = .ok code
      ∧ (e.replaceAt ⟨path, 1⟩ 0 s).2.disk.read (s.store.resolve path) ≠ .ok code
      ∧ (e.replaceAt ⟨path, 1⟩ 0 s).2.disk.read (s.store.resolve path) = .ok [] := by
  intro P e path code s failure
  have hfailure : (e.replaceAt ⟨path, 1⟩ 0 s).1 = .error failure := by
    dsimp only [P, e, s, path, code, failure]
    cbv
  have hread : s.disk.read (s.store.resolve path) = .ok code := by
    dsimp only [s, path, code]
    cbv
  have hpolicy : e.policy = P.apply := rfl
  have hmode : s.store.mode = .inPlace false := rfl
  obtain ⟨hiff, hempty⟩ := failed_replaceAt_empties_iff hpolicy hmode (Prod.ext hfailure rfl)
  exact ⟨hfailure, hread, fun hkept => hiff.mpr rfl (hkept.trans hread.symm), (hempty rfl).1⟩

end Editor

end CallEdits
