import CallEdits.Proofs.AbortedRuns
import CallEdits.Proofs.ArgumentGrammar
import CallEdits.Proofs.CallSearch
import CallEdits.Proofs.CheckedSettings
import CallEdits.Proofs.CommandRuns
import CallEdits.Proofs.HeadingWindows
import CallEdits.Proofs.OutlineNodes

/-!
# Proofs/Endings — how a command can end

    orderly failure   ──▸  exit 1 or 2
    conversion        ──▸  passed on
    any other         ──▸  does not occur

A failure that a command meets is orderly, or it comes from turning bytes into text, text into
numbers, or one of these back.  `Foreseen` says so, and every stage of the command is gone through
once: files that are read and written, the report, an edit, a step, a run.  What cannot occur is
ruled out for a reason of its own.  Settings are checked, so a level of the report has columns and
the policy has a name; a line that is counted is found; and a file is loaded before its backup is
made, so its path has a last part — which takes a working directory that is a folder (`Grounded`).
-/

namespace CallEdits

/-- **A conversion that fails**: bytes that are no text, text that has no bytes, an encoding that is
not known, a number with too many digits, or a path with a null character. -/
def Failure.isConversion : Failure → Bool
  | .encoding (.unknown _) | .encoding (.badBytes ..) | .encoding (.badChars ..) => true
  | .numeral (.tooManyDigits _) | .numeral .tooLarge => true
  | .disk .nullPath => true
  | _ => false

/-- **A failure that a command may meet.**  The name of an encoding, too, may hold a null
character. -/
def Failure.Foreseen (failure : Failure) : Prop :=
  failure.isOrderly = true ∨ failure.isConversion = true ∨ failure = .encoding .nullName

/-- **A fault that arises** is orderly, or a number of its message cannot be converted. -/
theorem Failure.foreseen_ofFault (fault : Fault) : (ofFault fault).Foreseen := by
  rw [ofFault]
  split
  · exact .inl rfl
  · exact .inr (.inl rfl)

theorem Failure.isConversion_of_blamesText {failure : Failure} (h : failure.blamesText = true) :
    failure.isConversion = true := by
  rw [blamesText.eq_def] at h
  split at h
  · rfl
  · cases h

/-! ## Files -/

namespace Disk

variable {d d' : Disk} {p : Path} {encoding t : Text} {trouble : Trouble} {failure : Failure}

theorem foreseen_of_resolve (h : d.resolve p = .error trouble) :
    (Failure.disk trouble).Foreseen := by
  rw [resolve] at h
  split at h
  · exact Except.error.inj h ▸ .inr (.inl rfl)
  split at h
  · exact Except.error.inj h ▸ .inl rfl
  split at h
  · exact Except.error.inj h ▸ .inl rfl
  · cases h

theorem foreseen_of_readText (h : d.readText p encoding = .error failure) : failure.Foreseen := by
  rw [readText] at h
  split at h
  · exact Except.error.inj h ▸ .inr (.inr rfl)
  split at h
  · rename_i trouble hread
    obtain rfl := Except.error.inj h
    rw [read] at hread
    split at hread
    · rename_i hresolve
      exact Except.error.inj hread ▸ foreseen_of_resolve hresolve
    split at hread
    · exact Except.error.inj hread ▸ .inl rfl
    · exact Except.error.inj hread ▸ .inl rfl
    · cases hread
  split at h
  · exact Except.error.inj h ▸ .inr (.inl rfl)
  split at h
  · rename_i hdecode
    obtain rfl := Except.error.inj h
    obtain ⟨_, _, _, _, rfl⟩ := Encoding.exists_badBytes_of_decode hdecode
    exact .inr (.inl rfl)
  · cases h

theorem foreseen_of_readPlain (h : d.readPlain p encoding = .error failure) :
    failure.Foreseen := by
  rw [readPlain] at h
  split at h
  · rename_i hread
    exact Except.error.inj h ▸ foreseen_of_readText hread
  · cases h

theorem foreseen_of_writeText (h : d.writeText p encoding t = (.error failure, d')) :
    failure.Foreseen := by
  rw [writeText] at h
  split at h
  · exact Except.error.inj (Prod.mk.inj h).1 ▸ .inr (.inr rfl)
  split at h
  · rename_i trouble hopen
    obtain rfl := Except.error.inj (Prod.mk.inj h).1
    rw [openEmpty] at hopen
    split at hopen
    · rename_i hresolve
      exact Except.error.inj hopen ▸ foreseen_of_resolve hresolve
    split at hopen
    · exact Except.error.inj hopen ▸ .inl rfl
    · cases hopen
  split at h
  · exact Except.error.inj (Prod.mk.inj h).1 ▸ .inr (.inl rfl)
  split at h
  · rename_i fault hencode
    obtain rfl := Except.error.inj (Prod.mk.inj h).1
    exact .inr (.inl (Failure.isConversion_of_blamesText (Encoding.encode_eq_error hencode).1))
  · cases h

/-- **The working directory is a folder.** -/
def Grounded (d : Disk) : Prop := d.get? d.here = some .folder

theorem SameFolders.grounded (h : d.SameFolders d') (hd : d.Grounded) : d'.Grounded := by
  rw [Grounded, h.here_eq]
  exact (h.folder_iff _).mpr hd

/-- **A file that can be read has a last part in its path**, so there is room beside it. -/
theorem Grounded.exists_extend (hd : d.Grounded) (h : d.readText p encoding = .ok t)
    (extra : Text) : ∃ copy, p.extend? extra = some copy := by
  rw [Path.extend?]
  cases hlast : p.parts.getLast? with
  | some last => exact ⟨_, rfl⟩
  | none =>
    -- Without parts the path leads to where it starts, and no file stands there.
    obtain ⟨-, names, content, e, hleads, hget, -⟩ := readText_eq_ok_iff.mp h
    obtain ⟨-, hfollow⟩ := resolve_eq_ok_iff.mp hleads.1
    rw [List.getLast?_eq_none_iff.mp hlast, follow] at hfollow
    obtain rfl := Except.ok.inj hfollow
    refine absurd ?_ hleads.2
    cases p.anchor with
    | here => exact hd
    | root => rfl
    | doubleRoot => rfl

end Disk

namespace Session

variable {s s' : Session} {path old code : Text} {failure : Failure}

theorem foreseen_of_load (h : (s.load path).1 = .error failure) : failure.Foreseen := by
  rw [load] at h
  split at h
  · exact Disk.foreseen_of_readText h
  split at h
  · cases h
  · exact Disk.foreseen_of_readText h

/-- **A backup is made of a file that can be read**, so it fails for a foreseen reason. -/
theorem foreseen_of_backUp (hd : s.disk.Grounded)
    (hread : s.disk.readText (s.store.resolve path) s.store.encoding = .ok old)
    (h : s.backUp path = (.error failure, s')) : failure.Foreseen := by
  obtain ⟨hnone, -⟩ | hread' | ⟨_, _, _, hwrite⟩ := backUp_eq_error h
  · obtain ⟨copy, hcopy⟩ := hd.exists_extend hread ".bak".toList
    exact nomatch hnone.symm.trans hcopy
  · exact nomatch hread.symm.trans hread'
  · exact Disk.foreseen_of_writeText hwrite

theorem foreseen_of_writeFile (h : s.writeFile path code = (.error failure, s')) :
    failure.Foreseen := by
  obtain ⟨_, hwrite⟩ := writeFile_eq_error h
  exact Disk.foreseen_of_writeText hwrite

theorem foreseen_of_write (hd : s.disk.Grounded) (hload : (s.load path).1 = .ok old)
    (h : s.write path code = (.error failure, s')) : failure.Foreseen := by
  cases hmode : s.store.mode with
  | dry =>
    rw [write, hmode] at h
    cases (Prod.mk.inj h).1
  | inPlace backup =>
    rw [load, hmode] at hload
    rw [write_inPlace hmode, secure] at h
    split at h
    · rename_i hsecured
      obtain rfl := Except.error.inj (Prod.mk.inj h).1
      split at hsecured
      · exact foreseen_of_backUp hd hload hsecured
      · cases (Prod.mk.inj hsecured).1
    · exact foreseen_of_writeFile h

end Session

/-! ## Calls -/

/-- **A call that is found begins with a parenthesis**, so all that can be wrong with it is that it
is not closed. -/
theorem Call.kind_of_split_found {name code : Text} {found : Found} {flaw : Flaw}
    (hfound : find name code = some found) (h : split found.after = .error flaw) :
    flaw.kind = .unbalanced := by
  obtain ⟨rest, hopens⟩ := (occurs_of_find hfound).opens
  have hfirst : found.after.find? (fun c => !Text.isBlank c) = some '(' := by
    rw [hopens]
    rfl
  rw [kind_of_split h, if_pos hfirst]

namespace Editor

variable {e : Editor} {P : Policy} {location : Location} {index : Int} {s s' : Session}
  {failure : Failure}

theorem foreseen_of_edit (hpolicy : e.policy = P.apply) {target : Int} {code : Text}
    (h : e.edit location target index code = .error failure) : failure.Foreseen := by
  obtain ⟨fault, rfl⟩ | rfl := exists_fault_of_edit hpolicy h
  · exact Failure.foreseen_ofFault fault
  · exact .inr (.inl rfl)

/-- **A step fails for a foreseen reason.** -/
theorem foreseen_of_replaceAt (hpolicy : e.policy = P.apply) (hd : s.disk.Grounded)
    (h : e.replaceAt location index s = (.error failure, s')) : failure.Foreseen := by
  obtain ⟨log, ⟨-, hstep⟩ | ⟨-, failure', hstep, hwhy⟩ | ⟨-, code, edit, hload, -, hstep⟩⟩ :=
    e.replaceAt_cases location index s
  · cases (Prod.mk.inj (h.symm.trans hstep)).1
  · obtain rfl := Except.error.inj (Prod.mk.inj (h.symm.trans hstep)).1
    rcases hwhy with hload | ⟨code, -, hedit⟩
    · exact Session.foreseen_of_load hload
    · exact foreseen_of_edit hpolicy hedit
  · have hcommit := hstep.symm.trans h
    rw [commit] at hcommit
    split at hcommit
    · rename_i hwrite
      obtain rfl := Except.error.inj (Prod.mk.inj hcommit).1
      have hd' : ({ s with log } : Session).disk.Grounded := hd
      exact Session.foreseen_of_write hd' ((s.load_log log _).trans hload) hwrite
    · cases (Prod.mk.inj hcommit).1

/-- **So does a run.** -/
theorem foreseen_of_run (hpolicy : e.policy = P.apply) (hd : s.disk.Grounded)
    {locations : List Location} (h : (e.run locations s).1 = .error failure) :
    failure.Foreseen := by
  obtain ⟨j, location, records, t, -, hrun, hfail⟩ :=
    exists_prefix_of_runFrom _ [] s (Prod.ext h rfl : e.run locations s = (.error failure, _))
  -- The steps before the one that fails have written files, but made or removed no folder.
  have hprefix : (e.runFrom [] ((Location.sort locations).take j) s).2.disk.Grounded := by
    refine runFrom_preserves (P := fun t => t.disk.Grounded) (fun _ _ h => h)
      (fun location index t ht => ?_) _ [] s hd
    have hconfined : Session.Confined Set.univ t (e.replaceAt location index t).2 :=
      confined_replaceAt location index t fun _ => trivial
    exact hconfined.folders.grounded ht
  have ht : t.disk.Grounded := by rwa [hrun] at hprefix
  exact foreseen_of_replaceAt hpolicy ht hfail

end Editor

/-! ## Reports -/

namespace Report

variable {separator text : Text} {layout : Layout}

/-- **A report is refused for a foreseen reason**, if a level has columns. -/
theorem foreseen_of_parse {failure : Failure} (hunit : layout.indentUnit ≠ 0)
    (h : parse separator layout text = .error failure) : (Failure.ofReport failure).Foreseen := by
  rw [parse] at h
  split at h
  · rename_i houtline
    obtain rfl := Except.error.inj h
    obtain ⟨raw, -, n, hline⟩ := exists_line_of_outlineFrom_error houtline
    rcases readLine_eq_error hline with ⟨hzero, -⟩ | ⟨digits, rfl⟩ | rfl
    · exact absurd hzero hunit
    · exact .inr (.inl rfl)
    · exact Failure.foreseen_ofFault _
  split at h
  · rename_i hsites
    obtain rfl := Except.error.inj h
    rw [sites] at hsites
    split at hsites
    · rename_i hrun
      obtain rfl := Except.error.inj hsites
      obtain ⟨node, -, flaw, rfl⟩ := Reader.exists_flaw_of_run hrun
      exact Failure.foreseen_ofFault _
    · cases hsites
  · cases h

end Report

/-! ## Commands -/

namespace Command

variable {disk : Disk} {f : Flags} {s : Settings} {failure : Failure}

theorem foreseen_of_loadSettings (h : loadSettings disk f = .error (.failed failure)) :
    failure.Foreseen := by
  have hchecked {checked : Checked Settings} : ofChecked checked ≠ .error (.failed failure) := by
    cases checked <;> simp [ofChecked]
  rw [loadSettings] at h
  split at h
  · rename_i reason hbase
    obtain rfl := Except.error.inj h
    rw [baseSettings.eq_def] at hbase
    split at hbase
    · cases hbase
    rw [readSettings] at hbase
    split at hbase
    · rename_i hread
      obtain rfl := NoSettings.failed.inj (Except.error.inj hbase)
      exact Disk.foreseen_of_readPlain hread
    · exact absurd hbase hchecked
  · exact absurd h hchecked

theorem foreseen_of_loadReport (hunit : s.indentUnit ≠ 0)
    (h : (loadReport disk s).1 = .error failure) : failure.Foreseen := by
  simp only [loadReport, Report.load] at h
  split at h
  · rename_i hread
    exact Except.error.inj h ▸ Disk.foreseen_of_readPlain hread
  split at h
  · rename_i hparse
    exact Except.error.inj h ▸ Report.foreseen_of_parse hunit hparse
  · cases h

theorem foreseen_of_perform (hvalid : s.Valid) (hd : disk.Grounded)
    (h : (perform disk s).1 = .error failure) : failure.Foreseen := by
  obtain ⟨log, ⟨failure', hreport, heq⟩ | ⟨sites, -, ⟨failure', hnone, -⟩ | ⟨policy, -, heq⟩⟩⟩ :=
    perform_cases disk s
  · rw [heq] at h
    obtain rfl := Except.error.inj h
    exact foreseen_of_loadReport hvalid.indentUnit_ne_zero hreport
  · obtain ⟨policy, hpolicy⟩ := hvalid.exists_policy
    cases hpolicy.symm.trans hnone
  · rw [heq] at h
    have hpolicy : (s.editor policy).policy = policy.apply := rfl
    exact Editor.foreseen_of_run hpolicy hd h

/-- **An ending that is foreseen**: an exit with one of three codes, or the failure of a conversion
or of the name of an encoding, which is passed on. -/
def Ending.Foreseen (ending : Ending) : Prop :=
  ending = .exit 0 ∨ ending = .exit 1 ∨ ending = .exit 2
    ∨ ∃ failure, ending = .failed failure
      ∧ (failure.isConversion = true ∨ failure = .encoding .nullName)

theorem ending_giveUp (hfailure : failure.Foreseen) (log : List Event) (disk : Disk) :
    (giveUp failure log disk).ending.Foreseen := by
  rw [giveUp]
  split
  · exact .inr (.inl rfl)
  · rename_i horderly
    exact .inr (.inr (.inr ⟨failure, rfl, hfailure.resolve_left horderly⟩))

theorem ending_refuseSettings {reason : NoSettings}
    (h : ∀ failure, reason = .failed failure → failure.Foreseen) (disk : Disk) :
    (refuseSettings disk reason).ending.Foreseen := by
  cases reason with
  | refused complaints => exact .inr (.inr (.inl rfl))
  | failed failure =>
    rw [refuseSettings]
    split
    · exact .inr (.inr (.inl rfl))
    · rename_i horderly
      exact .inr (.inr (.inr ⟨failure, rfl, (h failure rfl).resolve_left horderly⟩))

/-- **Once its flags are known, a command comes to a foreseen end.** -/
theorem ending_runFlags (hd : disk.Grounded) (f : Flags) :
    (runFlags disk f).ending.Foreseen := by
  rw [runFlags]
  cases hsettings : loadSettings disk f with
  | error reason =>
    exact ending_refuseSettings (fun failure h => foreseen_of_loadSettings (h ▸ hsettings)) disk
  | ok s =>
    have hvalid := valid_of_loadSettings hsettings
    dsimp only
    split
    · rw [listSites]
      rcases hload : loadReport disk s with ⟨failure | sites, log⟩
      · have hfailure := foreseen_of_loadReport hvalid.indentUnit_ne_zero (congrArg Prod.fst hload)
        exact ending_giveUp hfailure log disk
      · exact .inl rfl
    · rw [replaceCalls]
      rcases hperform : perform disk s with ⟨failure | records, session⟩
      · have hfailure := foreseen_of_perform hvalid hd (congrArg Prod.fst hperform)
        exact ending_giveUp hfailure session.log session.disk
      · exact .inl rfl

/-- **What valid settings rule out**, whatever the report and the sources are. -/
structure Unfailing (s : Settings) : Prop where
  /-- Every level of the report has columns. -/
  indent : ∀ text, Report.parse s.pathSeparator ⟨s.indentUnit, s.marginThreshold⟩ text
    ≠ .error .zeroIndent
  /-- The headings of a path are there when they are looked up, and a path has a last one. -/
  headings : ∀ nodes, Report.sitesByPlace s.pathSeparator nodes
    = (Report.sites s.pathSeparator nodes).mapError .refused
  /-- There is a policy of the name. -/
  policy : ∃ policy, s.buildPolicy = .ok policy
  /-- A line that is counted is found. -/
  line : ∀ policy location target index code,
    (s.editor policy).edit location target index code ≠ .error .noSuchLine
  /-- A call that is found is not malformed. -/
  call : ∀ code found flaw, Call.find s.functionName code = some found →
    Call.split found.after = .error flaw → flaw.kind = .unbalanced
  /-- A file of which a backup is due has a name. -/
  backup : ∀ policy sites session path, session.disk.Grounded →
    ((s.editor policy).run sites session).1 ≠ .error (.disk (.nameless path))

theorem unfailing_of_valid (hvalid : s.Valid) : Unfailing s where
  indent text h := by
    have hforeseen := Report.foreseen_of_parse hvalid.indentUnit_ne_zero h
    simp [Failure.Foreseen, Failure.ofReport, Failure.isOrderly, Failure.isConversion] at hforeseen
  headings := Report.sitesByPlace_eq s.pathSeparator
  policy := hvalid.exists_policy
  line policy location target index code h := by
    have hpolicy : (s.editor policy).policy = policy.apply := rfl
    have hforeseen := Editor.foreseen_of_edit hpolicy h
    simp [Failure.Foreseen, Failure.isOrderly, Failure.isConversion] at hforeseen
  call _ _ _ := Call.kind_of_split_found
  backup policy sites session path hd h := by
    have hpolicy : (s.editor policy).policy = policy.apply := rfl
    have hforeseen := Editor.foreseen_of_run hpolicy hd h
    simp [Failure.Foreseen, Failure.isOrderly, Failure.isConversion] at hforeseen

/-- **Only conversions escape.**  A command whose words are accepted exits with one of three codes,
or passes a failure on that comes from a conversion, from a path with a null character or from the
name of an encoding with one.  Settings that passed their checks rule all other failures out. -/
theorem only_conversions_escape :
    (∀ (words : List Text) (disk : Disk) (f : Flags), disk.Grounded →
      Flags.parse words = .ok f → (run words disk).ending.Foreseen)
    ∧ ∀ (fields : List (Text × Json)) (s : Settings), Settings.ofFields fields = .ok s →
      Unfailing s := by
  refine ⟨fun words disk f hd hflags => ?_, fun fields s h => ?_⟩
  · have hrun : (run words disk).ending = (runFlags disk f).ending := by
      simp only [run, hflags, Outcome.showing]
    rw [hrun]
    exact ending_runFlags hd f
  · exact unfailing_of_valid (Settings.valid_of_ofFields h)

/-- A run in place with backups ends as foreseen, and the settings without any fields, which are the
defaults, fail in none of these ways. -/
theorem only_conversions_escape_backup :
    (run backupWords shortDisk).ending.Foreseen ∧ Unfailing {} := by
  have hflags : Flags.parse backupWords = .ok backupFlags := by decide +kernel
  exact ⟨only_conversions_escape.1 backupWords shortDisk backupFlags rfl hflags,
    only_conversions_escape.2 [] {} rfl⟩

/-- A configuration whose encoding has a name of one null character. -/
def nullDisk : Disk :=
  { entries := [(["c".toList],
        .file (Utf8.encode "\x7b\"encoding\": \"\\u0000\"\x7d".toList)),
      (["r".toList], .file [])] }

/-- **A null character in the name of an encoding escapes, too**: no conversion has failed, as the
name is not even looked up. -/
theorem null_encoding_escapes :
    ¬ ∀ (words : List Text) (disk : Disk) (f : Flags), disk.Grounded →
      Flags.parse words = .ok f →
      (run words disk).ending = .exit 0 ∨ (run words disk).ending = .exit 1
        ∨ (run words disk).ending = .exit 2
        ∨ ∃ failure, (run words disk).ending = .failed failure ∧ failure.isConversion = true := by
  intro hescapes
  let words : List Text := ["--report=r".toList, "--config=c".toList]
  let f : Flags := { report := some (.text "r".toList), config := some (.text "c".toList) }
  let s : Settings := { reportPath := "r".toList, encoding := ['\x00'] }
  have hflags : Flags.parse words = .ok f := by decide +kernel
  have hsettings : loadSettings nullDisk f = .ok s := by cbv
  have hending : (run words nullDisk).ending = .failed (.encoding .nullName) := by
    simp only [run, hflags, runFlags, hsettings]
    decide +kernel
  have hgrounded : nullDisk.Grounded := rfl
  have hallowed := hescapes words nullDisk f hgrounded hflags
  simp [hending, Failure.isConversion] at hallowed

end Command

end CallEdits
