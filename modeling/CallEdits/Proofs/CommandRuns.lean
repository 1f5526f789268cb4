import CallEdits.Command.Basic
import CallEdits.Proofs.Declarations
import CallEdits.Proofs.LineBalance
import CallEdits.Proofs.ReadRows

/-!
# Proofs/CommandRuns — what a command leaves on the disk

    words ──▸ flags ──▸ settings ──▸ report ──▸ policy ──▸ run

Up to the run a command only looks: it reads the file of the settings and that of the report.  So
there are few ways for it to change anything, and `perform_cases` says where the run begins.  What
the run does it does for the sites of the report that hold no declarations (`confined_run`), and
nothing that it does reaches the disk if it is dry (`disk_run_dry`).
-/

namespace CallEdits

namespace Editor

/-- **A dry run leaves the disk as it is**, whatever comes of it. -/
theorem disk_run_dry (e : Editor) (locations : List Location) {s : Session}
    (hdry : s.store.mode = .dry) : (e.run locations s).2.disk = s.disk := by
  have hrun : (e.run locations s).2.store.mode = .dry ∧ (e.run locations s).2.disk = s.disk := by
    refine runFrom_preserves (P := fun t => t.store.mode = .dry ∧ t.disk = s.disk) (fun _ _ h => h)
      (fun location index t h => ?_) (Location.sort locations) [] s ⟨hdry, rfl⟩
    obtain ⟨log, ⟨-, hstep⟩ | ⟨-, failure, hstep, -⟩ | ⟨-, code, edit, -, -, hstep⟩⟩ :=
      e.replaceAt_cases location index t
    · rw [hstep]
      exact h
    · rw [hstep]
      exact h
    · have hlog : ({ t with log } : Session).store.mode = .dry := h.1
      obtain ⟨log', hcommit⟩ := commit_dry hlog location (t.shift location.path) edit
      rw [hstep, hcommit]
      exact h
  exact hrun.2

end Editor

namespace Command

variable {words : List Text} {disk : Disk} {f : Flags} {s : Settings}

/-! ## The stages of a command -/

/-- **What comes of the report**: without it nothing is done; with it, and a policy, the run
begins. -/
theorem perform_cases (disk : Disk) (s : Settings) :
    ∃ log, (∃ failure, (loadReport disk s).1 = .error failure
        ∧ perform disk s = (.error failure, { disk, store := s.store, log }))
      ∨ ∃ sites, (loadReport disk s).1 = .ok sites
        ∧ ((∃ failure, s.buildPolicy = .error failure
            ∧ perform disk s = (.error failure, { disk, store := s.store, log }))
          ∨ ∃ policy, s.buildPolicy = .ok policy
            ∧ perform disk s = (s.editor policy).run sites { disk, store := s.store, log }) := by
  rw [perform]
  rcases loadReport disk s with ⟨failure | sites, log⟩
  · exact ⟨log, .inl ⟨failure, rfl, rfl⟩⟩
  · refine ⟨log, .inr ⟨sites, rfl, ?_⟩⟩
    cases s.buildPolicy with
    | error failure => exact .inl ⟨failure, rfl, rfl⟩
    | ok policy => exact .inr ⟨policy, rfl, rfl⟩

theorem disk_giveUp (failure : Failure) (log : List Event) (disk : Disk) :
    (giveUp failure log disk).disk = disk := by
  rw [giveUp]
  split <;> rfl

theorem disk_listSites (disk : Disk) (s : Settings) : (listSites disk s).disk = disk := by
  rw [listSites]
  rcases loadReport disk s with ⟨failure | sites, log⟩
  · exact disk_giveUp failure log disk
  · rfl

theorem disk_replaceCalls (disk : Disk) (s : Settings) :
    (replaceCalls disk s).disk = (perform disk s).2.disk := by
  rw [replaceCalls]
  rcases perform disk s with ⟨failure | records, session⟩
  · exact disk_giveUp failure session.log session.disk
  · rfl

theorem disk_refuseSettings (disk : Disk) (reason : NoSettings) :
    (refuseSettings disk reason).disk = disk := by
  cases reason with
  | refused complaints => rfl
  | failed failure =>
    rw [refuseSettings]
    split <;> rfl

/-- **When a command has begun a run**: it has flags, settings and a report, and is asked neither
for a list nor for a dry run. -/
structure Begins (words : List Text) (disk : Disk) (s : Settings) (sites : List Location) :
    Prop where
  flags : ∃ f, Flags.parse words = .ok f ∧ f.list = false ∧ loadSettings disk f = .ok s
  inPlace : s.dryRun = false
  report : (loadReport disk s).1 = .ok sites

/-- With settings and no list to print, calls are replaced. -/
theorem disk_run_of_settings (hflags : Flags.parse words = .ok f) (hlist : f.list = false)
    (hsettings : loadSettings disk f = .ok s) :
    (run words disk).disk = (perform disk s).2.disk := by
  rw [← disk_replaceCalls]
  simp [run, hflags, runFlags, hsettings, hlist, Outcome.showing]

/-- **The disk that is left** is the one before, or that of a run which has begun. -/
theorem disk_run (words : List Text) (disk : Disk) :
    (run words disk).disk = disk
      ∨ ∃ s sites policy log, Begins words disk s sites ∧ (run words disk).disk
        = ((s.editor policy).run sites { disk, store := s.store, log }).2.disk := by
  rcases hflags : Flags.parse words with (_ | refusal) | f
  · exact .inl (by simp [run, hflags])
  · exact .inl (by simp [run, hflags])
  cases hsettings : loadSettings disk f with
  | error reason =>
    left
    simp [run, hflags, runFlags, hsettings, Outcome.showing, disk_refuseSettings]
  | ok s =>
    cases hlist : f.list with
    | true =>
      left
      simp [run, hflags, runFlags, hsettings, hlist, Outcome.showing, disk_listSites]
    | false =>
      rw [disk_run_of_settings hflags hlist hsettings]
      obtain ⟨log, ⟨failure, -, h⟩ | ⟨sites, hreport, ⟨failure, -, h⟩ | ⟨policy, -, h⟩⟩⟩ :=
        perform_cases disk s
      · exact .inl (by rw [h])
      · exact .inl (by rw [h])
      rw [h]
      cases hdry : s.dryRun with
      | true => exact .inl (Editor.disk_run_dry _ sites (if_pos hdry))
      | false =>
        exact .inr ⟨s, sites, policy, log, ⟨⟨f, hflags, hlist, hsettings⟩, hdry, hreport⟩, rfl⟩

/-! ## Which files are written -/

/-- **When a command only looks.** -/
inductive OnlyLooks (words : List Text) (disk : Disk) : Prop
  /-- It is asked for a list. -/
  | list (f : Flags) (hflags : Flags.parse words = .ok f) (hlist : f.list = true)
  /-- Its settings are refused, or their file cannot be read. -/
  | noSettings (f : Flags) (reason : NoSettings) (hflags : Flags.parse words = .ok f)
      (hsettings : loadSettings disk f = .error reason)
  /-- Its settings ask for a dry run. -/
  | dry (f : Flags) (s : Settings) (hflags : Flags.parse words = .ok f)
      (hsettings : loadSettings disk f = .ok s) (hdry : s.dryRun = true)
  /-- The report cannot be read or parsed. -/
  | noReport (f : Flags) (s : Settings) (failure : Failure) (hflags : Flags.parse words = .ok f)
      (hsettings : loadSettings disk f = .ok s) (hreport : (loadReport disk s).1 = .error failure)

/-- **The files that may be written for some sites**: that of a site which holds no declarations,
and its backup where backups are made. -/
def Reaches (s : Settings) (disk : Disk) (sites : List Location) (names : List Text) : Prop :=
  ∃ site ∈ sites, (∀ suffix ∈ s.declarationSuffixes, ¬ suffix <:+ site.path.lower)
    ∧ ∃ p, disk.Leads p names
      ∧ (p = Path.ofText s.root ++ Path.ofText site.path
        ∨ s.backup = true
          ∧ (Path.ofText s.root ++ Path.ofText site.path).extend? ".bak".toList = some p)

/-- **A run changes only files of its sites.** -/
theorem reaches_of_run {policy : Policy} {sites : List Location} {log : List Event}
    {names : List Text} (hinPlace : s.dryRun = false)
    (hne : ((s.editor policy).run sites { disk, store := s.store, log }).2.disk.get? names
      ≠ disk.get? names) : Reaches s disk sites names := by
  obtain ⟨path, ⟨⟨site, hsite, rfl⟩, hdecl⟩, p, hopens, hleads⟩ :=
    ((s.editor policy).confined_run sites { disk, store := s.store, log }).files names hne
  refine ⟨site, hsite, fun suffix hsuffix hends => ?_, p, hleads, ?_⟩
  · exact Bool.eq_false_iff.mp hdecl (Editor.isDeclaration_iff.mpr ⟨suffix, hsuffix, hends⟩)
  rcases hopens with rfl | ⟨hmode, hcopy⟩
  · exact .inl rfl
  · have hstore : s.store.mode = .inPlace s.backup := if_neg (by simp [hinPlace])
    exact .inr ⟨Store.Mode.inPlace.inj (hstore.symm.trans hmode), hcopy⟩

/-- A command that only looks begins no run. -/
theorem OnlyLooks.not_begins {sites : List Location} (h : OnlyLooks words disk) :
    ¬ Begins words disk s sites := by
  rintro ⟨⟨f, hflags, hlist, hsettings⟩, hinPlace, hreport⟩
  have hflags' {g : Flags} (h : Flags.parse words = .ok g) : f = g :=
    Except.ok.inj (hflags.symm.trans h)
  cases h with
  | list g h hlist' =>
    obtain rfl := hflags' h
    simp [hlist] at hlist'
  | noSettings g reason h hnone =>
    obtain rfl := hflags' h
    cases hsettings.symm.trans hnone
  | dry g t h hsome hdry =>
    obtain rfl := hflags' h
    obtain rfl := Except.ok.inj (hsettings.symm.trans hsome)
    simp [hinPlace] at hdry
  | noReport g t failure h hsome hnone =>
    obtain rfl := hflags' h
    obtain rfl := Except.ok.inj (hsettings.symm.trans hsome)
    cases hreport.symm.trans hnone

/-- **The files that a command changes.**  However it ends, a command that only looks leaves the
disk as it is; and where any other command changes a file, that is the file of a site of its report
which holds no declarations, or the backup of one where backups are made. -/
theorem run_changes_only_reached_files (words : List Text) (disk : Disk) :
    (OnlyLooks words disk → (run words disk).disk = disk)
      ∧ ∀ names, (run words disk).disk.get? names ≠ disk.get? names →
        ∃ f s sites, Flags.parse words = .ok f ∧ loadSettings disk f = .ok s
          ∧ (loadReport disk s).1 = .ok sites ∧ Reaches s disk sites names := by
  rcases disk_run words disk with hsame | ⟨s, sites, policy, log, hbegins, hrun⟩
  · exact ⟨fun _ => hsame, fun names hne => absurd (by rw [hsame]) hne⟩
  refine ⟨fun hlooks => absurd hbegins hlooks.not_begins, fun names hne => ?_⟩
  rw [hrun] at hne
  obtain ⟨f, hflags, -, hsettings⟩ := hbegins.flags
  exact ⟨f, s, sites, hflags, hsettings, hbegins.report, reaches_of_run hbegins.inPlace hne⟩

/-- The words of a command with backups. -/
def backupWords : List Text :=
  ["--report=r", "--function=f", "--policy=leading-argument", "--backup"].map String.toList

/-- The flags of these words. -/
def backupFlags : Flags :=
  { report := some (.text "r".toList), function := some (.text "f".toList),
    policy := some (.text "leading-argument".toList), backup := true }

/-- The settings that they give. -/
def backupSettings : Settings :=
  { reportPath := "r".toList, functionName := "f".toList, policy := "leading-argument".toList,
    backup := true }

/-- A report of one call. -/
def shortReport : Text :=
  ["            a.c  (1 usage found)",
    "                f  (1 usage found)",
    "                    1 f(a);"].flatMap fun line => line.toList ++ ['\n']

/-- A disk with that report and the file it is about. -/
def shortDisk : Disk :=
  { entries := [(["r".toList], .file (Utf8.encode shortReport)),
      (["a.c".toList], .file (Utf8.encode "f(a);\n".toList))] }

theorem parse_shortReport :
    Report.parse ['/'] {} shortReport = .ok [⟨"a.c".toList, 1⟩] := by
  have hnodes : Report.outline {} shortReport
      = .ok [⟨3, 1, .heading "a.c".toList⟩, ⟨4, 2, .heading "f".toList⟩, ⟨5, 3, .call 1⟩] := by
    decide +kernel
  rw [Report.parse_eq_map hnodes]
  cbv

/-- **A file is made beside the one that the report names**; nothing is if a list is asked for. -/
theorem run_changes_only_reached_files_backup :
    (run backupWords shortDisk).disk.get? ["a.c.bak".toList]
        = some (.file (Utf8.encode "f(a);\n".toList))
      ∧ (∃ f s sites, Flags.parse backupWords = .ok f ∧ loadSettings shortDisk f = .ok s
          ∧ (loadReport shortDisk s).1 = .ok sites
          ∧ Reaches s shortDisk sites ["a.c.bak".toList])
      ∧ (run ("--list".toList :: backupWords) shortDisk).disk = shortDisk := by
  have hflags : Flags.parse backupWords = .ok backupFlags := by decide +kernel
  have hlist : Flags.parse ("--list".toList :: backupWords)
      = .ok { backupFlags with list := true } := by decide +kernel
  have hsettings : loadSettings shortDisk backupFlags = .ok backupSettings := by decide +kernel
  have htext : shortDisk.readPlain (Path.ofText "r".toList) "utf-8".toList
      = .ok shortReport := by decide +kernel
  obtain ⟨log, hperform⟩ : ∃ log, perform shortDisk backupSettings
      = (backupSettings.editor (.leading {})).run [⟨"a.c".toList, 1⟩]
        { disk := shortDisk, store := backupSettings.store, log } := by
    simp only [perform, loadReport, Report.load, backupSettings, htext, parse_shortReport]
    exact ⟨_, rfl⟩
  have hmade : (run backupWords shortDisk).disk.get? ["a.c.bak".toList]
      = some (.file (Utf8.encode "f(a);\n".toList)) := by
    rw [disk_run_of_settings hflags rfl hsettings, hperform]
    cbv
  refine ⟨hmade, (run_changes_only_reached_files backupWords shortDisk).2 _ ?_,
    (run_changes_only_reached_files _ shortDisk).1 (.list _ hlist rfl)⟩
  rw [hmade]
  decide +kernel

end Command

end CallEdits
