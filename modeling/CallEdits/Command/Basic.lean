import CallEdits.Command.Flags
import CallEdits.Report.File
import CallEdits.Settings.Check

/-!
# Command/Basic — the command, from its words to its outcome

    words ──▸ flags ──▸ settings ──▸ report ──▸ run ──▸ outcome

The command is a function from its words and the disk to an outcome: how it ends, what it prints,
what it logs, and the disk it leaves.  Bad settings end it with exit code 2, and an orderly failure
of the run with 1; any other failure is passed on as it is.
-/

namespace CallEdits.Command

/-- **How the command ends.** -/
inductive Ending
  | exit (code : Nat)
  /-- The words are refused; the exit code is 2. -/
  | refused (refusal : Refusal)
  /-- Help was asked for; the exit code is 0. -/
  | help
  /-- A failure that the command does not handle. -/
  | failed (failure : Failure)
  deriving DecidableEq

/-- **What the command does.**  The log is in the order of the events. -/
structure Outcome where
  ending : Ending
  output : Text := []
  log : List Event := []
  disk : Disk
  deriving DecidableEq

/-! ## Settings -/

/-- Why there are no settings. -/
inductive NoSettings
  | refused (complaints : List Complaint)
  | failed (failure : Failure)
  deriving DecidableEq

/-- What an option is given, as a value of a document; nothing is the empty list. -/
def Given.toJson : Given → Json
  | .text t => .text t
  | .nothing => .list []

/-- The fields of the settings that the flags give. -/
def Flags.changes (f : Flags) : List (Text × Json) :=
  let given (name : String) (value : Option Given) : List (Text × Json) :=
    (value.map fun g => (name.toList, g.toJson)).toList
  let turnedOn (name : String) (on : Bool) : List (Text × Json) :=
    if on then [(name.toList, .bool true)] else []
  given "report_path" f.report ++ given "function_name" f.function ++ given "root" f.root
    ++ given "policy" f.policy ++ given "path_separator" f.separator
    ++ turnedOn "dry_run" f.dryRun ++ turnedOn "backup" f.backup

/-- Settings or complaints. -/
def ofChecked : Checked Settings → Except NoSettings Settings
  | .ok s => .ok s
  | .error complaints => .error (.refused complaints)

/-- The settings of a configuration file. -/
def readSettings (disk : Disk) (path : Text) : Except NoSettings Settings :=
  match disk.readPlain (Path.ofText path) "utf-8".toList with
  | .error failure => .error (.failed failure)
  | .ok text => ofChecked (Settings.ofText text)

/-- The path of the configuration file; an empty one means that there is no file. -/
def Flags.configPath? (f : Flags) : Option Text :=
  match f.config with
  | some (.text (c :: r)) => some (c :: r)
  | _ => none

/-- The settings before flags are looked at. -/
def baseSettings (disk : Disk) (config : Option Text) : Except NoSettings Settings :=
  match config with
  | none => .ok {}
  | some path => readSettings disk path

/-- **The settings of a command**: those of the file, with what the flags say put over them. -/
def loadSettings (disk : Disk) (f : Flags) : Except NoSettings Settings :=
  match baseSettings disk f.configPath? with
  | .error reason => .error reason
  | .ok base => ofChecked (base.override f.changes)

/-! ## The run -/

/-- The sites of the report that the settings name, and the log of reading it. -/
def loadReport (disk : Disk) (s : Settings) : Except Failure (List Location) × List Event :=
  Report.load disk s.reportPath s.encoding s.pathSeparator ⟨s.indentUnit, s.marginThreshold⟩

/-- **Replace the calls that the report lists.** -/
def perform (disk : Disk) (s : Settings) : Except Failure (List Record) × Session :=
  match loadReport disk s with
  | (.error failure, log) => (.error failure, { disk, store := s.store, log })
  | (.ok sites, log) =>
    let session : Session := { disk, store := s.store, log }
    match s.buildPolicy with
    | .error failure => (.error failure, session)
    | .ok policy => (s.editor policy).run sites session

/-! ## Outcomes -/

/-- The outcome of a failure: an orderly one is logged. -/
def giveUp (failure : Failure) (log : List Event) (disk : Disk) : Outcome :=
  if failure.isOrderly then
    { ending := .exit 1, log := (.aborted failure.message :: log).reverse, disk }
  else { ending := .failed failure, log := log.reverse, disk }

/-- The sites of the report, one a line. -/
def listing (sites : List Location) : Text := sites.flatMap fun l => l.render ++ ['\n']

/-- What a dry run would change, one file a line. -/
def forecast (s : Session) : Text :=
  s.store.changed.flatMap fun path =>
    "[DRY] ".toList ++ path ++ ": would be rewritten (".toList ++ Numeral.signed (s.shift path)
      ++ " line(s))\n".toList

/-- List the sites and change nothing. -/
def listSites (disk : Disk) (s : Settings) : Outcome :=
  match loadReport disk s with
  | (.error failure, log) => giveUp failure log disk
  | (.ok sites, log) => { ending := .exit 0, output := listing sites, log := log.reverse, disk }

/-- Replace the calls, and say what was changed. -/
def replaceCalls (disk : Disk) (s : Settings) : Outcome :=
  match perform disk s with
  | (.error failure, session) => giveUp failure session.log session.disk
  | (.ok _, session) =>
    let session := session.note (.done session.store.changed.length)
    { ending := .exit 0, output := if s.dryRun then forecast session else [],
      log := session.log.reverse, disk := session.disk }

/-- The outcome without settings. -/
def refuseSettings (disk : Disk) : NoSettings → Outcome
  | .refused _ => { ending := .exit 2, log := [.invalidSettings none], disk }
  | .failed failure =>
    if failure.isOrderly then
      { ending := .exit 2, log := [.invalidSettings (some failure.message)], disk }
    else { ending := .failed failure, disk }

/-- The command once its flags are known. -/
def runFlags (disk : Disk) (f : Flags) : Outcome :=
  match loadSettings disk f with
  | .error reason => refuseSettings disk reason
  | .ok s => if f.list then listSites disk s else replaceCalls disk s

/-- Keep the events that are shown. -/
def Outcome.showing (o : Outcome) (verbose : Bool) : Outcome :=
  { o with log := o.log.filter (·.isShown verbose) }

/-- **The command.** -/
def run (words : List Text) (disk : Disk) : Outcome :=
  match Flags.parse words with
  | .error .help => { ending := .help, disk }
  | .error (.refused refusal) => { ending := .refused refusal, disk }
  | .ok f => (runFlags disk f).showing f.verbose

end CallEdits.Command
