import CallEdits.Editor

/-!
# Settings/Basic — what a run is asked to do

The settings say where the report and the sources are, how the report is laid out, which calls are
replaced and by what.  A policy is kept by its name, which is looked up when the run starts.
-/

namespace CallEdits

/-- **The settings of a run.** -/
structure Settings where
  reportPath : Text := "tools/report.txt".toList
  root : Text := ".".toList
  encoding : Text := "utf-8".toList
  pathSeparator : Text := ['/']
  indentUnit : Int := 4
  marginThreshold : Int := 2
  functionName : Text := "last_error_set".toList
  declarationSuffixes : List Text := [".h".toList]
  policy : Text := "diagnostic".toList
  idExpression : Text := "BASE_ERROR_ID".toList
  idStart : Int := 0
  idStem : Text := "ERR_".toList
  renameTo : Option Text := none
  diagnosticFunction : Text := "printf".toList
  diagnosticMarker : Text := "/* TO-DELETE */".toList
  diagnosticFrom : Int := 3
  dryRun : Bool := false
  backup : Bool := false
  deriving DecidableEq

namespace Settings

/-- The name of the diagnostic policy. -/
def diagnosticName : Text := "diagnostic".toList

/-- The name of the leading-argument policy. -/
def leadingName : Text := "leading-argument".toList

/-- **The policy that the settings name.** -/
def buildPolicy (s : Settings) : Except Failure Policy :=
  if s.policy = diagnosticName then
    .ok (.diagnostic
      { idExpression := s.idExpression, idStart := s.idStart, function := s.diagnosticFunction,
        marker := s.diagnosticMarker, passFrom := s.diagnosticFrom })
  else if s.policy = leadingName then
    .ok (.leading { idStem := s.idStem, idStart := s.idStart, renameTo := s.renameTo })
  else .error (.unknownPolicy s.policy)

/-- A fresh store of the sources. -/
def store (s : Settings) : Store :=
  { root := Path.ofText s.root, encoding := s.encoding,
    mode := if s.dryRun then .dry else .inPlace s.backup }

/-- The editor that applies a policy. -/
def editor (s : Settings) (policy : Policy) : Editor :=
  { function := s.functionName, policy := policy.apply,
    declarationSuffixes := s.declarationSuffixes }

end Settings

end CallEdits
