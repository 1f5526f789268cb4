import CallEdits.Json.Reader
import CallEdits.Settings.Basic
import CallEdits.Settings.Integer
import CallEdits.Text.Identifier

/-!
# Settings/Check — settings out of a document

Each field of the document is checked on its own, and all complaints are collected, in the order in
which the settings are declared.  Fields that are absent keep their defaults, and unknown ones are
passed over.  Numbers and truth values may also be written as text.
-/

namespace CallEdits

/-! ## Complaints -/

/-- A step on the way to a value. -/
inductive Place
  | field (name : Text)
  | item (index : Nat)
  deriving DecidableEq

/-- What a value is refused for. -/
inductive Objection
  /-- The text is no JSON document. -/
  | notJson
  | notObject
  | notText
  | notList
  | notInteger
  /-- A text that spells no whole number. -/
  | notIntegerText
  /-- A number with a fraction. -/
  | fractional
  /-- A number that is not finite. -/
  | notFinite
  /-- A decimal or a text too large for a whole number. -/
  | tooLarge
  | belowBound
  | notBoolean
  /-- A number or a text that stands for no truth value. -/
  | notBooleanText
  /-- Not one of the names of a policy. -/
  | notPolicy
  | notIdentifier (text : Text)
  deriving DecidableEq

/-- **A complaint about a value of the document.** -/
structure Complaint where
  place : List Place := []
  objection : Objection
  deriving DecidableEq

/-- The note that goes with a complaint, where it has one. -/
def Complaint.note? (c : Complaint) : Option Text :=
  match c.objection with
  | .notIdentifier t => some ("Value error, not a C identifier: ".toList ++ Text.quoted t)
  | _ => none

/-- A value, or all complaints about it. -/
abbrev Checked (α : Type) := Except (List Complaint) α

/-- Apply a checked function to a checked value; complaints of both are kept. -/
def Checked.apply {α β : Type} (f : Checked (α → β)) (a : Checked α) : Checked β :=
  match f, a with
  | .ok f, .ok a => .ok (f a)
  | .ok _, .error ys => .error ys
  | .error xs, .ok _ => .error xs
  | .error xs, .error ys => .error (xs ++ ys)

namespace Settings

/-! ## Values -/

/-- A value that has to be text. -/
def checkText : Json → Except Objection Text
  | .text t => .ok t
  | _ => .error .notText

/-- A name of a function. -/
def checkIdentifier (v : Json) : Except Objection Text :=
  match checkText v with
  | .error o => .error o
  | .ok t => if t.isIdentifier then .ok t else .error (.notIdentifier t)

/-- A name of a function, or null. -/
def checkOptionalIdentifier : Json → Except Objection (Option Text)
  | .null => .ok none
  | v => (checkIdentifier v).map some

/-- What is objected to in a text that is no whole number. -/
def IntegerFlaw.objection : IntegerFlaw → Objection
  | .malformed => .notIntegerText
  | .tooLarge => .tooLarge

/-- Lies a number in the range of signed words of 64 bits? -/
def isWord (n : Int) : Bool := -(Nat.pow 2 63 : Int) ≤ n && n < (Nat.pow 2 63 : Int)

/-- Is a decimal that comes to `n` taken as a whole number?  The lower end of the range is not. -/
def isWholeDecimal (n : Int) : Bool := n.natAbs < Nat.pow 2 63

/-- A value that has to be a whole number. -/
def checkInteger : Json → Except Objection Int
  | .int n => .ok n
  | .bool b => .ok (if b then 1 else 0)
  | .decimal .infinite => .error .notFinite
  | .decimal .notANumber => .error .notFinite
  | .decimal d =>
    match d.size with
    | .unbounded => .error .notFinite
    | .fractional => .error .fractional
    | .whole n => if isWholeDecimal n then .ok n else .error .tooLarge
  | .text t => (integerOfText t).mapError IntegerFlaw.objection
  | _ => .error .notInteger

/-- A whole number that may not lie below a bound. -/
def checkBounded (bound : Int) (v : Json) : Except Objection Int :=
  match checkInteger v with
  | .error o => .error o
  | .ok n => if bound ≤ n then .ok n else .error .belowBound

/-- The truth value that a word spells, in whatever case. -/
def boolOfText? (t : Text) : Option Bool :=
  let word := String.ofList (t.map Char.toLower)
  if word ∈ ["1", "on", "t", "true", "y", "yes"] then some true
  else if word ∈ ["0", "off", "f", "false", "n", "no"] then some false
  else none

/-- The truth value that a number stands for. -/
def boolOfInteger (n : Int) : Except Objection Bool :=
  if n = 0 then .ok false else if n = 1 then .ok true else .error .notBooleanText

/-- A value that has to be a truth value.  A number out of range is none at all. -/
def checkBool : Json → Except Objection Bool
  | .bool b => .ok b
  | .int n => if isWord n then boolOfInteger n else .error .notBoolean
  | .decimal d =>
    match d.size with
    | .whole n => if isWholeDecimal n then boolOfInteger n else .error .notBoolean
    | _ => .error .notBoolean
  | .text t =>
    match boolOfText? t with
    | some b => .ok b
    | none => .error .notBooleanText
  | _ => .error .notBoolean

/-- The name of a policy. -/
def checkPolicy : Json → Except Objection Text
  | .text t => if t = diagnosticName ∨ t = leadingName then .ok t else .error .notPolicy
  | _ => .error .notPolicy

/-! ## Fields -/

/-- A field checked by `check`, or its default. -/
def field {α : Type} (fields : List (Text × Json)) (name : String)
    (check : Json → Except Objection α) (default : α) : Checked α :=
  match Json.field? fields name.toList with
  | none => .ok default
  | some v =>
    match check v with
    | .ok a => .ok a
    | .error o => .error [⟨[.field name.toList], o⟩]

/-- The complaints about items that are not texts, numbered from `index`. -/
def itemComplaints (name : Text) (index : Nat) : List Json → List Complaint
  | [] => []
  | .text _ :: rest => itemComplaints name (index + 1) rest
  | _ :: rest => ⟨[.field name, .item index], .notText⟩ :: itemComplaints name (index + 1) rest

/-- The items that are texts. -/
def textItems (items : List Json) : List Text :=
  items.filterMap fun
    | .text t => some t
    | _ => none

/-- A field that has to be a list of texts, or its default. -/
def textListField (fields : List (Text × Json)) (name : String) (default : List Text) :
    Checked (List Text) :=
  match Json.field? fields name.toList with
  | none => .ok default
  | some (.list items) =>
    match itemComplaints name.toList 0 items with
    | [] => .ok (textItems items)
    | complaints => .error complaints
  | some _ => .error [⟨[.field name.toList], .notList⟩]

/-- **The settings that the fields of a document give.** -/
def ofFields (fields : List (Text × Json)) : Checked Settings :=
  let d : Settings := {}
  let start : Checked _ := .ok Settings.mk
  start
    |>.apply (field fields "report_path" checkText d.reportPath)
    |>.apply (field fields "root" checkText d.root)
    |>.apply (field fields "encoding" checkText d.encoding)
    |>.apply (field fields "path_separator" checkText d.pathSeparator)
    |>.apply (field fields "indent_unit" (checkBounded 1) d.indentUnit)
    |>.apply (field fields "margin_threshold" (checkBounded 0) d.marginThreshold)
    |>.apply (field fields "function_name" checkIdentifier d.functionName)
    |>.apply (textListField fields "declaration_suffixes" d.declarationSuffixes)
    |>.apply (field fields "policy" checkPolicy d.policy)
    |>.apply (field fields "id_expression" checkText d.idExpression)
    |>.apply (field fields "id_start" checkInteger d.idStart)
    |>.apply (field fields "id_prefix" checkText d.idStem)
    |>.apply (field fields "rename_to" checkOptionalIdentifier d.renameTo)
    |>.apply (field fields "diagnostic_function" checkText d.diagnosticFunction)
    |>.apply (field fields "diagnostic_marker" checkText d.diagnosticMarker)
    |>.apply (field fields "diagnostic_from" (checkBounded 0) d.diagnosticFrom)
    |>.apply (field fields "dry_run" checkBool d.dryRun)
    |>.apply (field fields "backup" checkBool d.backup)

/-- **The settings of a document.** -/
def ofJson : Json → Checked Settings
  | .object fields => ofFields fields
  | _ => .error [⟨[], .notObject⟩]

/-- The settings of a text that holds a document. -/
def ofText (t : Text) : Checked Settings :=
  match Json.read? t with
  | none => .error [⟨[], .notJson⟩]
  | some v => ofJson v

/-! ## Settings as a document -/

/-- The fields of a document that gives these settings. -/
def fields (s : Settings) : List (Text × Json) := [
    ("report_path".toList, .text s.reportPath),
    ("root".toList, .text s.root),
    ("encoding".toList, .text s.encoding),
    ("path_separator".toList, .text s.pathSeparator),
    ("indent_unit".toList, .int s.indentUnit),
    ("margin_threshold".toList, .int s.marginThreshold),
    ("function_name".toList, .text s.functionName),
    ("declaration_suffixes".toList, .list (s.declarationSuffixes.map .text)),
    ("policy".toList, .text s.policy),
    ("id_expression".toList, .text s.idExpression),
    ("id_start".toList, .int s.idStart),
    ("id_prefix".toList, .text s.idStem),
    ("rename_to".toList, match s.renameTo with
      | none => .null
      | some name => .text name),
    ("diagnostic_function".toList, .text s.diagnosticFunction),
    ("diagnostic_marker".toList, .text s.diagnosticMarker),
    ("diagnostic_from".toList, .int s.diagnosticFrom),
    ("dry_run".toList, .bool s.dryRun),
    ("backup".toList, .bool s.backup)]

/-- **Settings with some fields replaced.**  The result is checked again as a whole. -/
def override (s : Settings) (changes : List (Text × Json)) : Checked Settings :=
  ofFields (s.fields ++ changes)

end Settings

end CallEdits
