import CallEdits.Proofs.CheckedSettings
import Mathlib.Data.List.Basic

/-!
# Proofs/OverriddenSettings — flags put over the settings of a file

    file ──▸ fields ──Gives──▸ base ──fields──▸ fields ++ changes ──Gives──▸ base under the flags

The settings of a file are written out as a document again, what the flags say is put behind its
fields, and the whole is checked a second time.  Two facts say what comes of it.  Valid settings are
given by their own document (`Valid.gives_fields`), so the second check changes and refuses nothing
that the first has let pass.  And of two fields of one name the last counts (`Json.field?_append`),
so a flag decides its own field and no other (`Flags.field?_changes`).

What the second check can still refuse comes from the flags: a function without a proper name, or an
option that is left without a value.  A policy is one of the choices by then, since the words of the
command are refused otherwise (`hasChoice_of_parse`).
-/

namespace CallEdits

/-- Of two documents, the second decides the fields that it has. -/
theorem Json.field?_append (old new : List (Text × Json)) (name : Text) :
    field? (old ++ new) name = (field? new name).or (field? old name) := by
  rw [field?, List.reverse_append, List.lookup_append]
  rfl

theorem Json.field?_singleton (key name : Text) (v : Json) :
    field? [(key, v)] name = if name = key then some v else none := by
  by_cases h : name = key
  · simp [field?, h]
  · have hkey : (name == key) = false := by simpa using h
    simp [field?, List.lookup_cons, h, hkey]

/-! ## Settings as a document -/

namespace Settings

variable {s : Settings}

theorem checkIdentifier_text {t : Text} (h : t.isIdentifier = true) :
    checkIdentifier (.text t) = .ok t :=
  if_pos h

theorem checkPolicy_text {t : Text} (h : t = diagnosticName ∨ t = leadingName) :
    checkPolicy (.text t) = .ok t :=
  if_pos h

/-- **Valid settings are given by their own document.** -/
theorem Valid.gives_fields (h : s.Valid) : Gives s.fields s where
  reportPath := .read rfl rfl
  root := .read rfl rfl
  encoding := .read rfl rfl
  pathSeparator := .read rfl rfl
  indentUnit := .read rfl (if_pos h.indentUnit)
  marginThreshold := .read rfl (if_pos h.marginThreshold)
  functionName := .read rfl (checkIdentifier_text h.functionName)
  declarationSuffixes := .read rfl rfl
  policy := .read rfl (checkPolicy_text h.policy)
  idExpression := .read rfl rfl
  idStart := .read rfl rfl
  idStem := .read rfl rfl
  renameTo := by
    refine .read rfl ?_
    cases hname : s.renameTo with
    | none => rfl
    | some name => exact congrArg (Except.map some) (checkIdentifier_text (h.renameTo name hname))
  diagnosticFunction := .read rfl rfl
  diagnosticMarker := .read rfl rfl
  diagnosticFrom := .read rfl (if_pos h.diagnosticFrom)
  dryRun := .read rfl rfl
  backup := .read rfl rfl

/-- Settings that are found by checking are found again in their own document. -/
theorem ofJson_fields {document : Json} (h : ofJson document = .ok s) :
    ofJson (.object s.fields) = .ok s := by
  rw [ofJson.eq_def] at h
  split at h
  · exact ofFields_eq_ok_iff.mpr (valid_of_ofFields h).gives_fields
  · cases h

end Settings

namespace Command

open Settings

variable {f f' : Flags} {base s : Settings}

/-! ## Words of a command -/

theorem Flags.turnOnAll_preserves {P : Flags → Prop}
    (hturn : ∀ {f f' o}, P f → Flags.turnOn f o = .ok f' → P f') {os : List Opt}
    (h : f.turnOnAll os = .ok f') (hf : P f) : P f' := by
  induction os generalizing f with
  | nil => exact Except.ok.inj h ▸ hf
  | cons o rest ih =>
    rw [turnOnAll] at h
    split at h
    · cases h
    · rename_i hon
      exact ih h (hturn hf hon)

/-- **What giving a value and turning on preserve, all words preserve.** -/
theorem consume_preserves {P : Flags → Prop}
    (hset : ∀ {f f' o g}, P f → Flags.set f o g = .ok f' → P f')
    (hturn : ∀ {f f' o}, P f → Flags.turnOn f o = .ok f' → P f') {left rest : List Text}
    {words : List Word} (h : consume f left words = .ok (f', rest)) (hf : P f) : P f' := by
  fun_induction consume f left words
  case case1 => exact (Prod.mk.inj (Except.ok.inj h)).1 ▸ hf
  case case2 ih | case3 ih | case4 ih => exact ih h hf
  case case6 hgiven ih | case11 hgiven ih => exact ih h (hset hf hgiven)
  case case9 hon ih => exact ih h (hturn hf hon)
  case case16 hon ih => exact ih h (Flags.turnOnAll_preserves hturn hon hf)
  -- In all other cases the word is refused.
  all_goals cases h

theorem mem_policyChoices_iff {t : Text} :
    t ∈ policyChoices ↔ t = diagnosticName ∨ t = leadingName :=
  List.mem_cons.trans (or_congr_right List.mem_singleton)

/-- A policy that is given is one to choose from. -/
def Flags.HasChoice (f : Flags) : Prop := ∀ t, f.policy = some (.text t) → t ∈ policyChoices

theorem Flags.HasChoice.set {o : Opt} {g : Given} (h : f.HasChoice) (hset : f.set o g = .ok f') :
    f'.HasChoice := by
  rw [Flags.set.eq_def] at hset
  split at hset
  case h_7 =>
    split at hset
    · rename_i hchoice
      obtain rfl := Except.ok.inj hset
      rintro t ht
      cases ht
      exact hchoice
    · cases hset
  case h_6 =>
    obtain rfl := Except.ok.inj hset
    exact fun _ ht => nomatch ht
  all_goals exact Except.ok.inj hset ▸ h

theorem Flags.HasChoice.turnOn {o : Opt} (h : f.HasChoice) (hturn : f.turnOn o = .ok f') :
    f'.HasChoice := by
  rw [Flags.turnOn.eq_def] at hturn
  split at hturn
  case h_1 => cases hturn
  all_goals exact Except.ok.inj hturn ▸ h

theorem hasChoice_of_parse {words : List Text} (h : Flags.parse words = .ok f) : f.HasChoice := by
  rw [Flags.parse] at h
  split at h
  · cases h
  split at h
  · cases h
  · rename_i hconsume
    obtain rfl := Except.ok.inj h
    exact consume_preserves .set .turnOn hconsume fun _ ht => nomatch ht
  · cases h

/-! ## What a flag decides -/

/-- The text that an option is given, or what stands there without it. -/
def Given.textOr : Option Given → Text → Text
  | some (.text t), _ => t
  | _, t => t

/-- **Settings under flags**: each flag that is given replaces its own field. -/
def Flags.over (f : Flags) (s : Settings) : Settings :=
  { s with
    reportPath := Given.textOr f.report s.reportPath
    functionName := Given.textOr f.function s.functionName
    root := Given.textOr f.root s.root
    policy := Given.textOr f.policy s.policy
    pathSeparator := Given.textOr f.separator s.pathSeparator
    dryRun := f.dryRun || s.dryRun
    backup := f.backup || s.backup }

/-- What the flags say of a field. -/
def Flags.change? (f : Flags) : String → Option Json
  | "report_path" => f.report.map Given.toJson
  | "function_name" => f.function.map Given.toJson
  | "root" => f.root.map Given.toJson
  | "policy" => f.policy.map Given.toJson
  | "path_separator" => f.separator.map Given.toJson
  | "dry_run" => if f.dryRun then some (.bool true) else none
  | "backup" => if f.backup then some (.bool true) else none
  | _ => none

theorem field?_given (key name : Text) (g : Option Given) :
    Json.field? (g.map fun g => (key, g.toJson)).toList name
      = if name = key then g.map Given.toJson else none := by
  cases g with
  | none => simp [Json.field?]
  | some g => exact Json.field?_singleton key name g.toJson

theorem field?_turnedOn (key name : Text) (on : Bool) :
    Json.field? (if on then [(key, .bool true)] else []) name
      = if name = key ∧ on = true then some (.bool true) else none := by
  cases on with
  | false => simp [Json.field?]
  | true => simp [Json.field?_singleton]

/-- **A flag decides its own field and no other.** -/
theorem Flags.field?_changes (f : Flags) (name : String) :
    Json.field? f.changes name.toList = f.change? name := by
  simp only [Flags.changes, Json.field?_append, field?_given, field?_turnedOn, String.toList_inj]
  fun_cases f.change? name with
  | case10 _ hreport hfunction hroot hpolicy hseparator hdry hbackup =>
    rw [if_neg fun h => hbackup h.1, if_neg fun h => hdry h.1, if_neg hseparator, if_neg hpolicy,
      if_neg hroot, if_neg hfunction, if_neg hreport]
    rfl
  | _ => simp [*]

section Fields

variable {name : String}

theorem field?_fields_changes (base : Settings) (f : Flags) (name : String) :
    Json.field? (base.fields ++ f.changes) name.toList
      = (f.change? name).or (Json.field? base.fields name.toList) := by
  rw [Json.field?_append, f.field?_changes]

/-- A field that no flag decides. -/
theorem settles_unchanged {α : Type} {reads : Json → α → Prop} {part : Settings → α}
    (hchange : f.change? name = none) (hpart : part s = part base)
    (h : Settles base.fields name reads part base) :
    Settles (base.fields ++ f.changes) name reads part s := by
  rw [settles_iff] at h
  rwa [settles_iff, field?_fields_changes, hchange, Option.none_or, hpart]

/-- A field that a flag gives a value. -/
theorem settles_changed_iff {α : Type} {reads : Json → α → Prop} {part : Settings → α} {v : Json}
    (hchange : f.change? name = some v) :
    Settles (base.fields ++ f.changes) name reads part s ↔ reads v (part s) := by
  rw [settles_iff, field?_fields_changes, hchange, Option.some_or]

/-- A field that a flag may give a text. -/
theorem settles_given {check : Json → Except Objection Text} {part : Settings → Text}
    {g : Option Given} (hchange : f.change? name = g.map Given.toJson)
    (hpart : part s = Given.textOr g (part base)) (hgiven : g ≠ some .nothing)
    (hcheck : ∀ t, g = some (.text t) → check (.text t) = .ok t)
    (h : Settles base.fields name (check · = .ok ·) part base) :
    Settles (base.fields ++ f.changes) name (check · = .ok ·) part s := by
  match g with
  | none => exact settles_unchanged hchange hpart h
  | some (.text t) => exact (settles_changed_iff hchange).mpr (hpart ▸ hcheck t rfl)
  | some .nothing => exact absurd rfl hgiven

/-- A field that a flag may turn on. -/
theorem settles_turnedOn {part : Settings → Bool} {on : Bool}
    (hchange : f.change? name = if on then some (.bool true) else none)
    (hpart : part s = (on || part base))
    (h : Settles base.fields name (checkBool · = .ok ·) part base) :
    Settles (base.fields ++ f.changes) name (checkBool · = .ok ·) part s := by
  cases on with
  | false => exact settles_unchanged hchange hpart h
  | true => exact (settles_changed_iff hchange).mpr (congrArg Except.ok hpart.symm)

end Fields

/-! ## All flags -/

/-- An option for a field of the settings is left without a value. -/
def Flags.LacksValue (f : Flags) : Prop :=
  some Given.nothing ∈ [f.report, f.function, f.root, f.policy, f.separator]

/-- The function that is asked for has no proper name. -/
def Flags.Misnames (f : Flags) : Prop := ∃ t, f.function = some (.text t) ∧ t.isIdentifier = false

/-- **Flags with proper values are put over valid settings.** -/
theorem Flags.gives_over (hbase : base.Valid) (hchoice : f.HasChoice) (hvalue : ¬ f.LacksValue)
    (hname : ¬ f.Misnames) : Gives (base.fields ++ f.changes) (f.over base) := by
  have hgives := hbase.gives_fields
  simp only [LacksValue, List.mem_cons, List.not_mem_nil, or_false, not_or] at hvalue
  obtain ⟨hreport, hfunction, hroot, hpolicy, hseparator⟩ := hvalue
  have hnamed : ∀ t, f.function = some (.text t) → t.isIdentifier = true := fun t ht =>
    eq_true_of_ne_false fun hnot => hname ⟨t, ht, hnot⟩
  -- Five fields may be given a text and two may be turned on; the other eleven stay as they are.
  exact {
    reportPath := settles_given rfl rfl (Ne.symm hreport) (fun _ _ => rfl) hgives.reportPath
    root := settles_given rfl rfl (Ne.symm hroot) (fun _ _ => rfl) hgives.root
    encoding := settles_unchanged rfl rfl hgives.encoding
    pathSeparator :=
      settles_given rfl rfl (Ne.symm hseparator) (fun _ _ => rfl) hgives.pathSeparator
    indentUnit := settles_unchanged rfl rfl hgives.indentUnit
    marginThreshold := settles_unchanged rfl rfl hgives.marginThreshold
    functionName := settles_given rfl rfl (Ne.symm hfunction)
      (fun _ ht => checkIdentifier_text (hnamed _ ht)) hgives.functionName
    declarationSuffixes := settles_unchanged rfl rfl hgives.declarationSuffixes
    policy := settles_given rfl rfl (Ne.symm hpolicy)
      (fun _ ht => checkPolicy_text (mem_policyChoices_iff.mp (hchoice _ ht))) hgives.policy
    idExpression := settles_unchanged rfl rfl hgives.idExpression
    idStart := settles_unchanged rfl rfl hgives.idStart
    idStem := settles_unchanged rfl rfl hgives.idStem
    renameTo := settles_unchanged rfl rfl hgives.renameTo
    diagnosticFunction := settles_unchanged rfl rfl hgives.diagnosticFunction
    diagnosticMarker := settles_unchanged rfl rfl hgives.diagnosticMarker
    diagnosticFrom := settles_unchanged rfl rfl hgives.diagnosticFrom
    dryRun := settles_turnedOn rfl rfl hgives.dryRun
    backup := settles_turnedOn rfl rfl hgives.backup }

theorem Flags.not_lacksValue_of_gives (h : Gives (base.fields ++ f.changes) s) :
    ¬ f.LacksValue := by
  simp only [LacksValue, List.mem_cons, List.not_mem_nil, or_false]
  rintro (hnone | hnone | hnone | hnone | hnone)
  · cases (settles_changed_iff (by rw [change?, ← hnone]; rfl)).mp h.reportPath
  · cases (settles_changed_iff (by rw [change?, ← hnone]; rfl)).mp h.functionName
  · cases (settles_changed_iff (by rw [change?, ← hnone]; rfl)).mp h.root
  · cases (settles_changed_iff (by rw [change?, ← hnone]; rfl)).mp h.policy
  · cases (settles_changed_iff (by rw [change?, ← hnone]; rfl)).mp h.pathSeparator

theorem Flags.not_misnames_of_gives (h : Gives (base.fields ++ f.changes) s) : ¬ f.Misnames := by
  rintro ⟨t, ht, hname⟩
  have hcheck : checkIdentifier (.text t) = .ok s.functionName :=
    (settles_changed_iff (by rw [change?, ht]; rfl)).mp h.functionName
  simp [checkIdentifier, checkText, hname] at hcheck

/-- **When flags can be put over settings, and what comes of it.** -/
theorem override_eq_ok_iff (hbase : base.Valid) (hchoice : f.HasChoice) :
    base.override f.changes = .ok s ↔ (¬ f.Misnames ∧ ¬ f.LacksValue) ∧ s = f.over base := by
  rw [override]
  constructor
  · intro h
    have hgives := ofFields_eq_ok_iff.mp h
    have hname := Flags.not_misnames_of_gives hgives
    have hvalue := Flags.not_lacksValue_of_gives hgives
    -- A document gives no two settings, so these are the ones under the flags.
    have hover := ofFields_eq_ok_iff.mpr (Flags.gives_over hbase hchoice hvalue hname)
    exact ⟨⟨hname, hvalue⟩, Except.ok.inj (h.symm.trans hover)⟩
  · rintro ⟨⟨hname, hvalue⟩, rfl⟩
    exact ofFields_eq_ok_iff.mpr (Flags.gives_over hbase hchoice hvalue hname)

/-! ## The configuration file -/

/-- **The fields of the configuration document**: those of the object that the file holds; without
a file there are none. -/
inductive ConfigFields (disk : Disk) : Option Text → List (Text × Json) → Prop
  | none : ConfigFields disk none []
  | file {path text : Text} {fields : List (Text × Json)}
    (read : disk.readPlain (Path.ofText path) "utf-8".toList = .ok text)
    (object : Json.read? text = some (.object fields)) : ConfigFields disk (some path) fields

variable {disk : Disk}

theorem ofChecked_eq_ok_iff {checked : Checked Settings} :
    ofChecked checked = .ok s ↔ checked = .ok s := by
  cases checked <;> simp [ofChecked]

theorem ofText_eq_ok_iff {t : Text} :
    ofText t = .ok s ↔ ∃ fields, Json.read? t = some (.object fields) ∧ Gives fields s := by
  simp only [← ofFields_eq_ok_iff]
  rw [ofText]
  cases Json.read? t with
  | none => simp
  | some v => cases v <;> simp [ofJson]

theorem baseSettings_eq_ok_iff {config? : Option Text} :
    baseSettings disk config? = .ok base
      ↔ ∃ fields, ConfigFields disk config? fields ∧ Gives fields base := by
  cases config? with
  | none =>
    -- The defaults are what a document without fields gives.
    have hdefault : baseSettings disk none = ofChecked (ofFields []) := rfl
    rw [hdefault, ofChecked_eq_ok_iff, ofFields_eq_ok_iff]
    constructor
    · exact fun h => ⟨[], .none, h⟩
    · rintro ⟨_, ⟨⟩, h⟩
      exact h
  | some path =>
    rw [baseSettings, readSettings]
    constructor
    · intro h
      split at h
      · cases h
      rename_i hread
      obtain ⟨fields, hobject, hgives⟩ := ofText_eq_ok_iff.mp (ofChecked_eq_ok_iff.mp h)
      exact ⟨fields, .file hread hobject, hgives⟩
    · rintro ⟨fields, hfields, hgives⟩
      cases hfields with
      | file hread hobject =>
        rw [hread]
        exact ofChecked_eq_ok_iff.mpr (ofText_eq_ok_iff.mpr ⟨fields, hobject, hgives⟩)

theorem loadSettings_eq_ok_iff (hchoice : f.HasChoice) :
    loadSettings disk f = .ok s
      ↔ (¬ f.Misnames ∧ ¬ f.LacksValue)
        ∧ ∃ base, baseSettings disk f.configPath? = .ok base ∧ s = f.over base := by
  rw [loadSettings]
  cases hread : baseSettings disk f.configPath? with
  | error reason => simp
  | ok base =>
    obtain ⟨_, -, hgives⟩ := baseSettings_eq_ok_iff.mp hread
    simp [ofChecked_eq_ok_iff, override_eq_ok_iff hgives.valid hchoice]

theorem exists_error_iff {ε α : Type} {answer : Except ε α} :
    (∃ e, answer = .error e) ↔ ¬ ∃ a, answer = .ok a := by
  cases answer <;> simp

/-- **When a command has no settings.** -/
theorem exists_loadSettings_error_iff (hchoice : f.HasChoice) :
    (∃ reason, loadSettings disk f = .error reason)
      ↔ (∃ path reason, f.configPath? = some path ∧ readSettings disk path = .error reason)
        ∨ f.Misnames ∨ f.LacksValue := by
  have hfile : (∃ path reason, f.configPath? = some path ∧ readSettings disk path = .error reason)
      ↔ ∃ reason, baseSettings disk f.configPath? = .error reason := by
    cases f.configPath? <;> simp [baseSettings]
  rw [hfile, exists_error_iff, exists_error_iff]
  simp only [loadSettings_eq_ok_iff hchoice]
  constructor
  · intro hnone
    by_contra hproper
    simp only [not_or, not_not] at hproper
    obtain ⟨⟨base, hbase⟩, hflags⟩ := hproper
    exact hnone ⟨f.over base, hflags, base, hbase, rfl⟩
  · rintro hnone ⟨_, ⟨hname, hvalue⟩, base, hbase, -⟩
    exact hnone.elim (· ⟨base, hbase⟩) (·.elim hname hvalue)

/-- **Flags override exactly what they name.**  Checking changes nothing in settings that were
checked before.  The settings of a command are those that its configuration file gives, each field
being the value of the document or the default, under the flags.  There are none just if the file
gives none, the function asked for has no proper name, or an option is left without a value. -/
theorem loadSettings_overrides_named_fields :
    (∀ document s, ofJson document = .ok s → ofJson (.object s.fields) = .ok s)
      ∧ ∀ words f disk, Flags.parse words = .ok f →
        (∀ s, loadSettings disk f = .ok s → ∃ fields base,
          ConfigFields disk f.configPath? fields ∧ Gives fields base ∧ s = f.over base)
        ∧ ((∃ reason, loadSettings disk f = .error reason)
          ↔ (∃ path reason, f.configPath? = some path ∧ readSettings disk path = .error reason)
            ∨ f.Misnames ∨ f.LacksValue) := by
  refine ⟨fun _ _ => ofJson_fields, fun words f disk hparse => ⟨fun s hload => ?_, ?_⟩⟩
  · obtain ⟨-, base, hbase, rfl⟩ := (loadSettings_eq_ok_iff (hasChoice_of_parse hparse)).mp hload
    obtain ⟨fields, hfields, hgives⟩ := baseSettings_eq_ok_iff.mp hbase
    exact ⟨fields, base, hfields, hgives, rfl⟩
  · exact exists_loadSettings_error_iff (hasChoice_of_parse hparse)

/-- A file names a function, and asks for two blanks a level and for a dry run, both written as
texts; the flags name another function, and a root. -/
theorem loadSettings_overrides_named_fields_dry_file :
    let document : Text :=
      "\x7b\"function_name\": \"f\", \"indent_unit\": \"2\", \"dry_run\": \"yes\"\x7d".toList
    let disk : Disk := ⟨[([['c']], .file (Utf8.encode document))], []⟩
    let words := ["--config=c".toList, "--function".toList, "g".toList, "--root=src".toList]
    let f : Flags :=
      { config := some (.text ['c']), function := some (.text ['g']),
        root := some (.text "src".toList) }
    let s : Settings :=
      { functionName := ['g'], root := "src".toList, indentUnit := 2, dryRun := true }
    Flags.parse words = .ok f ∧ loadSettings disk f = .ok s ∧ ofJson (.object s.fields) = .ok s
      ∧ (∃ fields base, ConfigFields disk (some ['c']) fields ∧ Gives fields base
        ∧ s = f.over base)
      ∧ ¬ (f.Misnames ∨ f.LacksValue) := by
  intro document disk words f s
  have hparse : Flags.parse words = .ok f := by decide +kernel
  have hload : loadSettings disk f = .ok s := by decide +kernel
  have hread : ofJson (.object [("function_name".toList, .text ['g']),
      ("root".toList, .text "src".toList), ("indent_unit".toList, .text ['2']),
      ("dry_run".toList, .text "yes".toList)]) = .ok s := by decide +kernel
  obtain ⟨hover, hfails⟩ := loadSettings_overrides_named_fields.2 words f disk hparse
  refine ⟨hparse, hload, loadSettings_overrides_named_fields.1 _ s hread, hover s hload, ?_⟩
  intro hflags
  obtain ⟨reason, hreason⟩ := hfails.mpr (.inr hflags)
  cases hload.symm.trans hreason

/-- An option whose value is `--` after the `=` is left without a value, and there are no settings,
though there is no file to refuse and the flags name no function. -/
theorem loadSettings_refuses_divider :
    ¬ ∀ words f disk, Flags.parse words = .ok f →
      ((∃ reason, loadSettings disk f = .error reason)
        ↔ (∃ path reason, f.configPath? = some path ∧ readSettings disk path = .error reason)
          ∨ f.Misnames) := by
  intro hfails_iff
  have hparse : Flags.parse ["--separator=--".toList] = .ok { separator := some .nothing } := by
    decide +kernel
  rcases (hfails_iff _ _ ⟨[], []⟩ hparse).mp ⟨_, rfl⟩ with ⟨_, _, hpath, -⟩ | ⟨_, hfunction, -⟩
  · cases hpath
  · cases hfunction

end Command

end CallEdits
