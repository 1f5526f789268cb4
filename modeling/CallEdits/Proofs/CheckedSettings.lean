import CallEdits.Command.Basic

/-!
# Proofs/CheckedSettings — what settings are like once they are checked

    fields ──ofFields──▸ settings        every field: its check, or its default

All checks of a document have to succeed for it to give settings
(`Checked.exists_apply_iff` takes them apart, one at a time).  So a document gives the settings in
which every field is what its check makes of the document's value, or the default where the document
has none: `Gives` says so field by field, and `ofFields_eq_ok_iff` that it says no more and no less.
What the checks ask of the fields, and the defaults fulfil, is `Valid`.

The settings of a command are checked as a whole after the flags have been put over those of the
file, so they are always valid (`valid_of_loadSettings`).
-/

namespace CallEdits

/-- A function that is applied to checked values has passed all their checks. -/
theorem Checked.exists_apply_iff {α β : Type} {f : Checked (α → β)} {a : Checked α} {P : β → Prop} :
    (∃ b, f.apply a = .ok b ∧ P b) ↔ ∃ x, a = .ok x ∧ ∃ g, f = .ok g ∧ P (g x) := by
  cases f <;> cases a <;> simp [Checked.apply]

namespace Settings

/-! ## One field -/

/-- **A field of a document settles a part of the settings**: the part is what is read out of the
field's value, or the default if there is no such field. -/
inductive Settles {α : Type} (fields : List (Text × Json)) (name : String)
    (reads : Json → α → Prop) (part : Settings → α) (s : Settings) : Prop
  | read {v : Json} (field : Json.field? fields name.toList = some v) (value : reads v (part s))
  | default (field : Json.field? fields name.toList = none) (value : part s = part {})

/-- What holds of the default and of all values read holds of the part. -/
theorem Settles.preserves {α : Type} {P : α → Prop} {fields : List (Text × Json)} {name : String}
    {reads : Json → α → Prop} {part : Settings → α} {s : Settings}
    (h : Settles fields name reads part s) (hdefault : P (part {}))
    (hreads : ∀ v a, reads v a → P a) : P (part s) := by
  cases h with
  | read _ hvalue => exact hreads _ _ hvalue
  | default _ hvalue => exact hvalue ▸ hdefault

theorem settles_iff {α : Type} {fields : List (Text × Json)} {name : String}
    {reads : Json → α → Prop} {part : Settings → α} {s : Settings} :
    Settles fields name reads part s
      ↔ match Json.field? fields name.toList with
        | none => part s = part {}
        | some v => reads v (part s) := by
  constructor
  · rintro (⟨hfield, hvalue⟩ | ⟨hfield, hvalue⟩) <;> rwa [hfield]
  · cases hfield : Json.field? fields name.toList with
    | none => exact .default hfield
    | some v => exact .read hfield

theorem field_eq_ok_iff {α : Type} {fields : List (Text × Json)} {name : String}
    {check : Json → Except Objection α} {part : Settings → α} {s : Settings} :
    field fields name check (part {}) = .ok (part s)
      ↔ Settles fields name (check · = .ok ·) part s := by
  rw [field, settles_iff]
  cases Json.field? fields name.toList with
  | none => simp [eq_comm]
  | some v => cases hv : check v <;> simp [hv]

/-- A list of texts. -/
def IsTextList (v : Json) (ts : List Text) : Prop := v = .list (ts.map .text)

theorem itemComplaints_map_text (name : Text) : ∀ (ts : List Text) (index : Nat),
    itemComplaints name index (ts.map .text) = []
  | [], _ => rfl
  | _ :: ts, index => itemComplaints_map_text name ts (index + 1)

theorem map_text_textItems {name : Text} {index : Nat} {items : List Json}
    (h : itemComplaints name index items = []) : (textItems items).map .text = items := by
  induction items generalizing index with
  | nil => rfl
  | cons v rest ih =>
    cases v with
    | text t => exact congrArg (.text t :: ·) (ih h)
    | _ => cases h

theorem textItems_map_text : ∀ ts : List Text, textItems (ts.map .text) = ts
  | [] => rfl
  | t :: ts => congrArg (t :: ·) (textItems_map_text ts)

theorem textListField_eq_ok_iff {fields : List (Text × Json)} {name : String}
    {part : Settings → List Text} {s : Settings} :
    textListField fields name (part {}) = .ok (part s) ↔ Settles fields name IsTextList part s := by
  rw [textListField.eq_def, settles_iff]
  cases Json.field? fields name.toList with
  | none => simp [eq_comm]
  | some v =>
    cases v with
    | list items =>
      dsimp only [IsTextList]
      constructor
      · intro h
        split at h
        · rename_i hitems
          rw [← Except.ok.inj h, map_text_textItems hitems]
        · cases h
      · intro hitems
        obtain rfl := Json.list.inj hitems
        simp [itemComplaints_map_text, textItems_map_text]
    | _ => exact ⟨nofun, nofun⟩

theorem le_of_checkBounded {bound n : Int} {v : Json} (h : checkBounded bound v = .ok n) :
    bound ≤ n := by
  rw [checkBounded] at h
  split at h
  · cases h
  split at h
  · rename_i hle
    exact Except.ok.inj h ▸ hle
  · cases h

theorem isIdentifier_of_checkIdentifier {v : Json} {t : Text} (h : checkIdentifier v = .ok t) :
    t.isIdentifier = true := by
  rw [checkIdentifier] at h
  split at h
  · cases h
  split at h
  · rename_i hname
    exact Except.ok.inj h ▸ hname
  · cases h

theorem isIdentifier_of_checkOptionalIdentifier {v : Json} {name? : Option Text}
    (h : checkOptionalIdentifier v = .ok name?) : ∀ t ∈ name?, t.isIdentifier = true := by
  by_cases hnull : v = .null
  · subst hnull
    obtain rfl := Except.ok.inj h
    exact fun _ ht => nomatch ht
  · rw [checkOptionalIdentifier.eq_2 v hnull] at h
    cases hv : checkIdentifier v with
    | error objection =>
      rw [hv] at h
      cases h
    | ok name =>
      rw [hv] at h
      obtain rfl := Except.ok.inj h
      intro t ht
      exact Option.some.inj ht ▸ isIdentifier_of_checkIdentifier hv

theorem policy_of_checkPolicy {v : Json} {t : Text} (h : checkPolicy v = .ok t) :
    t = diagnosticName ∨ t = leadingName := by
  rw [checkPolicy.eq_def] at h
  split at h
  · split at h
    · rename_i hname
      exact Except.ok.inj h ▸ hname
    · cases h
  · cases h

/-! ## All fields -/

/-- **The settings that a document gives**, field by field. -/
structure Gives (fields : List (Text × Json)) (s : Settings) : Prop where
  reportPath : Settles fields "report_path" (checkText · = .ok ·) reportPath s
  root : Settles fields "root" (checkText · = .ok ·) root s
  encoding : Settles fields "encoding" (checkText · = .ok ·) encoding s
  pathSeparator : Settles fields "path_separator" (checkText · = .ok ·) pathSeparator s
  indentUnit : Settles fields "indent_unit" (checkBounded 1 · = .ok ·) indentUnit s
  marginThreshold : Settles fields "margin_threshold" (checkBounded 0 · = .ok ·) marginThreshold s
  functionName : Settles fields "function_name" (checkIdentifier · = .ok ·) functionName s
  declarationSuffixes : Settles fields "declaration_suffixes" IsTextList declarationSuffixes s
  policy : Settles fields "policy" (checkPolicy · = .ok ·) policy s
  idExpression : Settles fields "id_expression" (checkText · = .ok ·) idExpression s
  idStart : Settles fields "id_start" (checkInteger · = .ok ·) idStart s
  idStem : Settles fields "id_prefix" (checkText · = .ok ·) idStem s
  renameTo : Settles fields "rename_to" (checkOptionalIdentifier · = .ok ·) renameTo s
  diagnosticFunction :
    Settles fields "diagnostic_function" (checkText · = .ok ·) diagnosticFunction s
  diagnosticMarker : Settles fields "diagnostic_marker" (checkText · = .ok ·) diagnosticMarker s
  diagnosticFrom : Settles fields "diagnostic_from" (checkBounded 0 · = .ok ·) diagnosticFrom s
  dryRun : Settles fields "dry_run" (checkBool · = .ok ·) dryRun s
  backup : Settles fields "backup" (checkBool · = .ok ·) backup s

/-- **Checking a document finds the settings that it gives.** -/
theorem ofFields_eq_ok_iff {fields : List (Text × Json)} {s : Settings} :
    ofFields fields = .ok s ↔ Gives fields s := by
  have hs : ofFields fields = .ok s ↔ ∃ t, ofFields fields = .ok t ∧ t = s := by simp
  rw [hs]
  simp only [ofFields, Checked.exists_apply_iff]
  constructor
  · rintro ⟨backup, hbackup, dryRun, hdry, diagnosticFrom, hfrom, marker, hmarker, diagnostic,
      hdiagnostic, renameTo, hrename, stem, hstem, idStart, hstart, idExpression, hexpression,
      policy, hpolicy, suffixes, hsuffixes, functionName, hfunction, margin, hmargin, indent,
      hindent, separator, hseparator, encoding, hencoding, root, hroot, reportPath, hreport,
      make, hmake, rfl⟩
    obtain rfl := Except.ok.inj hmake
    exact {
      reportPath := field_eq_ok_iff.mp hreport
      root := field_eq_ok_iff.mp hroot
      encoding := field_eq_ok_iff.mp hencoding
      pathSeparator := field_eq_ok_iff.mp hseparator
      indentUnit := field_eq_ok_iff.mp hindent
      marginThreshold := field_eq_ok_iff.mp hmargin
      functionName := field_eq_ok_iff.mp hfunction
      declarationSuffixes := textListField_eq_ok_iff.mp hsuffixes
      policy := field_eq_ok_iff.mp hpolicy
      idExpression := field_eq_ok_iff.mp hexpression
      idStart := field_eq_ok_iff.mp hstart
      idStem := field_eq_ok_iff.mp hstem
      renameTo := field_eq_ok_iff.mp hrename
      diagnosticFunction := field_eq_ok_iff.mp hdiagnostic
      diagnosticMarker := field_eq_ok_iff.mp hmarker
      diagnosticFrom := field_eq_ok_iff.mp hfrom
      dryRun := field_eq_ok_iff.mp hdry
      backup := field_eq_ok_iff.mp hbackup }
  · intro h
    exact ⟨_, field_eq_ok_iff.mpr h.backup, _, field_eq_ok_iff.mpr h.dryRun,
      _, field_eq_ok_iff.mpr h.diagnosticFrom, _, field_eq_ok_iff.mpr h.diagnosticMarker,
      _, field_eq_ok_iff.mpr h.diagnosticFunction, _, field_eq_ok_iff.mpr h.renameTo,
      _, field_eq_ok_iff.mpr h.idStem, _, field_eq_ok_iff.mpr h.idStart,
      _, field_eq_ok_iff.mpr h.idExpression, _, field_eq_ok_iff.mpr h.policy,
      _, textListField_eq_ok_iff.mpr h.declarationSuffixes, _, field_eq_ok_iff.mpr h.functionName,
      _, field_eq_ok_iff.mpr h.marginThreshold, _, field_eq_ok_iff.mpr h.indentUnit,
      _, field_eq_ok_iff.mpr h.pathSeparator, _, field_eq_ok_iff.mpr h.encoding,
      _, field_eq_ok_iff.mpr h.root, _, field_eq_ok_iff.mpr h.reportPath, _, rfl, rfl⟩

/-- **What the checks ask of settings.** -/
structure Valid (s : Settings) : Prop where
  indentUnit : 1 ≤ s.indentUnit
  marginThreshold : 0 ≤ s.marginThreshold
  diagnosticFrom : 0 ≤ s.diagnosticFrom
  functionName : s.functionName.isIdentifier = true
  renameTo : ∀ name ∈ s.renameTo, name.isIdentifier = true
  policy : s.policy = diagnosticName ∨ s.policy = leadingName

/-- **Settings out of a document are valid.** -/
theorem Gives.valid {fields : List (Text × Json)} {s : Settings} (h : Gives fields s) :
    s.Valid where
  indentUnit := h.indentUnit.preserves (by decide) fun _ _ => le_of_checkBounded
  marginThreshold := h.marginThreshold.preserves (by decide) fun _ _ => le_of_checkBounded
  diagnosticFrom := h.diagnosticFrom.preserves (by decide) fun _ _ => le_of_checkBounded
  functionName := h.functionName.preserves (P := fun t => t.isIdentifier = true)
    (by decide +kernel) fun _ _ => isIdentifier_of_checkIdentifier
  renameTo := h.renameTo.preserves (P := fun name? => ∀ name ∈ name?, Text.isIdentifier name = true)
    (fun _ hnone => nomatch hnone) fun _ _ => isIdentifier_of_checkOptionalIdentifier
  policy := h.policy.preserves (P := fun t => t = diagnosticName ∨ t = leadingName) (.inl rfl)
    fun _ _ => policy_of_checkPolicy

theorem valid_of_ofFields {fields : List (Text × Json)} {s : Settings}
    (h : ofFields fields = .ok s) : s.Valid :=
  (ofFields_eq_ok_iff.mp h).valid

theorem Valid.indentUnit_ne_zero {s : Settings} (h : s.Valid) : s.indentUnit ≠ 0 := by
  have hunit := h.indentUnit
  omega

/-- **Valid settings name a policy.** -/
theorem Valid.exists_policy {s : Settings} (h : s.Valid) :
    ∃ policy, s.buildPolicy = .ok policy := by
  rw [buildPolicy]
  split
  · exact ⟨_, rfl⟩
  · rename_i hname
    rw [if_pos (h.policy.resolve_left hname)]
    exact ⟨_, rfl⟩

end Settings

/-- **The settings of a command are valid.** -/
theorem Command.valid_of_loadSettings {disk : Disk} {f : Flags} {s : Settings}
    (h : loadSettings disk f = .ok s) : s.Valid := by
  rw [loadSettings] at h
  split at h
  · cases h
  rename_i base _
  cases hchecked : base.override f.changes with
  | error complaints => simp [hchecked, ofChecked] at h
  | ok t =>
    rw [hchecked] at h
    obtain rfl := Except.ok.inj h
    exact Settings.valid_of_ofFields hchecked

end CallEdits
