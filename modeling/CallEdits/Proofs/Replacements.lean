import CallEdits.Proofs.Regions
import Mathlib.Data.List.Infix

/-!
# Proofs/Replacements — what the policies write

Two facts about replacements hold a run together:

* every replacement ends with a closing parenthesis, as the call did (`getLast?_apply`);
* a replacement of the diagnostic policy does not change how the lines of its file end
  (`newlineOf_replace`) — where they end with `"\r\n"` its new line does too, and else no `"\r\n"`
  comes up, neither inside it nor at its edges.

So a policy sees of a call in the changed text what it would see in the original (`apply_siteAt`).
-/

namespace CallEdits

/-! ## Carriage returns before line feeds -/

namespace Text

variable {a b t : Text} {c : Char}

/-- **Where a carriage return stands right before a line feed.** -/
theorem hasCrLf_eq_true_iff : ∀ {t : Text}, hasCrLf t = true ↔ ['\r', '\n'] <:+: t
  | [] => by decide
  | [c] => by
      refine ⟨fun h => (nomatch h), fun h => ?_⟩
      exact absurd h.length_le (Nat.not_succ_le_self 1)
  | c :: d :: r => by
      have hcons : ['\r', '\n'] <:+: c :: d :: r ↔ _ := List.infix_cons_iff
      rw [hasCrLf, Bool.or_eq_true, hasCrLf_eq_true_iff, hcons, List.cons_prefix_cons,
        List.cons_prefix_cons, Bool.and_eq_true, beq_iff_eq, beq_iff_eq]
      simp [eq_comm]

/-- What stands in a text without `"\r\n"` has none. -/
theorem hasCrLf_of_infix (h : a <:+: t) (ht : hasCrLf t = false) : hasCrLf a = false := by
  rw [← Bool.not_eq_true, hasCrLf_eq_true_iff] at ht ⊢
  exact fun ha => ht (ha.trans h)

theorem hasCrLf_cons (hc : c ≠ '\r') (t : Text) : hasCrLf (c :: t) = hasCrLf t := by
  cases t with
  | nil => rfl
  | cons d r => rw [hasCrLf, beq_eq_false_iff_ne.mpr hc, Bool.false_and, Bool.false_or]

/-- A text without carriage returns can be left out. -/
theorem hasCrLf_append : ∀ {a : Text}, '\r' ∉ a → ∀ b, hasCrLf (a ++ b) = hasCrLf b
  | [], _, _ => rfl
  | c :: a, h, b => by
      obtain ⟨hc, ha⟩ := not_or.mp (List.mem_cons.not.mp h)
      rw [List.cons_append, hasCrLf_cons (Ne.symm hc), hasCrLf_append ha]

/-- **Any other character separates.** -/
theorem hasCrLf_append_cons (hr : c ≠ '\r') (hn : c ≠ '\n') (b : Text) : ∀ a : Text,
    hasCrLf (a ++ c :: b) = (hasCrLf a || hasCrLf b)
  | [] => hasCrLf_cons hr b
  | [d] => by
      change (d == '\r' && c == '\n' || hasCrLf (c :: b)) = hasCrLf b
      rw [beq_eq_false_iff_ne.mpr hn, Bool.and_false, Bool.false_or, hasCrLf_cons hr]
  | d :: d' :: r => by
      rw [List.cons_append, List.cons_append, hasCrLf, ← List.cons_append,
        hasCrLf_append_cons hr hn b (d' :: r), hasCrLf, Bool.or_assoc]

theorem hasCrLf_join : ∀ {pieces : List Text}, (∀ t ∈ pieces, hasCrLf t = false) →
    hasCrLf (join [',', ' '] pieces) = false
  | [], _ => rfl
  | [t], h => by
      rw [join_singleton]
      exact h t List.mem_cons_self
  | t :: u :: us, h => by
      have hrest : hasCrLf (join [',', ' '] (u :: us)) = false :=
        hasCrLf_join fun v hv => h v (List.mem_cons_of_mem t hv)
      rw [join_cons_cons, List.cons_append, List.singleton_append,
        hasCrLf_append_cons (by decide) (by decide), hasCrLf_cons (by decide), hrest,
        h t List.mem_cons_self, Bool.or_self]

end Text

theorem Numeral.eq_ofInt_of_write {i : Int} {number : Text} (h : write i = .ok number) :
    number = ofInt i := by
  rw [write] at h
  split at h
  · exact (Except.ok.inj h).symm
  · exact nomatch h

/-- **A number is written with digits**, behind a minus sign if it is negative. -/
theorem Numeral.mem_of_write {i : Int} {number : Text} (h : write i = .ok number) :
    number ≠ [] ∧ ∀ c ∈ number, c = '-' ∨ c.isDigit = true := by
  obtain rfl := eq_ofInt_of_write h
  cases i with
  | ofNat n => exact ⟨ofNat_ne_nil n, fun c hc => .inr (isDigit_of_mem_ofNat hc)⟩
  | negSucc n =>
    refine ⟨by simp [ofInt], fun c hc => ?_⟩
    rcases List.mem_cons.mp hc with rfl | hc
    · exact .inl rfl
    · exact .inr (isDigit_of_mem_ofNat hc)

/-- A number is written without carriage returns. -/
theorem Numeral.not_mem_of_write {i : Int} {number : Text} (h : write i = .ok number) :
    '\r' ∉ number := fun hmem =>
  ((mem_of_write h).2 _ hmem).elim (by decide) (by decide)

/-! ## Replacements -/

namespace Policy

variable {P : Policy} {site : Call.Site} {replacement : Text}

/-- What the diagnostic policy writes, if it accepts the call. -/
theorem Diagnostic.apply_eq_ok {p : Diagnostic} (h : p.apply site = .ok replacement) :
    ∃ number, Numeral.write (p.idStart + site.index) = .ok number
      ∧ replacement = application site.function (p.firstArgument number :: site.arguments.drop 1)
        ++ [';'] ++ site.newline ++ site.indent ++ p.statement site := by
  rw [Diagnostic.apply] at h
  split at h
  · exact nomatch h
  split at h
  · exact nomatch h
  rename_i number hnumber
  exact ⟨number, hnumber, (Except.ok.inj h).symm⟩

/-- What the leading-argument policy writes, if it accepts the call. -/
theorem Leading.apply_eq_ok {p : Leading} (h : p.apply site = .ok replacement) :
    ∃ number, Numeral.write (p.idStart + site.index) = .ok number
      ∧ replacement
        = application (p.name site.function) ((p.idStem ++ number) :: site.arguments) := by
  rw [Leading.apply] at h
  split at h
  · exact nomatch h
  rename_i number hnumber
  exact ⟨number, hnumber, (Except.ok.inj h).symm⟩

theorem getLast?_application (function : Text) (arguments : List Text) :
    (application function arguments).getLast? = some ')' := by
  rw [application, List.getLast?_concat]

theorem application_ne_nil (function : Text) (arguments : List Text) :
    application function arguments ≠ [] := fun hnil => by
  have hlast := getLast?_application function arguments
  rw [hnil] at hlast
  exact nomatch hlast

/-- **Every replacement ends with a closing parenthesis.** -/
theorem getLast?_apply : ∀ {P : Policy}, P.apply site = .ok replacement →
    replacement.getLast? = some ')'
  | .diagnostic p, h => by
      obtain ⟨number, -, rfl⟩ := Diagnostic.apply_eq_ok h
      rw [Diagnostic.statement, ← List.append_assoc,
        Source.getLast?_append _ (application_ne_nil _ _), getLast?_application]
  | .leading p, h => by
      obtain ⟨number, -, rfl⟩ := Leading.apply_eq_ok h
      exact getLast?_application ..

/-- **Strings without `"\r\n"`**, in particular those without any break: the policy writes the
breaks of its own lines only. -/
def Unbroken : Policy → Prop
  | .diagnostic p =>
    p.idExpression.hasCrLf = false ∧ p.function.hasCrLf = false ∧ p.marker.hasCrLf = false
  | .leading _ => True

/-- **Two texts whose lines end alike**, as far as the policy looks. -/
def SeesAlike (P : Policy) (text code : Text) : Prop :=
  match P with
  | .diagnostic _ => Call.newlineOf text = Call.newlineOf code
  | .leading _ => True

theorem seesAlike_refl (P : Policy) (code : Text) : P.SeesAlike code code := by
  cases P with
  | diagnostic p => exact rfl
  | leading p => exact trivial

theorem SeesAlike.trans {P : Policy} {a b c : Text} (h : P.SeesAlike a b) (h' : P.SeesAlike b c) :
    P.SeesAlike a c := by
  cases P with
  | diagnostic p => exact Eq.trans h h'
  | leading p => exact trivial

/-- **A call looks the same in two texts** if its arguments, the line before it and the ends of the
lines are the same. -/
theorem apply_siteAt {P : Policy} {e : Editor} {location : Location} {target line index : Int}
    {text code : Text} {g g' : Call.Region} (hsees : P.SeesAlike text code)
    (harguments : g'.arguments = g.arguments)
    (hbefore : Text.lastLine (text.take g'.start) = Text.lastLine (code.take g.start)) :
    P.apply (e.siteAt location target index text g')
      = P.apply (e.siteAt location line index code g) := by
  have hsite : e.siteAt location target index text g'
      = { e.siteAt location line index code g with
          resolvedLine := target, newline := Call.newlineOf text } := by
    simp only [Editor.siteAt, Call.indentAfter, harguments, hbefore]
  rw [hsite]
  cases P with
  | diagnostic p =>
    have hnewline : Call.newlineOf text = Call.newlineOf code := hsees
    rw [hnewline]
    rfl
  | leading p => rfl

/-! ## The ends of the lines -/

open Text

/-- An application between two texts brings no `"\r\n"` up. -/
theorem hasCrLf_application {before function after : Text} {arguments : List Text}
    (hbefore : hasCrLf (before ++ function) = false)
    (harguments : ∀ t ∈ arguments, hasCrLf t = false) (hafter : hasCrLf after = false) :
    hasCrLf (before ++ (application function arguments ++ after)) = false := by
  have heq : before ++ (application function arguments ++ after)
      = before ++ function ++ '(' :: (commaJoin arguments ++ ')' :: after) := by
    simp [application]
  rw [heq, hasCrLf_append_cons (by decide) (by decide), hbefore, Bool.false_or,
    hasCrLf_append_cons (by decide) (by decide), hafter, Bool.or_false]
  exact hasCrLf_join harguments

theorem mem_of_mem_dropFrom {place : Int} {arguments : List Text} {t : Text}
    (h : t ∈ dropFrom place arguments) : t ∈ arguments := by
  rw [dropFrom] at h
  split at h <;> exact List.mem_of_mem_drop h

/-- The white space in front of a line has no carriage return. -/
theorem not_mem_indentAfter (before : Text) : '\r' ∉ Call.indentAfter before := fun hmem =>
  absurd (List.all_eq_true.mp List.all_takeWhile _ hmem) (by decide)

variable {p : Diagnostic} {before name after : Text}

/-- Neither does the first argument. -/
theorem hasCrLf_firstArgument (hid : p.idExpression.hasCrLf = false) {i : Int} {number : Text}
    (hnumber : Numeral.write i = .ok number) : hasCrLf (p.firstArgument number) = false := by
  have hplain : '\r' ∉ ['+', ' '] ++ number := by
    rw [List.mem_append, not_or]
    exact ⟨by decide, Numeral.not_mem_of_write hnumber⟩
  have heq : p.firstArgument number = p.idExpression ++ ' ' :: (['+', ' '] ++ number ++ []) := by
    simp [Diagnostic.firstArgument]
  rw [heq, hasCrLf_append_cons (by decide) (by decide), hid, hasCrLf_append hplain]
  rfl

/-- The second statement brings no `"\r\n"` up. -/
theorem hasCrLf_statement (hfunction : p.function.hasCrLf = false)
    (hmarker : p.marker.hasCrLf = false) (harguments : ∀ t ∈ site.arguments, hasCrLf t = false)
    (hafter : hasCrLf after = false) : hasCrLf (p.statement site ++ after) = false := by
  have hcall : hasCrLf ([] ++ (application p.function (dropFrom p.passFrom site.arguments)
      ++ after)) = false :=
    hasCrLf_application hfunction (fun t ht => harguments t (mem_of_mem_dropFrom ht)) hafter
  rw [Diagnostic.statement, List.append_assoc]
  split
  · exact hcall
  · rw [List.append_assoc, List.singleton_append, hasCrLf_append_cons (by decide) (by decide),
      hmarker]
    exact hcall

/-- **In a text without `"\r\n"` the diagnostic replacement brings none up.** -/
theorem Diagnostic.hasCrLf_replace (hp : (Policy.diagnostic p).Unbroken)
    (happly : p.apply site = .ok replacement) (hnewline : site.newline = ['\n'])
    (hindent : '\r' ∉ site.indent) (hbefore : hasCrLf (before ++ site.function) = false)
    (harguments : ∀ t ∈ site.arguments, hasCrLf t = false) (hafter : hasCrLf after = false) :
    hasCrLf (before ++ (replacement ++ after)) = false := by
  obtain ⟨hid, hfunction, hmarker⟩ := hp
  obtain ⟨number, hnumber, rfl⟩ := Diagnostic.apply_eq_ok happly
  have hsecond : hasCrLf (';' :: '\n' :: (site.indent ++ (p.statement site ++ after))) = false := by
    rw [hasCrLf_cons (by decide), hasCrLf_cons (by decide), hasCrLf_append hindent]
    exact hasCrLf_statement hfunction hmarker harguments hafter
  have hmem : ∀ t ∈ p.firstArgument number :: site.arguments.drop 1, hasCrLf t = false := by
    intro t ht
    rcases List.mem_cons.mp ht with rfl | ht
    · exact hasCrLf_firstArgument hid hnumber
    · exact harguments t (List.mem_of_mem_drop ht)
  have hcall := hasCrLf_application hbefore hmem hsecond
  simpa [hnewline] using hcall

/-- The new line of the diagnostic replacement ends as the lines of the file do. -/
theorem Diagnostic.newline_infix (happly : p.apply site = .ok replacement) :
    site.newline <:+: replacement := by
  obtain ⟨number, -, rfl⟩ := Diagnostic.apply_eq_ok happly
  rw [List.append_assoc _ site.indent]
  exact ⟨_, _, rfl⟩

/-- **A replacement keeps how the lines of its file end**, as far as the policy looks. -/
theorem seesAlike_replace {P : Policy} {e : Editor} {location : Location} {target index : Int}
    {code inner rest : Text} {g : Call.Region} (hP : P.Unbroken)
    (hparts : g.Parts e.function code before inner rest)
    (happly : P.apply (e.siteAt location target index code g) = .ok replacement) :
    P.SeesAlike (g.replace code replacement) code := by
  cases P with
  | leading p => exact trivial
  | diagnostic p =>
    change Call.newlineOf (g.replace code replacement) = Call.newlineOf code
    rw [Call.Region.replace, hparts.take_start, hparts.drop_stop]
    cases hcode : code.hasCrLf with
    | true =>
      have hnewline : (e.siteAt location target index code g).newline = ['\r', '\n'] := by
        rw [Editor.siteAt, Call.newlineOf, hcode, if_pos rfl]
      have hstands := Diagnostic.newline_infix happly
      rw [hnewline] at hstands
      have hstill : hasCrLf (before ++ (replacement ++ rest)) = true :=
        hasCrLf_eq_true_iff.mpr (hstands.trans ⟨before, rest, List.append_assoc ..⟩)
      rw [Call.newlineOf, Call.newlineOf, hcode, hstill]
    | false =>
      have hnewline : (e.siteAt location target index code g).newline = ['\n'] := by
        rw [Editor.siteAt, Call.newlineOf, hcode, if_neg Bool.false_ne_true]
      have hstands : ∀ t, t <:+: code → hasCrLf t = false := fun t ht => hasCrLf_of_infix ht hcode
      have hnone := Diagnostic.hasCrLf_replace hP happly hnewline (not_mem_indentAfter _)
        (hstands _ hparts.infix_name)
        (fun t ht => hstands t ((hparts.infix_inner t ht).trans hparts.infix_between))
        (hstands _ hparts.infix_rest)
      rw [Call.newlineOf, Call.newlineOf, hcode, hnone]

end Policy

end CallEdits
