import CallEdits.Proofs.KeptTexts
import CallEdits.Proofs.RewrittenCalls
import Mathlib

/-!
# Proofs/LineEnds — a run keeps how the lines of a file end

    before ┆ name gap ( a , b ↵ ) ┆ rest
    before ┆ name ( id, b ) ; ↵ indent function ( b ) ┆ rest

Two properties are kept: every line feed follows a carriage return (`CrLfEnded`), and there is no
carriage return at all.  One proof serves both, as it cuts texts only where no carriage return is
parted from its line feed: arguments are trimmed, and the call ends with a parenthesis
(`OfLineEnds`).

The diagnostic policy adds a line, and looks in the text as it is now for how lines end.  What it
finds is what it would have found at first (`seesAlike_replace`); the leading-argument policy may
take the last break of a file away, but never looks.
-/

namespace CallEdits

/-! ## The ends of lines -/

namespace Text

/-- **Every line feed follows a carriage return.** -/
def CrLfEnded (t : Text) : Prop := ∀ a b, t = a ++ '\n' :: b → a.getLast? = some '\r'

theorem crLfEnded_iff {t : Text} :
    CrLfEnded t ↔ ∀ a ∈ t.inits, a ++ ['\n'] <+: t → a.getLast? = some '\r' := by
  refine ⟨?_, ?_⟩
  · rintro h a - ⟨b, hb⟩
    exact h a b (by rw [← hb, List.append_assoc, List.singleton_append])
  · rintro h a b rfl
    exact h a ((List.mem_inits ..).mpr (List.prefix_append ..)) ⟨b, by simp⟩

instance : DecidablePred CrLfEnded := fun _ => decidable_of_iff _ crLfEnded_iff.symm

theorem hasCrLf_of_not_mem {t : Text} (h : '\r' ∉ t) : hasCrLf t = false := by
  rw [← List.append_nil t, hasCrLf_append h]
  rfl

/-- **A text without any break.** -/
def OneLine (t : Text) : Prop := '\r' ∉ t ∧ '\n' ∉ t

instance : DecidablePred OneLine := fun _ => inferInstanceAs (Decidable (_ ∧ _))

/-- **A property of how lines end**: texts without breaks have it, texts that have it can be joined,
and it can be cut, though not right behind a carriage return. -/
structure OfLineEnds (Q : Text → Prop) : Prop where
  plain : ∀ {t}, OneLine t → Q t
  append : ∀ {a b}, Q a → Q b → Q (a ++ b)
  left : ∀ {a b}, Q (a ++ b) → Q a
  right : ∀ {a b c}, c ≠ '\r' → Q (a ++ c :: b) → Q b

theorem ofLineEnds_crLfEnded : OfLineEnds CrLfEnded where
  plain := by
    rintro t ⟨-, hfeed⟩ a b rfl
    exact absurd (List.mem_append_right a List.mem_cons_self) hfeed
  append := by
    intro s t hs ht a b heq
    obtain ⟨x, rfl, htail⟩ | ⟨x, rfl, hmid⟩ := List.append_eq_append_iff.mp heq
    · -- The line feed stands in the second text.
      have hx := ht x b htail
      rw [List.getLast?_append, hx, Option.some_or]
    · cases x with
      | nil => cases ht [] b hmid.symm
      | cons c x =>
        obtain ⟨rfl, -⟩ := List.cons.inj hmid
        exact hs a x rfl
  left := by
    rintro s t h a b rfl
    exact h a (b ++ t) (by simp)
  right := by
    rintro s t c hc h a b rfl
    have hlast := h (s ++ c :: a) b (by simp)
    rw [List.getLast?_append] at hlast
    cases a with
    | nil => exact absurd (Option.some.inj hlast) hc
    | cons d a => simpa using hlast

theorem ofLineEnds_not_mem : OfLineEnds ('\r' ∉ ·) where
  plain := And.left
  append := fun ha hb => by
    rw [List.mem_append]
    exact not_or.mpr ⟨ha, hb⟩
  left := fun h hmem => h (List.mem_append_left _ hmem)
  right := fun _ h hmem => h (List.mem_append_right _ (List.mem_cons_of_mem _ hmem))

namespace OfLineEnds

variable {Q : Text → Prop} {s t : Text}

/-- A part of a text that begins with no break. -/
theorem part (h : OfLineEnds Q) (ht : Q t) (hs : s <:+: t)
    (hhead : ∀ c, s.head? = some c → isBlank c = false) : Q s := by
  cases s with
  | nil => exact h.plain ⟨List.not_mem_nil, List.not_mem_nil⟩
  | cons c s =>
    obtain ⟨a, b, rfl⟩ := hs
    have hc := hhead c rfl
    have hreturn : c ≠ '\r' := by
      rintro rfl
      exact absurd hc (by decide)
    have hfeed : c ≠ '\n' := by
      rintro rfl
      exact absurd hc (by decide)
    have hfirst : OneLine [c] :=
      ⟨fun hmem => hreturn (List.mem_singleton.mp hmem).symm,
        fun hmem => hfeed (List.mem_singleton.mp hmem).symm⟩
    exact h.append (h.plain hfirst) (h.right hreturn (h.left ht))

theorem join (h : OfLineEnds Q) : ∀ {pieces : List Text}, (∀ t ∈ pieces, Q t) →
    Q (Text.join [',', ' '] pieces)
  | [], _ => h.plain (by decide)
  | [t], hpieces => by
      rw [join_singleton]
      exact hpieces t List.mem_cons_self
  | t :: u :: us, hpieces => by
      have hrest := h.join fun v hv => hpieces v (List.mem_cons_of_mem t hv)
      have hcomma : Q [',', ' '] := h.plain (by decide)
      rw [join_cons_cons]
      exact h.append (hpieces t List.mem_cons_self) (h.append hcomma hrest)

theorem application (h : OfLineEnds Q) {before function : Text} {arguments : List Text}
    (hfunction : Q (before ++ function)) (harguments : ∀ t ∈ arguments, Q t) :
    Q (before ++ Policy.application function arguments) := by
  have hopen : Q ['('] := h.plain (by decide)
  have hclose : Q [')'] := h.plain (by decide)
  have hall := h.append (h.append (h.append hfunction hopen) (h.join harguments)) hclose
  simpa [Policy.application, Policy.commaJoin] using hall

end OfLineEnds

end Text

/-! ## What the policies write -/

namespace Policy

open Text (OfLineEnds)

/-- **A policy all of whose strings are without breaks.** -/
def OneLine : Policy → Prop
  | .diagnostic p => p.idExpression.OneLine ∧ p.function.OneLine ∧ p.marker.OneLine
  | .leading p => p.idStem.OneLine ∧ ∀ name ∈ p.renameTo, name.OneLine

instance : DecidablePred OneLine
  | .diagnostic _ => inferInstanceAs (Decidable (_ ∧ _ ∧ _))
  | .leading _ => inferInstanceAs (Decidable (_ ∧ ∀ name ∈ _, _))

variable {P : Policy} {Q : Text → Prop} {site : Call.Site} {before replacement : Text}

theorem OneLine.unbroken (h : P.OneLine) : P.Unbroken := by
  cases P with
  | diagnostic p =>
    obtain ⟨hid, hfunction, hmarker⟩ := h
    exact ⟨Text.hasCrLf_of_not_mem hid.1, Text.hasCrLf_of_not_mem hfunction.1,
      Text.hasCrLf_of_not_mem hmarker.1⟩
  | leading p => exact trivial

theorem oneLine_of_write {i : Int} {number : Text} (h : Numeral.write i = .ok number) :
    number.OneLine :=
  ⟨Numeral.not_mem_of_write h, fun hmem =>
    ((Numeral.mem_of_write h).2 _ hmem).elim (by decide) (by decide)⟩

theorem oneLine_indentAfter (before : Text) : (Call.indentAfter before).OneLine :=
  ⟨not_mem_indentAfter before, fun hmem =>
    absurd (List.all_eq_true.mp List.all_takeWhile _ hmem) (by decide)⟩

/-- The generated argument is without breaks. -/
theorem OneLine.generated (h : P.OneLine) {i : Int} {number : Text}
    (hnumber : Numeral.write i = .ok number) : (P.generated number).OneLine := by
  obtain ⟨hreturn, hfeed⟩ := oneLine_of_write hnumber
  cases P with
  | diagnostic p =>
    obtain ⟨⟨hid, hid'⟩, -⟩ := h
    simp [Policy.generated, Diagnostic.firstArgument, Text.OneLine, *]
  | leading p =>
    obtain ⟨⟨hstem, hstem'⟩, -⟩ := h
    simp [Policy.generated, Text.OneLine, *]

/-- The name in a replacement is the old one, or is without breaks. -/
theorem OneLine.lineEnds_calledName (hQ : OfLineEnds Q) (hP : P.OneLine) {function : Text}
    (hfunction : Q (before ++ function)) : Q (before ++ P.calledName function) := by
  cases P with
  | diagnostic p => exact hfunction
  | leading p =>
    rw [calledName, Leading.name]
    split
    · exact hfunction
    · exact hfunction
    · rename_i name _ hname
      exact hQ.append (hQ.left hfunction) (hQ.plain (hP.2 name hname))

/-- The statement that follows the call. -/
theorem Diagnostic.lineEnds_statement (hQ : OfLineEnds Q) {p : Diagnostic}
    (hP : (Policy.diagnostic p).OneLine) (harguments : ∀ t ∈ site.arguments, Q t) :
    Q (p.statement site) := by
  obtain ⟨-, hfunction, hmarker⟩ := hP
  have hcall : Q ([] ++ application p.function (dropFrom p.passFrom site.arguments)) :=
    hQ.application (hQ.plain hfunction) fun t ht => harguments t (mem_of_mem_dropFrom ht)
  rw [Diagnostic.statement]
  split
  · exact hcall
  · exact hQ.append (hQ.append (hQ.plain hmarker) (hQ.plain (by decide))) hcall

/-- **A replacement keeps how lines end**, if the diagnostic policy is told to end its own line
so. -/
theorem lineEnds_apply (hQ : OfLineEnds Q) (hP : P.OneLine)
    (happly : P.apply site = .ok replacement) (hfunction : Q (before ++ site.function))
    (harguments : ∀ t ∈ site.arguments, Q t) (hindent : site.indent.OneLine)
    (hnewline : ∀ p, P = .diagnostic p → Q site.newline) : Q (before ++ replacement) := by
  have hcall : ∀ {i : Int} {number : Text}, Numeral.write i = .ok number →
      Q (before ++ application (P.calledName site.function)
        (P.generated number :: P.kept site.arguments)) := by
    intro i number hnumber
    refine hQ.application (hP.lineEnds_calledName hQ hfunction) fun t ht => ?_
    rcases List.mem_cons.mp ht with rfl | ht
    · exact hQ.plain (hP.generated hnumber)
    · exact harguments t (mem_of_mem_kept ht)
  cases P with
  | diagnostic p =>
    obtain ⟨number, hnumber, rfl⟩ := Diagnostic.apply_eq_ok happly
    have hend : Q ([';'] ++ site.newline) := hQ.append (hQ.plain (by decide)) (hnewline p rfl)
    have hall := hQ.append (hQ.append (hQ.append (hcall hnumber) hend) (hQ.plain hindent))
      (Diagnostic.lineEnds_statement hQ hP harguments)
    simpa only [List.append_assoc, calledName, generated, kept] using hall
  | leading p =>
    obtain ⟨number, hnumber, rfl⟩ := Leading.apply_eq_ok happly
    exact hcall hnumber

end Policy

/-! ## Edits and runs -/

namespace Editor

open Call Session
open Text (CrLfEnded OfLineEnds)
open CallEdits.Path (Plain backupSuffix)

variable {e : Editor} {P : Policy} {Q : Text → Prop} {path code : Text}

/-- **An edit keeps how lines end**, and what the policy sees of that. -/
theorem lineEnds_edit (hpolicy : e.policy = P.apply) (hP : P.OneLine) (hQ : OfLineEnds Q)
    {first : Text} (hfirst : Q (newlineOf first)) {location : Location} {target index : Int}
    {edit : Edit} (hcode : Q code ∧ P.SeesAlike code first)
    (h : e.edit location target index code = .ok edit) :
    Q edit.code ∧ P.SeesAlike edit.code first := by
  obtain ⟨hends, hsees⟩ := hcode
  obtain ⟨hone, -, g, replacement, hg, happly, rfl⟩ := edit_eq_ok_iff.mp h
  rw [hpolicy] at happly
  obtain ⟨before, inner, rest, hparts⟩ := exists_parts_of_region? hone hg
  refine ⟨?_, (Policy.seesAlike_replace hP.unbroken hparts happly).trans hsees⟩
  have hfunction : Q (before ++ e.function) := by
    obtain ⟨tail, htail⟩ : before ++ e.function <+: code := ⟨inner ++ ')' :: rest, by
      rw [hparts.code_eq]
      simp⟩
    exact hQ.left (htail ▸ hends)
  have hrest : Q rest := hQ.right (by decide : ')' ≠ '\r') (hparts.code_eq' ▸ hends)
  have harguments : ∀ a ∈ g.arguments, Q a := by
    intro a ha
    refine hQ.part hends ((hparts.infix_inner a ha).trans hparts.infix_between) fun c hc => ?_
    rw [← (arguments_of_region? hone hg a ha).1] at hc
    exact Text.head?_trim hc
  have hnewline : ∀ p, P = .diagnostic p → Q (newlineOf code) := by
    rintro p rfl
    have hsame : newlineOf code = newlineOf first := hsees
    rwa [hsame]
  have hwritten := Policy.lineEnds_apply hQ hP happly hfunction harguments
    (Policy.oneLine_indentAfter _) hnewline
  change Q (g.replace code replacement)
  rw [Region.replace, hparts.take_start, hparts.drop_stop, ← List.append_assoc]
  exact hQ.append hwritten hrest

/-- A property of how lines end is kept by a run, if the lines that are added may have it. -/
theorem run_keeps_ofLineEnds (hpolicy : e.policy = P.apply) (hP : P.OneLine) (hQ : OfLineEnds Q)
    {locations : List Location} {s : Session}
    (hstore : s.store.mode = .dry ∨ Encoding.ofName? s.store.encoding = some .utf8)
    (hover : ∀ l ∈ locations, l.path ≠ path → e.isDeclaration l.path = false →
      ¬ s.BacksUpOver l.path path)
    (hload : (s.load path).1 = .ok code) (hcode : Q code) (hnewline : Q (newlineOf code)) :
    e.Throughout locations s (·.TextHas path Q) := by
  have hkept : e.Throughout locations s
      (·.TextHas path fun text => Q text ∧ P.SeesAlike text code) :=
    run_keeps_texts (fun _ _ _ _ _ htext h => lineEnds_edit hpolicy hP hQ hnewline htext h)
      hstore hover ⟨code, hload, hcode, P.seesAlike_refl code⟩
  refine hkept.mono ?_
  rintro t ⟨text, htext, hends, -⟩
  exact ⟨text, htext, hends⟩

/-- **A run keeps how the lines of every file end**, after each replaced call and at its end,
whether it succeeds or not.  Where every line feed of a text with breaks follows a carriage return,
every one goes on doing so; where there is no carriage return, none comes up.  Only a file that the
backup of another one is put over may change in this. -/
theorem run_keeps_line_ends (hpolicy : e.policy = P.apply) (hP : P.OneLine)
    {locations : List Location} {s : Session}
    (hstore : s.store.mode = .dry ∨ Encoding.ofName? s.store.encoding = some .utf8)
    (hover : ∀ l ∈ locations, l.path ≠ path → e.isDeclaration l.path = false →
      ¬ s.BacksUpOver l.path path)
    (hload : (s.load path).1 = .ok code) :
    (0 < code.breaks → code.CrLfEnded → e.Throughout locations s (·.TextHas path CrLfEnded))
      ∧ ('\r' ∉ code → e.Throughout locations s (·.TextHas path ('\r' ∉ ·))) := by
  refine ⟨fun hbreaks hcode => ?_, fun hcode => ?_⟩
  · refine run_keeps_ofLineEnds hpolicy hP Text.ofLineEnds_crLfEnded hstore hover hload hcode ?_
    obtain ⟨a, b, hcut⟩ := List.append_of_mem (List.count_pos_iff.mp hbreaks)
    obtain ⟨a', rfl⟩ := List.getLast?_eq_some_iff.mp (hcode a b hcut)
    have hcrLf : code.hasCrLf = true :=
      Text.hasCrLf_eq_true_iff.mpr ⟨a', b, by rw [hcut]; simp⟩
    rw [newlineOf, hcrLf, if_pos rfl]
    decide
  · refine run_keeps_ofLineEnds hpolicy hP Text.ofLineEnds_not_mem hstore hover hload hcode ?_
    rw [newlineOf, Text.hasCrLf_of_not_mem hcode, if_neg Bool.false_ne_true]
    decide

/-- Two calls are replaced, the first of which spreads over two lines, before the run gives up at
another file: the lines that were added end as the others do. -/
theorem run_keeps_line_ends_given_up :
    let P : Policy := .diagnostic { passFrom := 1 }
    let e : Editor := ⟨['f'], P.apply, [".h".toList]⟩
    let a : Text := "a.c".toList
    let b : Text := "b.c".toList
    let code : Text := "f(a,\r\n  b);\r\nf(c, d);\r\n".toList
    let locations : List Location := [⟨b, 1⟩, ⟨a, 1⟩, ⟨a, 3⟩]
    let s : Session := inPlace true
      ⟨[([a], .file (Utf8.encode code)), ([b], .file [])], []⟩ {} "utf-8".toList
    P.OneLine ∧ (s.load a).1 = .ok code ∧ 0 < code.breaks ∧ code.CrLfEnded
      ∧ (∀ l ∈ locations, l.path ≠ a → e.isDeclaration l.path = false → ¬ s.BacksUpOver l.path a)
      ∧ (e.run locations s).1 = .error (.fault (.overflow (some b) (some 1) (some 0)))
      ∧ ((e.run locations s).2.load a).1
        = .ok ("f(BASE_ERROR_ID + 0, b);\r\n/* TO-DELETE */ printf(b);\r\n".toList
          ++ "f(BASE_ERROR_ID + 1, d);\r\n/* TO-DELETE */ printf(d);\r\n".toList)
      ∧ e.Throughout locations s (·.TextHas a CrLfEnded) := by
  intro P e a b code locations s
  have hP : P.OneLine := by decide
  have hload : (s.load a).1 = .ok code := by
    dsimp only [s, a, code]
    cbv
  have hbreaks : 0 < code.breaks := by decide
  have hcode : code.CrLfEnded := by decide
  have hover : ∀ l ∈ locations, l.path ≠ a → e.isDeclaration l.path = false →
      ¬ s.BacksUpOver l.path a := by
    intro l hl _ _
    have hplain : ∀ l ∈ locations, Plain l.path ∧ a ≠ l.path ++ backupSuffix := by decide
    exact not_backsUpOver_of_plain (hplain l hl).1 (by decide) (hplain l hl).2
  have hfailure : (e.run locations s).1
      = .error (.fault (.overflow (some b) (some 1) (some 0))) := by
    dsimp only [e, P, locations, s, a, b, code]
    cbv
  have hafter : ((e.run locations s).2.load a).1
      = .ok ("f(BASE_ERROR_ID + 0, b);\r\n/* TO-DELETE */ printf(b);\r\n".toList
        ++ "f(BASE_ERROR_ID + 1, d);\r\n/* TO-DELETE */ printf(d);\r\n".toList) := by
    dsimp only [e, P, locations, s, a, b, code]
    cbv
  have hutf8 : Encoding.ofName? "utf-8".toList = some .utf8 := by cbv
  have hpolicy : e.policy = P.apply := rfl
  exact ⟨hP, hload, hbreaks, hcode, hover, hfailure, hafter,
    (run_keeps_line_ends hpolicy hP (.inr hutf8) hover hload).1 hbreaks hcode⟩

/-- **A backup that is put over a listed file** brings other line ends with it: the file had
`"\r\n"` alone, and ends up without any. -/
theorem run_backs_up_over_line_ends :
    let P : Policy := .leading {}
    let e : Editor := ⟨['f'], P.apply, [".h".toList]⟩
    let a : Text := "a.c".toList
    let b : Text := "a.c.bak".toList
    let code : Text := "f(b);\r\n".toList
    let locations : List Location := [⟨a, 1⟩, ⟨b, 1⟩]
    let s : Session := inPlace true
      ⟨[([a], .file (Utf8.encode "f(a);\n".toList)), ([b], .file (Utf8.encode code))], []⟩ {}
      "utf-8".toList
    P.OneLine ∧ Plain a ∧ Plain b ∧ Encoding.ofName? s.store.encoding = some .utf8
      ∧ (s.load b).1 = .ok code ∧ 0 < code.breaks ∧ code.CrLfEnded
      ∧ (e.run locations s).1
        = .ok [⟨⟨a, 1⟩, 1, "f(ERR_0, a)".toList, 0⟩, ⟨⟨b, 1⟩, 1, "f(ERR_1, a)".toList, 0⟩]
      ∧ ((e.run locations s).2.load b).1 = .ok "f(ERR_1, a);\n".toList
      ∧ ¬ e.Throughout locations s (·.TextHas b CrLfEnded) := by
  intro P e a b code locations s
  have hutf8 : Encoding.ofName? "utf-8".toList = some .utf8 := by cbv
  have hload : (s.load b).1 = .ok code := by
    dsimp only [s, a, b, code]
    cbv
  have hok : (e.run locations s).1
      = .ok [⟨⟨a, 1⟩, 1, "f(ERR_0, a)".toList, 0⟩, ⟨⟨b, 1⟩, 1, "f(ERR_1, a)".toList, 0⟩] := by
    dsimp only [e, P, locations, s, a, b, code]
    cbv
  have hafter : ((e.run locations s).2.load b).1 = .ok "f(ERR_1, a);\n".toList := by
    dsimp only [e, P, locations, s, a, b, code]
    cbv
  refine ⟨by decide, by decide, by decide, hutf8, hload, by decide, by decide, hok, hafter, ?_⟩
  rintro ⟨-, text, htext, hends⟩
  obtain rfl := Except.ok.inj (hafter.symm.trans htext)
  exact absurd hends (by decide)

end Editor

end CallEdits
