import CallEdits.Proofs.RejoinedArguments
import CallEdits.Proofs.Replacements
import CallEdits.Proofs.RunSteps
import CallEdits.Text.Identifier
import Mathlib

/-!
# Proofs/RewrittenCalls — a replaced call is split once more

    name gap ( piece , … , piece ) rest   ──replace──▸   name ( generated, argument, … ) … rest
                                                              ╰──────── split ────────╯

Both policies write an application of the function to a generated argument and to arguments of the
old call, which were trimmed.  The generated argument is made of characters that mean nothing to
the scan, so `split_commaJoin_iff` decides: the new call has the arguments that were meant, and the
rest of the file behind it, if and only if none of the arguments kept is unfinished.
-/

namespace CallEdits

/-! ## Characters of names and numbers -/

/-- **A solid character** means nothing to the scan, and is no blank. -/
def Call.IsSolid (c : Char) : Prop := Call.IsPlain c ∧ Text.isBlank c = false

namespace Text

/-- No blank may stand in a name. -/
theorem continuesName_of_isBlank {c : Char} (h : isBlank c = true) : continuesName c = false := by
  let blanks : List Nat :=
    [9, 10, 11, 12, 13, 28, 29, 30, 31, 32, 0x85, 0xA0, 0x1680, 0x2000, 0x2001, 0x2002, 0x2003,
      0x2004, 0x2005, 0x2006, 0x2007, 0x2008, 0x2009, 0x200A, 0x2028, 0x2029, 0x202F, 0x205F,
      0x3000]
  have hmem : c.toNat ∈ blanks := by
    simp only [isBlank, Bool.or_eq_true, Bool.and_eq_true, decide_eq_true_eq, beq_iff_eq] at h
    simp only [blanks, List.mem_cons, List.not_mem_nil, or_false]
    omega
  have hall : ∀ n ∈ blanks, continuesName (Char.ofNat n) = false := by decide +kernel
  simpa using hall c.toNat hmem

theorem isSolid_of_continuesName {c : Char} (h : continuesName c = true) : Call.IsSolid c := by
  refine ⟨⟨?_, ?_, ?_, ?_, ?_⟩, ?_⟩
  iterate 5
    · rintro rfl
      exact absurd h (by decide)
  · rw [← Bool.not_eq_true]
    exact fun hblank => Bool.false_ne_true ((continuesName_of_isBlank hblank).symm.trans h)

/-- The characters of an ASCII name may stand in a name. -/
theorem continuesName_of_isWordChar {c : Char} (h : isWordChar c = true) :
    continuesName c = true := by
  have hascii : c.val.toNat < 0x80 := by
    simp only [isWordChar, Char.isAlphanum, Char.isAlpha, Char.isUpper, Char.isLower, Char.isDigit,
      Bool.or_eq_true, Bool.and_eq_true, decide_eq_true_eq, beq_iff_eq, UInt32.le_iff_toNat_le,
      ge_iff_le] at h
    rcases h with ((⟨-, h⟩ | ⟨-, h⟩) | ⟨-, h⟩) | rfl
    · exact Nat.lt_of_le_of_lt h (by decide)
    · exact Nat.lt_of_le_of_lt h (by decide)
    · exact Nat.lt_of_le_of_lt h (by decide)
    · decide
  exact (if_pos hascii).trans h

end Text

/-- The characters of a number are solid. -/
theorem Numeral.isSolid_of_write {i : Int} {number : Text} (h : write i = .ok number) {c : Char}
    (hc : c ∈ number) : Call.IsSolid c := by
  rcases (mem_of_write h).2 c hc with rfl | hdigit
  · exact ⟨⟨by decide, by decide, by decide, by decide, by decide⟩, by decide⟩
  · refine Text.isSolid_of_continuesName (Text.continuesName_of_isWordChar ?_)
    rw [Text.isWordChar, Char.isAlphanum, hdigit, Bool.or_true, Bool.true_or]

/-! ## The call in a replacement -/

namespace Policy

/-- The number of the first call. -/
def idStart : Policy → Int
  | .diagnostic p => p.idStart
  | .leading p => p.idStart

/-- The name of the function in a replacement. -/
def calledName (P : Policy) (function : Text) : Text :=
  match P with
  | .diagnostic _ => function
  | .leading p => p.name function

/-- The generated first argument, once its number is written. -/
def generated (P : Policy) (number : Text) : Text :=
  match P with
  | .diagnostic p => p.firstArgument number
  | .leading p => p.idStem ++ number

/-- The arguments of the old call that follow the generated one. -/
def kept (P : Policy) (arguments : List Text) : List Text :=
  match P with
  | .diagnostic _ => arguments.drop 1
  | .leading _ => arguments

/-- **What follows the new call**, if `old` followed the old one: the same, or a second statement
before it. -/
def Leaves (P : Policy) (old new : Text) : Prop :=
  match P with
  | .diagnostic _ => ∃ statement, new = ';' :: (statement ++ old)
  | .leading _ => new = old

/-- **Calls are numbered by names**: what stands before the number is made of characters of names,
and where an operator stands between them, it is not empty. -/
def NumbersByName : Policy → Prop
  | .diagnostic p => p.idExpression ≠ [] ∧ ∀ c ∈ p.idExpression, Text.continuesName c = true
  | .leading p => ∀ c ∈ p.idStem, Text.continuesName c = true

variable {P : Policy} {site : Call.Site} {replacement number : Text}

/-- **Every replacement begins with a call**, and what follows that is as it should be. -/
theorem exists_application_of_apply : ∀ {P : Policy}, P.apply site = .ok replacement →
    ∃ number tail, Numeral.write (P.idStart + site.index) = .ok number
      ∧ replacement = application (P.calledName site.function)
          (P.generated number :: P.kept site.arguments) ++ tail
      ∧ ∀ old, P.Leaves old (tail ++ old)
  | .diagnostic p, h => by
      obtain ⟨number, hnumber, rfl⟩ := Diagnostic.apply_eq_ok h
      refine ⟨number, ';' :: (site.newline ++ (site.indent ++ p.statement site)), hnumber, ?_,
        fun old => ⟨_, rfl⟩⟩
      simp only [List.append_assoc, List.singleton_append]
      rfl
  | .leading p, h => by
      obtain ⟨number, hnumber, rfl⟩ := Leading.apply_eq_ok h
      exact ⟨number, [], hnumber, (List.append_nil _).symm, fun old => rfl⟩

/-- The generated argument means nothing to the scan. -/
theorem isPlain_of_mem_generated (hP : P.NumbersByName) {i : Int}
    (hnumber : Numeral.write i = .ok number) {c : Char} (hc : c ∈ P.generated number) :
    Call.IsPlain c := by
  cases P with
  | diagnostic p =>
    rcases List.mem_append.mp hc with hc | hc
    · rcases List.mem_append.mp hc with hc | hc
      · exact (Text.isSolid_of_continuesName (hP.2 c hc)).1
      · simp only [List.mem_cons, List.not_mem_nil, or_false] at hc
        rcases hc with rfl | rfl | rfl <;>
          exact ⟨by decide, by decide, by decide, by decide, by decide⟩
    · exact (Numeral.isSolid_of_write hnumber hc).1
  | leading p =>
    rcases List.mem_append.mp hc with hc | hc
    · exact (Text.isSolid_of_continuesName (hP c hc)).1
    · exact (Numeral.isSolid_of_write hnumber hc).1

/-- A number behind a text that begins with no blank has no blanks at the ends. -/
theorem trim_append_number {t : Text} {i : Int} (hnumber : Numeral.write i = .ok number)
    (ht : ∀ c, t.head? = some c → Text.isBlank c = false) : (t ++ number).trim = t ++ number := by
  have hsolid : ∀ c ∈ number, Text.isBlank c = false := fun c hc =>
    (Numeral.isSolid_of_write hnumber hc).2
  refine Text.trim_eq_self (fun c hc => ?_) fun c hc => ?_
  · rw [List.head?_append, Option.or_eq_some_iff] at hc
    exact hc.elim (ht c) fun hc => hsolid c (List.mem_of_mem_head? hc.2)
  · rw [Source.getLast?_append _ (Numeral.mem_of_write hnumber).1] at hc
    exact hsolid c (List.mem_of_mem_getLast? hc)

/-- The generated argument has no blanks at its ends. -/
theorem trim_generated (hP : P.NumbersByName) {i : Int} (hnumber : Numeral.write i = .ok number) :
    (P.generated number).trim = P.generated number := by
  cases P with
  | diagnostic p =>
    obtain ⟨c, r, hid⟩ := List.exists_cons_of_ne_nil hP.1
    refine trim_append_number hnumber fun d hd => ?_
    rw [hid] at hd
    obtain rfl := Option.some.inj hd
    exact (Text.isSolid_of_continuesName (hP.2 c (hid ▸ List.mem_cons_self))).2
  | leading p =>
    refine trim_append_number hnumber fun d hd => ?_
    exact (Text.isSolid_of_continuesName (hP d (List.mem_of_mem_head? hd))).2

theorem generated_ne_nil {i : Int} (hnumber : Numeral.write i = .ok number) :
    P.generated number ≠ [] := by
  have hne := (Numeral.mem_of_write hnumber).1
  cases P with
  | diagnostic p => exact List.append_ne_nil_of_right_ne_nil _ hne
  | leading p => exact List.append_ne_nil_of_right_ne_nil _ hne

theorem mem_of_mem_kept {arguments : List Text} {a : Text} (h : a ∈ P.kept arguments) :
    a ∈ arguments := by
  cases P with
  | diagnostic p => exact List.mem_of_mem_drop h
  | leading p => exact h

end Policy

/-! ## The call in the new text -/

namespace Call

variable {name code : Text} {line : Int} {g : Region}

/-- The arguments of a region are those of a call that was split. -/
theorem arguments_of_region? (hline : 1 ≤ line) (h : region? name code line = some g) :
    ∀ a ∈ g.arguments, a.trim = a ∧ (Piece a ∨ Unfinished a) := by
  obtain ⟨_, _, g₀, -, -, -, hg₀, rfl⟩ := cut_of_region? hline h
  obtain ⟨_, call, -, hsplit, rfl⟩ := firstRegion?_eq_some_iff.mp hg₀
  exact arguments_of_split hsplit

end Call

namespace Editor

open Call

variable {e : Editor} {P : Policy} {location : Location} {index : Int} {s s' : Session}
  {record : Record}

/-- **When a replaced call is the call that was meant.**  At every location that is replaced, the
new text has a call of the function, by its old or its new name, where the old one stood.  This call
has the generated argument before the arguments kept, and the old rest of the file at its end, if
and only if none of these arguments is unfinished. -/
theorem replaced_call_splits_iff (hpolicy : e.policy = P.apply) (hP : P.NumbersByName)
    (h : e.replaceAt location index s = (.ok (some record), s')) :
    ∃ code g number inner, (s.load location.path).1 = .ok code
      ∧ region? e.function code record.resolvedLine = some g
      ∧ Numeral.write (P.idStart + index) = .ok number
      ∧ (s'.load location.path).1
        = .ok (code.take g.start ++ (P.calledName e.function ++ '(' :: inner))
      ∧ ((∃ call, split ('(' :: inner) = .ok call
            ∧ call.arguments = P.generated number :: P.kept g.arguments
            ∧ P.Leaves (code.drop g.stop) call.remainder)
          ↔ ∀ a ∈ P.kept g.arguments, ¬ Unfinished a) := by
  obtain ⟨-, hnone⟩ | ⟨code, edit, hrecord, hload, hedit, hafter, -⟩ := replaceAt_eq_ok h
  · exact nomatch hnone
  obtain ⟨hone, -, g, replacement, hg, happly, rfl⟩ := edit_eq_ok_iff.mp hedit
  obtain rfl := Option.some.inj hrecord
  rw [hpolicy] at happly
  obtain ⟨number, tail, hnumber, rfl, hleaves⟩ := Policy.exists_application_of_apply happly
  have hpiece := piece_of_isPlain fun c => Policy.isPlain_of_mem_generated hP hnumber
  have hkept : ∀ a ∈ P.kept g.arguments, a.trim = a ∧ (Piece a ∨ Unfinished a) := fun a ha =>
    arguments_of_region? hone hg a (Policy.mem_of_mem_kept ha)
  refine ⟨code, g, number, _, hload, hg, hnumber, ?_,
    split_commaJoin_iff (Policy.generated_ne_nil hnumber) (Policy.trim_generated hP hnumber)
      hpiece hkept (hleaves (code.drop g.stop))⟩
  rw [hafter]
  change Except.ok (g.replace code _) = _
  simp [Region.replace, Policy.application, siteAt]

/-- A line continuation stands before the closing parenthesis: the call that is written takes the
parenthesis for an escaped one, and is not the call that was meant. -/
theorem replaced_call_splits_iff_continued_line :
    let P : Policy := .leading {}
    let e : Editor := ⟨['f'], P.apply, [".h".toList]⟩
    let path : Text := "a.c".toList
    let code : Text := "f(a \\\n);\n".toList
    let s : Session := { disk := ⟨[([path], .file (Utf8.encode code))], []⟩, store := {} }
    P.NumbersByName ∧ region? e.function code 1 = some ⟨0, 7, ["a \\".toList]⟩
      ∧ Unfinished "a \\".toList
      ∧ ((e.replaceAt ⟨path, 1⟩ 0 s).2.load path).1 = .ok "f(ERR_0, a \\);\n".toList
      ∧ ¬ ∃ call, split "(ERR_0, a \\);\n".toList = .ok call
          ∧ call.arguments = ["ERR_0".toList, "a \\".toList] ∧ call.remainder = ";\n".toList := by
  intro P e path code s
  have hword : "ERR_".toList.all Text.isWordChar = true := by decide
  have hP : P.NumbersByName := fun c hc =>
    Text.continuesName_of_isWordChar (List.all_eq_true.mp hword c hc)
  have hregion : region? e.function code 1 = some ⟨0, 7, ["a \\".toList]⟩ := by decide +kernel
  have hopen : Unfinished "a \\".toList :=
    ⟨['a', ' '], .item (.plain (Text.isSolid_of_continuesName (by decide)).1)
      (Item.plain (isPlain_of_isBlank (by decide))).piece, rfl⟩
  have hload : (s.load path).1 = .ok code := by
    dsimp only [s, path, code]
    cbv
  have hok : (e.replaceAt ⟨path, 1⟩ 0 s).1
      = .ok (some ⟨⟨path, 1⟩, 1, "f(ERR_0, a \\)".toList, -1⟩) := by
    dsimp only [e, P, s, path, code]
    cbv
  have htext : ((e.replaceAt ⟨path, 1⟩ 0 s).2.load path).1
      = .ok "f(ERR_0, a \\);\n".toList := by
    dsimp only [e, P, s, path, code]
    cbv
  have hpolicy : e.policy = P.apply := rfl
  rcases hstep : e.replaceAt ⟨path, 1⟩ 0 s with ⟨result, s'⟩
  rw [hstep] at hok htext
  obtain rfl : result = _ := hok
  obtain ⟨code', g, number, inner, hload', hg, hnumber, htext', hiff⟩ :=
    replaced_call_splits_iff hpolicy hP hstep
  obtain rfl := Except.ok.inj (hload.symm.trans hload')
  obtain rfl := Option.some.inj (hregion.symm.trans hg)
  have hzero : Numeral.write (P.idStart + 0) = .ok ['0'] := by
    dsimp only [P, Policy.idStart]
    cbv
  obtain rfl := Except.ok.inj (hzero.symm.trans hnumber)
  have hinner : "f(ERR_0, a \\);\n".toList = 'f' :: '(' :: inner :=
    Except.ok.inj (htext.symm.trans htext')
  have hcall : "(ERR_0, a \\);\n".toList = '(' :: inner := (List.cons.inj hinner).2
  refine ⟨hP, hregion, hopen, htext, fun hfound => ?_⟩
  rw [hcall] at hfound
  exact hiff.mp hfound _ List.mem_cons_self hopen

end Editor

end CallEdits
