import CallEdits.Proofs.FirstCalls
import CallEdits.Proofs.OwnText
import CallEdits.Proofs.RewrittenCalls

/-!
# Proofs/RenamedCalls — a renamed call is not found again

    lines   before   name gap ( a, b )   rest          the first call from the line on
    lines   before   new(ERR_0, a, b)    rest          no call of the name up to this parenthesis
                        ▴

The search takes the first call from a line on, so no call of the name begins before the one that is
replaced.  Another name in its place brings none up, wherever it might begin:

* before the new name — then it also ends there, as a name does not run on from one word into
  another, and it would have been found before (`Found.Stands.exists_of_lt`);
* with the new name — then it is a call by that name (`Found.Stands.name_eq`);
* inside the new name, or at its end — no call begins in a word (`Found.Stands.lt_of_word`).

It does not matter whether one of the names begins or ends with the other.
-/

namespace CallEdits

/-! ## Words -/

namespace Text

/-- **A word**: ASCII letters, digits and underscores. -/
def IsWord (t : Text) : Prop := ∀ c ∈ t, isWordChar c = true

theorem isWordChar_of_isBlank {c : Char} (h : isBlank c = true) : isWordChar c = false := by
  rw [← Bool.not_eq_true]
  intro hword
  exact Bool.false_ne_true
    ((continuesName_of_isBlank h).symm.trans (continuesName_of_isWordChar hword))

/-- The last character of a text that ends with a word is of that word. -/
theorem IsWord.exists_getLast? {u : Text} (hu : u.IsWord) (hne : u ≠ []) (a : Text) :
    ∃ c, (a ++ u).getLast? = some c ∧ isWordChar c = true := by
  refine ⟨u.getLast hne, ?_, hu _ (List.getLast_mem hne)⟩
  rw [Source.getLast?_append a hne, List.getLast?_eq_some_getLast hne]

/-- Blanks and an opening parenthesis that stand before a word do not reach into it. -/
theorem exists_opening_of_append {blanks d r w rest : Text}
    (hblank : ∀ c ∈ blanks, isBlank c = true) (hw : w.IsWord) (hne : w ≠ [])
    (h : blanks ++ '(' :: r = d ++ (w ++ rest)) :
    ∃ d', d = blanks ++ '(' :: d' := by
  have hopen : isBlank '(' = false := by decide
  cases hd : d.dropWhile isBlank with
  | nil =>
    obtain ⟨c, w, rfl⟩ := List.exists_cons_of_ne_nil hne
    have hc : isWordChar c = true := hw c List.mem_cons_self
    have hsolid : isBlank c = false := by
      rw [← Bool.not_eq_true]
      exact fun hblank => Bool.false_ne_true ((isWordChar_of_isBlank hblank).symm.trans hc)
    obtain ⟨-, hhead⟩ := blanks_inj hblank (dropWhile_isBlank_eq_nil.mp hd) hopen hsolid h
    rw [← (List.cons.inj hhead).1] at hc
    exact absurd hc (by decide)
  | cons c d' =>
    have hcut : d = d.takeWhile isBlank ++ c :: d' := by rw [← hd, List.takeWhile_append_dropWhile]
    have hsolid : isBlank c = false := by
      have hfound := head?_dropWhile_isBlank d
      rw [hd] at hfound
      simpa using List.find?_some hfound.symm
    rw [hcut, List.append_assoc, List.cons_append] at h
    obtain ⟨hsame, hhead⟩ :=
      blanks_inj hblank (List.all_eq_true.mp List.all_takeWhile) hopen hsolid h
    rw [hcut, ← hsame, ← (List.cons.inj hhead).1]
    exact ⟨d', rfl⟩

end Text

/-! ## Calls beside a new name -/

namespace Call

variable {name new before inner code : Text} {f found : Found}

/-- Behind the name of a call stands no further character of a word. -/
theorem Found.Stands.exists_stop (h : f.Stands name code) :
    ∃ c r, f.gap ++ f.after = c :: r ∧ Text.isWordChar c = false := by
  obtain ⟨r, hr⟩ := h.opens
  cases hgap : f.gap with
  | nil => exact ⟨'(', r, by rw [hr]; rfl, by decide⟩
  | cons c gap =>
    have hblank : Text.isBlank c = true := h.blank c (hgap ▸ List.mem_cons_self)
    exact ⟨c, gap ++ f.after, rfl, Text.isWordChar_of_isBlank hblank⟩

/-- **A call that begins before a word ends before it**, where the word is not the end of a longer
one.  So it stands there whatever comes in place of the word. -/
theorem Found.Stands.exists_of_lt (hname : name.IsWord) (hnew : new.IsWord) (hne : new ≠ [])
    (hfree : ∀ c, before.getLast? = some c → Text.isWordChar c = false)
    (h : f.Stands name (before ++ (new ++ inner))) (hlt : f.before.length < before.length)
    (old : Text) : ∃ f' : Found, f'.Stands name (before ++ old) ∧ f'.before = f.before := by
  obtain ⟨a, rfl⟩ : f.before <+: before := List.prefix_of_prefix_length_le
    ⟨_, h.text_eq.symm⟩ (List.prefix_append ..) (Nat.le_of_lt hlt)
  obtain ⟨r, hr⟩ := h.opens
  have htext : a ++ (new ++ inner) = name ++ (f.gap ++ '(' :: r) := by
    have := h.text_eq
    rw [hr, List.append_assoc] at this
    exact List.append_cancel_left this
  have hafter : name <+: a ∨ a <+: name :=
    List.prefix_or_prefix_of_prefix ⟨_, htext.symm⟩ (List.prefix_append ..)
  rcases hafter with ⟨d, rfl⟩ | hinside
  · rw [List.append_assoc] at htext
    obtain ⟨d', rfl⟩ := Text.exists_opening_of_append h.blank hnew hne
      (List.append_cancel_left htext).symm
    refine ⟨⟨f.before, f.gap, '(' :: (d' ++ old)⟩, ⟨⟨?_, h.blank, _, rfl⟩, h.free⟩, rfl⟩
    simp
  · -- The name would run on from the text before into the new word.
    have ha : a ≠ [] := by
      rintro rfl
      simp at hlt
    have hword : Text.IsWord a := fun c hc => hname c (hinside.subset hc)
    obtain ⟨c, hlast, hc⟩ := hword.exists_getLast? ha f.before
    exact absurd hc (by rw [hfree c hlast]; exact Bool.false_ne_true)

/-- **A call that begins with a word is a call by that name.** -/
theorem Found.Stands.name_eq (hname : name.IsWord) (hnew : new.IsWord)
    (h : f.Stands name (f.before ++ (new ++ '(' :: inner))) : name = new := by
  obtain ⟨c, r, hstop, hc⟩ := h.exists_stop
  have htext := List.append_cancel_left h.text_eq
  rw [hstop] at htext
  exact (Text.append_cons_inj hnew hname (by decide) hc htext).1.symm

/-- **No call begins inside a word.** -/
theorem Found.Stands.lt_of_word (hnew : new.IsWord)
    (h : f.Stands name (before ++ (new ++ inner))) (hlt : before.length < f.before.length) :
    before.length + new.length < f.before.length := by
  refine Nat.lt_of_not_le fun hle => ?_
  obtain ⟨a, ha⟩ : before <+: f.before := List.prefix_of_prefix_length_le
    (List.prefix_append ..) ⟨_, h.text_eq.symm⟩ (Nat.le_of_lt hlt)
  have hreach : f.before <+: before ++ new := List.prefix_of_prefix_length_le
    ⟨_, h.text_eq.symm⟩ ⟨inner, by simp⟩ (by rwa [List.length_append])
  rw [← ha, List.prefix_append_right_inj] at hreach
  have hne : a ≠ [] := by
    rintro rfl
    simp [← ha] at hlt
  have hword : Text.IsWord a := fun c hc => hnew c (hreach.subset hc)
  obtain ⟨c, hlast, hc⟩ := hword.exists_getLast? hne before
  rw [ha] at hlast
  exact absurd hc (by rw [h.free c hlast]; exact Bool.false_ne_true)

/-- **Where the first call gets another name, every call begins behind its parenthesis.** -/
theorem Found.Stands.lt_of_renamed (hname : name.IsWord) (hnew : new.IsWord) (hne : new ≠ [])
    (hdiff : name ≠ new) (hfind : find name code = some found)
    (h : f.Stands name (found.before ++ (new ++ '(' :: inner))) :
    found.before.length + new.length < f.before.length := by
  obtain ⟨hfound, hfirst⟩ := first_of_findFrom code [] hfind
  refine h.lt_of_word hnew (Nat.lt_of_not_le fun hle => ?_)
  rcases Nat.lt_or_eq_of_le hle with hlt | heq
  · obtain ⟨f', hf', hsame⟩ := h.exists_of_lt hname hnew hne hfound.free hlt
      (name ++ (found.gap ++ found.after))
    rw [← hfound.text_eq] at hf'
    exact absurd (hfirst f' hf' (Nat.zero_le _)) (by rw [hsame]; exact Nat.not_le.mpr hlt)
  · obtain ⟨hbefore, -⟩ := List.append_inj h.text_eq heq.symm
    rw [hbefore] at h
    exact hdiff (h.name_eq hname hnew)

/-! ## From later lines on -/

/-- A call from a line on is a call from every line before it on. -/
theorem Found.Stands.append_wholeLines {lines : Text} (hlines : Source.WholeLines lines)
    (h : f.Stands name code) :
    Found.Stands { f with before := lines ++ f.before } name (lines ++ code) := by
  refine ⟨⟨?_, h.blank, h.opens⟩, fun c hlast => ?_⟩
  · rw [List.append_assoc, ← h.text_eq]
  · by_cases hbefore : f.before = []
    · rw [hbefore, List.append_nil] at hlast
      rw [hlines c hlast]
      decide
    · rw [Source.getLast?_append lines hbefore] at hlast
      exact h.free c hlast

/-- **From the line of a renamed call on, and from every later one**, calls are found behind its
parenthesis only. -/
theorem lt_of_find_renamed (hname : name.IsWord) (hnew : new.IsWord) (hne : new ≠ [])
    (hdiff : name ≠ new) (hfind : find name code = some found) {lines : Text}
    (hlines : Source.WholeLines lines) {text : Text}
    (htext : text = lines ++ (found.before ++ (new ++ '(' :: inner))) {line : Int} {start : Nat}
    (hle : (lines.breaks : Int) + 1 ≤ line) (hstart : Source.lineStart? text line = some start)
    (hf : find name (text.drop start) = some f) :
    lines.length + found.before.length + new.length < start + f.before.length := by
  obtain ⟨lines', rest, rfl, rfl, hlines', rfl⟩ := Source.cut_of_lineStart? (by omega) hstart
  obtain ⟨between, rfl, hbetween, hrest⟩ := hlines.exists_append hlines' htext.symm (by omega)
  rw [List.drop_left] at hf
  have hstands := (first_of_findFrom rest [] hf).1.append_wholeLines hbetween
  rw [List.reverse_nil, List.nil_append, ← hrest] at hstands
  have hlt := hstands.lt_of_renamed hname hnew hne hdiff hfind
  rw [List.length_append] at hlt ⊢
  omega

/-! ## The renamed call in the new text -/

variable {line : Int} {g : Region}

/-- A region from a line on is found there. -/
theorem exists_find_of_region? {start : Nat} (hstart : Source.lineStart? code line = some start)
    (h : region? name code line = some g) :
    ∃ found, find name (code.drop start) = some found ∧ g.start = start + found.before.length := by
  rw [region?, hstart, Option.bind_some] at h
  obtain ⟨g₀, hg₀, rfl⟩ := Option.map_eq_some_iff.mp h
  obtain ⟨found, call, hfind, -, rfl⟩ := firstRegion?_eq_some_iff.mp hg₀
  exact ⟨found, hfind, rfl⟩

/-- **What stands before a call stands before its replacement**: the whole lines before its own, and
the beginning of that. -/
theorem exists_replace_of_region? (hline : 1 ≤ line) (h : region? name code line = some g)
    (replacement : Text) :
    ∃ lines found, Source.WholeLines lines ∧ (lines.breaks : Int) + 1 = line
      ∧ find name (code.drop lines.length) = some found
      ∧ g.start = lines.length + found.before.length
      ∧ g.replace code replacement
        = lines ++ (found.before ++ (replacement ++ code.drop g.stop)) := by
  obtain ⟨lines, b, g₀, rfl, hlines, rfl, -⟩ := cut_of_region? hline h
  obtain ⟨found, hfind, hstart⟩ := exists_find_of_region? (Source.lineStart?_append hlines b) h
  refine ⟨lines, found, hlines, rfl, hfind, hstart, ?_⟩
  rw [List.drop_left] at hfind
  rw [Region.replace, hstart, List.take_length_add_append, (occurs_of_find hfind).text_eq,
    List.take_left, List.append_assoc]

end Call

/-- A policy with a new name uses it. -/
theorem Policy.Leading.name_of_renameTo {p : Policy.Leading} {new : Text}
    (h : p.renameTo = some new) (hne : new ≠ []) (function : Text) : p.name function = new := by
  obtain ⟨c, r, rfl⟩ := List.exists_cons_of_ne_nil hne
  rw [name, h]

namespace Editor

open Call

variable {e : Editor} {p : Policy.Leading} {new : Text} {location : Location} {index : Int}
  {s s' : Session} {record : Record}

/-- **A renamed call is not found again.**  Where a call is replaced by one with another name, that
name and its parenthesis stand in the new text where the old call stood.  A call of the old name
that is found from the same line on begins behind that parenthesis; and so does the call that is
replaced where the location is repeated, in any session that has the new text and resolves the
location to that line or a later one.  (An empty new name would keep the old one.) -/
theorem renamed_call_not_found_again (hpolicy : e.policy = (Policy.leading p).apply)
    (hrename : p.renameTo = some new) (hname : e.function.IsWord) (hnew : new.IsWord)
    (hne : new ≠ []) (hdiff : e.function ≠ new)
    (h : e.replaceAt location index s = (.ok (some record), s')) :
    ∃ code g text start, (s.load location.path).1 = .ok code
      ∧ region? e.function code record.resolvedLine = some g
      ∧ (s'.load location.path).1 = .ok text
      ∧ Source.lineStart? text record.resolvedLine = some start
      ∧ new ++ ['('] <+: text.drop g.start
      ∧ (∀ found, find e.function (text.drop start) = some found →
          g.start + new.length < start + found.before.length)
      ∧ ∀ (again : Int) (u u' : Session) (record' : Record), (u.load location.path).1 = .ok text →
          record.resolvedLine ≤ location.line + u.shift location.path →
          e.replaceAt location again u = (.ok (some record'), u') →
          ∃ g', Step.region? e ⟨u, record', u'⟩ = some g' ∧ g.start + new.length < g'.start := by
  obtain ⟨-, hnone⟩ | ⟨code, edit, hrecord, hload, hedit, hafter, -⟩ := replaceAt_eq_ok h
  · exact nomatch hnone
  obtain ⟨hone, -, g, replacement, hg, happly, rfl⟩ := edit_eq_ok_iff.mp hedit
  obtain rfl := Option.some.inj hrecord
  rw [hpolicy] at happly
  obtain ⟨number, -, hreplacement⟩ := Policy.Leading.apply_eq_ok happly
  rw [Policy.Leading.name_of_renameTo hrename hne] at hreplacement
  obtain ⟨lines, found, hlines, hbreaks, hfind, hplace, htext⟩ :=
    exists_replace_of_region? hone hg replacement
  obtain ⟨inner, hinner⟩ : ∃ inner, replacement ++ code.drop g.stop = new ++ '(' :: inner := by
    rw [hreplacement, Policy.application, List.append_assoc, List.append_assoc]
    exact ⟨_, rfl⟩
  have hafter : (s'.load location.path).1 = .ok (g.replace code replacement) := hafter
  rw [hinner] at htext
  rw [htext] at hafter
  have hstart := Source.lineStart?_append hlines (found.before ++ (new ++ '(' :: inner))
  rw [hbreaks] at hstart
  refine ⟨code, g, _, lines.length, hload, hg, hafter, hstart, ?_, fun f hf => ?_, ?_⟩
  · rw [hplace, List.drop_length_add_append, List.drop_left]
    exact ⟨inner, by simp⟩
  · rw [hplace]
    exact lt_of_find_renamed hname hnew hne hdiff hfind hlines rfl hbreaks.le hstart hf
  · intro again u u' record' hload' hline hagain
    obtain ⟨text, g', htext', hg', hstep, -⟩ := exists_region?_of_replaceAt hagain
    obtain rfl := Except.ok.inj (htext'.symm.trans hload')
    obtain ⟨start, hstart', -⟩ := Option.bind_eq_some_iff.mp hg'
    obtain ⟨f, hf, hplace'⟩ := exists_find_of_region? hstart' hg'
    refine ⟨g', hstep, ?_⟩
    rw [hplace, hplace']
    exact lt_of_find_renamed hname hnew hne hdiff hfind hlines rfl (hbreaks.le.trans hline) hstart'
      hf

/-- The new name begins with the old one, and a call by the old name is nested: it is this one that
is found from the same line on. -/
theorem renamed_call_not_found_again_nested :
    let p : Policy.Leading := { renameTo := some "f2".toList }
    let e : Editor := ⟨['f'], (Policy.leading p).apply, [".h".toList]⟩
    let path : Text := "a.c".toList
    let code : Text := "f(a, f(b));\n".toList
    let text : Text := "f2(ERR_0, a, f(b));\n".toList
    let s : Session := { disk := ⟨[([path], .file (Utf8.encode code))], []⟩, store := {} }
    ((e.replaceAt ⟨path, 1⟩ 0 s).2.load path).1 = .ok text
      ∧ region? e.function code 1 = some ⟨0, 10, ["a".toList, "f(b)".toList]⟩
      ∧ find e.function text = some ⟨"f2(ERR_0, a, ".toList, [], "(b));\n".toList⟩
      ∧ 0 + "f2".toList.length < 0 + "f2(ERR_0, a, ".toList.length := by
  intro p e path code text s
  have hname : e.function.IsWord := List.forall_mem_singleton.mpr (by decide)
  have hword : "f2".toList.all Text.isWordChar = true := by decide
  have hload : (s.load path).1 = .ok code := by
    dsimp only [s, path, code]
    cbv
  have hok : (e.replaceAt ⟨path, 1⟩ 0 s).1
      = .ok (some ⟨⟨path, 1⟩, 1, "f2(ERR_0, a, f(b))".toList, 0⟩) := by
    dsimp only [e, p, s, path, code]
    cbv
  have hafter : ((e.replaceAt ⟨path, 1⟩ 0 s).2.load path).1 = .ok text := by
    dsimp only [e, p, s, path, code, text]
    cbv
  have hregion : region? e.function code 1 = some ⟨0, 10, ["a".toList, "f(b)".toList]⟩ := by
    decide +kernel
  have hfind : find e.function text = some ⟨"f2(ERR_0, a, ".toList, [], "(b));\n".toList⟩ := by
    decide +kernel
  have hfirst : Source.lineStart? text 1 = some 0 := by decide +kernel
  have hpolicy : e.policy = (Policy.leading p).apply := rfl
  have hrename : p.renameTo = some "f2".toList := rfl
  have hdiff : e.function ≠ "f2".toList := by decide
  rcases hstep : e.replaceAt ⟨path, 1⟩ 0 s with ⟨result, s'⟩
  rw [hstep] at hok hafter
  obtain rfl : result = _ := hok
  obtain ⟨code', g, text', start, hload', hg, hafter', hstart, -, hbehind, -⟩ :=
    renamed_call_not_found_again hpolicy hrename hname (List.all_eq_true.mp hword) (by decide) hdiff
      hstep
  obtain rfl := Except.ok.inj (hload.symm.trans hload')
  obtain rfl := Option.some.inj (hregion.symm.trans hg)
  obtain rfl := Except.ok.inj (hafter.symm.trans hafter')
  obtain rfl := Option.some.inj (hfirst.symm.trans hstart)
  exact ⟨hafter, hregion, hfind, hbehind _ hfind⟩

end Editor

end CallEdits
