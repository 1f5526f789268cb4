import CallEdits.Editor
import CallEdits.Proofs.ArgumentGrammar
import CallEdits.Proofs.CallSearch
import CallEdits.Proofs.LineNumbers

/-!
# Proofs/Regions — an edit replaces one stretch of a text

    code = ……………… name gap ( piece , … , piece ) ………………
                   ▴ start                       ▴ stop

The call that an edit replaces is a `Region` of the text: it runs from the function's name through
the closing parenthesis.  `edit_eq_ok_iff` says all that an edit does in these terms — the text
before `start` and from `stop` on is kept, and the number of lines changes by the breaks of the
replacement less those of the region.
-/

namespace CallEdits

namespace Call

/-- **A call as a stretch of a text**, from the name of the function through the closing
parenthesis. -/
structure Region where
  start : Nat
  /-- The position after the closing parenthesis. -/
  stop : Nat
  arguments : List Text
  deriving DecidableEq

namespace Region

/-- The same call in a text with `n` more characters in front. -/
def shift (n : Nat) (g : Region) : Region := { g with start := n + g.start, stop := n + g.stop }

/-- The text of a region. -/
def text (g : Region) (code : Text) : Text := (code.take g.stop).drop g.start

/-- The text with something else in place of a region. -/
def replace (g : Region) (code replacement : Text) : Text :=
  code.take g.start ++ (replacement ++ code.drop g.stop)

end Region

/-- **The first call of `name` in a text**, as a region. -/
def firstRegion? (name code : Text) : Option Region :=
  match find name code with
  | none => none
  | some found =>
    match split found.after with
    | .error _ => none
    | .ok call =>
      some ⟨found.before.length, code.length - call.remainder.length, call.arguments⟩

/-- **The first call of `name` from a line on.** -/
def region? (name code : Text) (line : Int) : Option Region :=
  (Source.lineStart? code line).bind fun position =>
    (firstRegion? name (code.drop position)).map (Region.shift position)

variable {name code : Text} {g : Region}

/-! ## The parts of a text with a call -/

/-- **A text around a call**: what stands before the name, what stands between the name and the
closing parenthesis, and the rest. -/
structure Region.Parts (g : Region) (name code before inner rest : Text) : Prop where
  code_eq : code = before ++ (name ++ inner ++ ')' :: rest)
  start_eq : g.start = before.length
  stop_eq : g.stop = (before ++ (name ++ inner)).length + 1
  infix_inner : ∀ a ∈ g.arguments, a <:+: inner

namespace Region.Parts

variable {before inner rest : Text}

theorem take_start (h : g.Parts name code before inner rest) : code.take g.start = before := by
  rw [h.code_eq, h.start_eq, List.take_left]

theorem code_eq' (h : g.Parts name code before inner rest) :
    code = before ++ (name ++ inner) ++ ([')'] ++ rest) := by
  rw [h.code_eq, List.append_assoc before]
  rfl

theorem take_stop (h : g.Parts name code before inner rest) :
    code.take g.stop = before ++ (name ++ inner) ++ [')'] := by
  rw [h.code_eq', h.stop_eq, List.take_length_add_append]
  rfl

theorem drop_stop (h : g.Parts name code before inner rest) : code.drop g.stop = rest := by
  rw [h.code_eq', h.stop_eq, List.drop_length_add_append]
  rfl

theorem text_eq (h : g.Parts name code before inner rest) :
    g.text code = name ++ inner ++ [')'] := by
  rw [Region.text, h.take_stop, h.start_eq, List.append_assoc, List.drop_left]

theorem start_le_stop (h : g.Parts name code before inner rest) : g.start ≤ g.stop := by
  rw [h.start_eq, h.stop_eq, List.length_append]
  omega

theorem start_le_length (h : g.Parts name code before inner rest) : g.start ≤ code.length := by
  rw [h.code_eq, h.start_eq, List.length_append]
  exact Nat.le_add_right ..

theorem infix_name (h : g.Parts name code before inner rest) : before ++ name <:+: code :=
  ⟨[], inner ++ ')' :: rest, by simp [h.code_eq]⟩

theorem infix_between (h : g.Parts name code before inner rest) : inner <:+: code :=
  ⟨before ++ name, ')' :: rest, by simp [h.code_eq]⟩

theorem infix_rest (h : g.Parts name code before inner rest) : rest <:+: code :=
  ⟨before ++ (name ++ inner) ++ [')'], [], by simp [h.code_eq]⟩

theorem breaks_text (h : g.Parts name code before inner rest) :
    (g.text code).breaks = name.breaks + inner.breaks := by
  rw [h.text_eq, Text.breaks_append, Text.breaks_append]
  rfl

/-- Replacing a call exchanges its breaks for those of the replacement. -/
theorem breaks_replace (h : g.Parts name code before inner rest) (replacement : Text) :
    (g.replace code replacement).breaks + (g.text code).breaks
      = code.breaks + replacement.breaks := by
  have hcode := congrArg Text.breaks h.code_eq
  rw [Text.breaks_append, Text.breaks_append, Text.breaks_append,
    Text.breaks_cons_of_ne (by decide)] at hcode
  rw [Region.replace, h.take_start, h.drop_stop, h.breaks_text, Text.breaks_append,
    Text.breaks_append, hcode]
  omega

/-- Text in front of a call is text before its name. -/
theorem shift (h : g.Parts name code before inner rest) (a : Text) :
    (g.shift a.length).Parts name (a ++ code) (a ++ before) inner rest where
  code_eq := (congrArg (a ++ ·) h.code_eq).trans (List.append_assoc ..).symm
  start_eq := by rw [Region.shift, h.start_eq, List.length_append]
  stop_eq := by
    rw [Region.shift, h.stop_eq]
    simp only [List.length_append]
    omega
  infix_inner := h.infix_inner

end Region.Parts

/-- A call that is found and split is a region with its parts. -/
theorem parts_of_split {found : Found} {call : Arguments} (hfind : find name code = some found)
    (hsplit : split found.after = .ok call) :
    ∃ inner, call.lines + found.gap.breaks = inner.breaks
      ∧ Region.Parts ⟨found.before.length, code.length - call.remainder.length, call.arguments⟩
          name code found.before inner call.remainder := by
  obtain ⟨t, htext, hlines, hstands⟩ := text_of_split hsplit
  have hcode : code = found.before ++ (name ++ (found.gap ++ t) ++ ')' :: call.remainder) := by
    rw [(occurs_of_find hfind).text_eq, htext]
    simp only [List.append_assoc]
  refine ⟨found.gap ++ t, by rw [hlines, Text.breaks_append, Nat.add_comm], hcode, rfl, ?_, ?_⟩
  · have hlen := congrArg List.length hcode
    simp only [List.length_append, List.length_cons] at hlen ⊢
    omega
  · exact fun a ha => (hstands a ha).trans (List.suffix_append ..).isInfix

theorem firstRegion?_eq_some_iff :
    firstRegion? name code = some g
      ↔ ∃ found call, find name code = some found ∧ split found.after = .ok call
          ∧ g = ⟨found.before.length, code.length - call.remainder.length, call.arguments⟩ := by
  refine ⟨fun h => ?_, ?_⟩
  · rw [firstRegion?] at h
    split at h
    · exact nomatch h
    · rename_i found hfind
      split at h
      · exact nomatch h
      · rename_i call hsplit
        exact ⟨found, call, hfind, hsplit, (Option.some.inj h).symm⟩
  · rintro ⟨found, call, hfind, hsplit, rfl⟩
    simp only [firstRegion?, hfind, hsplit]

theorem exists_parts_of_firstRegion? (h : firstRegion? name code = some g) :
    ∃ before inner rest, g.Parts name code before inner rest := by
  obtain ⟨found, call, hfind, hsplit, rfl⟩ := firstRegion?_eq_some_iff.mp h
  obtain ⟨inner, -, hparts⟩ := parts_of_split hfind hsplit
  exact ⟨_, inner, _, hparts⟩

/-- The first call behind whole lines. -/
theorem region?_append {a : Text} (ha : Source.WholeLines a) (b : Text) :
    region? name (a ++ b) ((a.breaks : Int) + 1)
      = (firstRegion? name b).map (Region.shift a.length) := by
  rw [region?, Source.lineStart?_append ha, Option.bind_some, List.drop_left]

/-- **A call from a line on** stands behind the whole lines before that line. -/
theorem cut_of_region? {line : Int} (hline : 1 ≤ line) (h : region? name code line = some g) :
    ∃ a b g₀, code = a ++ b ∧ Source.WholeLines a ∧ (a.breaks : Int) + 1 = line
      ∧ firstRegion? name b = some g₀ ∧ g = g₀.shift a.length := by
  obtain ⟨start, hstart, hg⟩ := Option.bind_eq_some_iff.mp h
  obtain ⟨a, b, rfl, rfl, hwhole, hbreaks⟩ := Source.cut_of_lineStart? hline hstart
  obtain ⟨g₀, hg₀, rfl⟩ := Option.map_eq_some_iff.mp hg
  rw [List.drop_left] at hg₀
  exact ⟨a, b, g₀, rfl, hwhole, hbreaks, hg₀, rfl⟩

theorem le_start_of_region? {line : Int} {start : Nat} (h : region? name code line = some g)
    (hstart : Source.lineStart? code line = some start) : start ≤ g.start := by
  rw [region?, hstart, Option.bind_some] at h
  obtain ⟨g₀, -, rfl⟩ := Option.map_eq_some_iff.mp h
  exact Nat.le_add_right ..

theorem exists_parts_of_region? {line : Int} (hline : 1 ≤ line)
    (h : region? name code line = some g) :
    ∃ before inner rest, g.Parts name code before inner rest := by
  obtain ⟨a, b, g₀, rfl, -, -, hg₀, rfl⟩ := cut_of_region? hline h
  obtain ⟨before, inner, rest, hparts⟩ := exists_parts_of_firstRegion? hg₀
  exact ⟨_, inner, rest, hparts.shift a⟩

end Call

/-! ## What an edit does -/

namespace Editor

open Call

/-- The call site that a region is. -/
def siteAt (e : Editor) (location : Location) (target index : Int) (code : Text) (g : Region) :
    Call.Site :=
  { path := location.path, line := location.line, resolvedLine := target, function := e.function,
    arguments := g.arguments, index := index, indent := Call.indentAfter (code.take g.start),
    newline := Call.newlineOf code }

/-- The edit that replaces a region. -/
def replaced (e : Editor) (location : Location) (target : Int) (code : Text) (g : Region)
    (replacement : Text) : Edit :=
  ⟨⟨location, target, replacement,
      (replacement.breaks : Int) + e.function.breaks - (g.text code).breaks⟩,
    g.arguments.length, g.replace code replacement⟩

variable {e : Editor} {location : Location} {target index : Int} {start suffix : Text} {edit : Edit}

/-- An edit of a call that is found and split asks the policy. -/
theorem editFrom_eq_map {found : Found} {call : Arguments}
    (hfind : find e.function suffix = some found) (hsplit : split found.after = .ok call)
    {g : Region} (hg : g = Region.shift start.length
      ⟨found.before.length, suffix.length - call.remainder.length, call.arguments⟩) :
    e.editFrom location target index (start ++ suffix) start suffix
      = (e.policy (e.siteAt location target index (start ++ suffix) g)).map
          (e.replaced location target (start ++ suffix) g) := by
  obtain ⟨inner, hbreaks, hparts⟩ := parts_of_split hfind hsplit
  have hshift := hg ▸ hparts.shift start
  have harguments : g.arguments = call.arguments := hg ▸ rfl
  have hreplaced : ∀ replacement : Text,
      e.replaced location target (start ++ suffix) g replacement
        = ⟨⟨location, target, replacement,
              (replacement.breaks : Int) - (found.gap.breaks + call.lines)⟩,
            call.arguments.length,
            start ++ found.before ++ replacement ++ call.remainder⟩ := by
    intro replacement
    have hdelta : (replacement.breaks : Int) + e.function.breaks
        - (e.function.breaks + inner.breaks : Nat)
          = replacement.breaks - (found.gap.breaks + call.lines) := by omega
    rw [replaced, hshift.breaks_text, Region.replace, hshift.take_start, hshift.drop_stop, hdelta,
      harguments, List.append_assoc (start ++ found.before)]
  simp only [editFrom, hfind, hsplit, siteAt, hshift.take_start, harguments]
  split
  · rename_i failure hpolicy
    rw [hpolicy]
    rfl
  · rename_i replacement hpolicy
    rw [hpolicy]
    exact congrArg Except.ok (hreplaced replacement).symm

theorem exists_of_map_eq_ok {ε α β : Type} {f : α → β} {b : β} :
    ∀ {x : Except ε α}, x.map f = .ok b → ∃ a, x = .ok a ∧ f a = b
  | .ok a, h => ⟨a, rfl, Except.ok.inj h⟩
  | .error _, h => nomatch h

theorem editFrom_eq_ok_iff :
    e.editFrom location target index (start ++ suffix) start suffix = .ok edit
      ↔ ∃ g replacement, (firstRegion? e.function suffix).map (Region.shift start.length) = some g
          ∧ e.policy (e.siteAt location target index (start ++ suffix) g) = .ok replacement
          ∧ edit = e.replaced location target (start ++ suffix) g replacement := by
  refine ⟨fun h => ?_, ?_⟩
  · cases hfind : find e.function suffix with
    | none => simp [editFrom, hfind] at h
    | some found =>
      cases hsplit : split found.after with
      | error flaw => simp [editFrom, hfind, hsplit] at h
      | ok call =>
        rw [editFrom_eq_map hfind hsplit rfl] at h
        rw [firstRegion?_eq_some_iff.mpr ⟨found, call, hfind, hsplit, rfl⟩]
        obtain ⟨replacement, hpolicy, rfl⟩ := exists_of_map_eq_ok h
        exact ⟨_, replacement, rfl, hpolicy, rfl⟩
  · rintro ⟨g, replacement, hg, hpolicy, rfl⟩
    obtain ⟨g₀, hg₀, rfl⟩ := Option.map_eq_some_iff.mp hg
    obtain ⟨found, call, hfind, hsplit, rfl⟩ := firstRegion?_eq_some_iff.mp hg₀
    rw [editFrom_eq_map hfind hsplit rfl, hpolicy]
    rfl

/-- **What an edit does**: if the line exists, and the policy accepts the first call from it on, the
call is replaced. -/
theorem edit_eq_ok_iff {code : Text} :
    e.edit location target index code = .ok edit
      ↔ 1 ≤ target ∧ target ≤ Source.lineCount code
        ∧ ∃ g replacement, region? e.function code target = some g
          ∧ e.policy (e.siteAt location target index code g) = .ok replacement
          ∧ edit = e.replaced location target code g replacement := by
  rw [Editor.edit]
  by_cases hrange : target < 1 ∨ (Source.lineCount code : Int) < target
  · rw [if_pos hrange]
    refine ⟨fun h => (nomatch h), fun h => ?_⟩
    omega
  · have hone : 1 ≤ target := by omega
    have hcount : target ≤ Source.lineCount code := by omega
    rw [if_neg hrange, region?]
    cases hstart : Source.lineStart? code target with
    | none => simp
    | some position =>
      obtain ⟨a, b, rfl, rfl, -, -⟩ := Source.cut_of_lineStart? hone hstart
      simp only [List.take_left, List.drop_left, Option.bind_some, editFrom_eq_ok_iff]
      exact ⟨fun h => ⟨hone, hcount, h⟩, fun h => h.2.2⟩

/-- **The lines that a record counts are the lines that the text gains**, if the name of the
function has no break. -/
theorem breaks_of_edit {code : Text} (hname : '\n' ∉ e.function)
    (h : e.edit location target index code = .ok edit) :
    (edit.code.breaks : Int) = code.breaks + edit.record.delta := by
  obtain ⟨hone, -, g, replacement, hg, -, rfl⟩ := edit_eq_ok_iff.mp h
  obtain ⟨before, inner, rest, hparts⟩ := exists_parts_of_region? hone hg
  have hbreaks := hparts.breaks_replace replacement
  have hfunction : e.function.breaks = 0 := List.count_eq_zero.mpr hname
  change ((g.replace code replacement).breaks : Int)
    = code.breaks + ((replacement.breaks : Int) + e.function.breaks - (g.text code).breaks)
  omega

end Editor

end CallEdits
