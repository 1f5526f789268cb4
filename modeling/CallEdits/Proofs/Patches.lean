import CallEdits.Proofs.Regions

/-!
# Proofs/Patches — a text of which only the rest is as it was

    code  ═══════════ stop ───────────────────
                         ╲                    ╲
    text  ════════════════ done.length ────────

A run goes through a text from the front to the end.  At every moment the text consists of what is
`done` and of the original from `stop` on; `Exchanged` says this, together with the shift that the
lines after `stop` have.  So a call of the original that starts at or after `stop` stands in the new
text as well, moved (`Region.move`), and the question is only whether the search from the shifted
line finds it:

* if its line starts at or after `stop`, it is found (`Exchanged.region?_apart`);
* if its line starts before `stop`, the search starts in the last line of what is done, and the call
  is found exactly if that line holds no call (`Exchanged.region?_tight`,
  `Exchanged.region?_covered`).
-/

namespace CallEdits

open Call Source

namespace Call

variable {name a b : Text} {g : Region}

/-! ## Calls behind a closing parenthesis -/

theorem exists_find_of_firstRegion? (h : firstRegion? name b = some g) :
    ∃ found, find name b = some found := by
  obtain ⟨found, call, hfind, -, -⟩ := firstRegion?_eq_some_iff.mp h
  exact ⟨found, hfind⟩

/-- **A text without calls that ends with a closing parenthesis** can be left out of the search. -/
theorem firstRegion?_append_close (hname : ')' ∉ name) (ha : a.getLast? = some ')')
    (hnone : find name a = none) (b : Text) :
    firstRegion? name (a ++ b) = (firstRegion? name b).map (Region.shift a.length) := by
  obtain ⟨x, rfl⟩ := List.getLast?_eq_some_iff.mp ha
  have hfind := find_append_close hname x b
  rw [hnone, Option.map_none, Option.none_or] at hfind
  rw [List.append_assoc, List.singleton_append, firstRegion?, firstRegion?, hfind]
  cases hb : find name b with
  | none => rfl
  | some found =>
    rw [Option.map_some]
    dsimp only
    cases hsplit : split found.after with
    | error flaw => rfl
    | ok call =>
      obtain ⟨inner, -, hparts⟩ := parts_of_split hb hsplit
      have hlen := congrArg List.length hparts.code_eq
      simp only [List.length_append, List.length_cons] at hlen
      simp only [Option.map_some, Region.shift, Option.some.injEq, Region.mk.injEq,
        List.length_append, List.length_cons, List.length_nil, and_true]
      omega

/-- **A call in front of a closing parenthesis** is found before anything behind it. -/
theorem start_lt_of_find (hname : ')' ∉ name) (ha : a.getLast? = some ')') {found : Found}
    (hsome : find name a = some found) (h : firstRegion? name (a ++ b) = some g) :
    g.start < a.length := by
  obtain ⟨x, rfl⟩ := List.getLast?_eq_some_iff.mp ha
  obtain ⟨found', call, hfind, -, rfl⟩ := firstRegion?_eq_some_iff.mp h
  rw [List.append_assoc, List.singleton_append, find_append_close hname, hsome, Option.map_some,
    Option.some_or] at hfind
  obtain rfl := Option.some.inj hfind
  have hoccurs := occurs_of_find hsome
  obtain ⟨r, hopens⟩ := hoccurs.opens
  have hlen := congrArg List.length hoccurs.text_eq
  rw [hopens] at hlen
  simp only [List.length_append, List.length_cons] at hlen ⊢
  omega

/-- **A call that starts behind a closing parenthesis** is the first one there. -/
theorem exists_firstRegion?_drop (hname : ')' ∉ name) {k : Nat}
    (hlast : (b.take k).getLast? = some ')') (h : firstRegion? name b = some g)
    (hk : k ≤ g.start) : ∃ g₀, firstRegion? name (b.drop k) = some g₀ ∧ g = g₀.shift k := by
  obtain ⟨before, inner, rest, hparts⟩ := exists_parts_of_firstRegion? h
  have hlen : (b.take k).length = k := by
    have := hparts.start_le_length
    rw [List.length_take]
    omega
  rw [← List.take_append_drop k b] at h
  have hnone : find name (b.take k) = none := by
    cases hfind : find name (b.take k) with
    | none => rfl
    | some found =>
      have := start_lt_of_find hname hlast hfind h
      omega
  rw [firstRegion?_append_close hname hlast hnone, hlen] at h
  obtain ⟨g₀, hg₀, rfl⟩ := Option.map_eq_some_iff.mp h
  exact ⟨g₀, hg₀, rfl⟩

end Call

/-! ## Patches -/

/-- **A call of a text and what replaces it.** -/
structure Patch where
  /-- The line from which on the call is the first one. -/
  line : Int
  region : Region
  replacement : Text
  deriving DecidableEq

/-- **A stretch ends before a line starts.** -/
def EndsBefore (code : Text) (stop : Nat) (line : Int) : Prop :=
  ∃ start, lineStart? code line = some start ∧ stop ≤ start

/-- The text from `stop` on with all patches made at once. -/
def spliceFrom (code : Text) (stop : Nat) : List Patch → Text
  | [] => code.drop stop
  | q :: rest =>
    (code.take q.region.start).drop stop
      ++ (q.replacement ++ spliceFrom code q.region.stop rest)

/-- **A text with all patches made at once.** -/
def splice (code : Text) (patches : List Patch) : Text := spliceFrom code 0 patches

/-- What is done after a further patch. -/
def Patch.append (q : Patch) (code done : Text) (stop : Nat) : Text :=
  done ++ (code.take q.region.start).drop stop ++ q.replacement

theorem append_spliceFrom_cons (q : Patch) (rest : List Patch) (code done : Text) (stop : Nat) :
    done ++ spliceFrom code stop (q :: rest)
      = q.append code done stop ++ spliceFrom code q.region.stop rest := by
  rw [spliceFrom, Patch.append]
  simp only [List.append_assoc]

/-- **The text is `done` so far**, up to `stop` of the original, and the lines from there on are
shifted. -/
structure Exchanged (code done : Text) (stop : Nat) (text : Text) (shift : Int) : Prop where
  text_eq : text = done ++ code.drop stop
  shift_eq : (done.breaks : Int) = Text.breaks (code.take stop) + shift
  ends : done = [] ∧ stop = 0
    ∨ done.getLast? = some ')' ∧ (code.take stop).getLast? = some ')'

/-- A call after `stop` in the text that is done so far. -/
def Call.Region.move (g : Region) (done : Text) (stop : Nat) : Region :=
  { g with start := done.length + (g.start - stop), stop := done.length + (g.stop - stop) }

theorem exchanged_nil (code : Text) : Exchanged code [] 0 code 0 :=
  ⟨rfl, rfl, .inl ⟨rfl, rfl⟩⟩

namespace Exchanged

variable {name code done text : Text} {stop : Nat} {shift line : Int} {g : Region}

/-! ## Positions in both texts -/

theorem take_move (h : Exchanged code done stop text shift) {k : Nat} (hk : stop ≤ k) :
    text.take (done.length + (k - stop)) = done ++ (code.take k).drop stop := by
  rw [h.text_eq, List.take_length_add_append, List.take_drop]
  congr 3
  omega

theorem drop_move (h : Exchanged code done stop text shift) {k : Nat} (hk : stop ≤ k) :
    text.drop (done.length + (k - stop)) = code.drop k := by
  rw [h.text_eq, List.drop_length_add_append, List.drop_drop]
  congr 1
  omega

/-- A call that is moved is the same text. -/
theorem text_move (h : Exchanged code done stop text shift) (hle : stop ≤ g.start)
    (hg : g.start ≤ g.stop) : (g.move done stop).text text = g.text code := by
  rw [Region.text, Region.text, Region.move, h.take_move (by omega), List.drop_length_add_append,
    List.drop_drop]
  congr 1
  omega

theorem replace_move (h : Exchanged code done stop text shift) (hle : stop ≤ g.start)
    (hg : g.start ≤ g.stop) (replacement : Text) :
    (g.move done stop).replace text replacement
      = done ++ (code.take g.start).drop stop ++ replacement ++ code.drop g.stop := by
  rw [Region.replace, Region.move, h.take_move hle, h.drop_move (by omega),
    List.append_assoc _ replacement]

/-- The breaks before a position are those before an earlier one and those between. -/
theorem breaks_take {k m : Nat} (hk : k ≤ m) (code : Text) :
    Text.breaks (code.take m) = Text.breaks (code.take k) + Text.breaks ((code.take m).drop k) := by
  have htake : (code.take m).take k = code.take k := by rw [List.take_take, Nat.min_eq_left hk]
  rw [← Text.breaks_append, ← htake, List.take_append_drop]

/-- **A further patch**: the text is done up to the end of its call. -/
theorem patch (h : Exchanged code done stop text shift) {q : Patch} {before inner rest : Text}
    (hparts : q.region.Parts name code before inner rest) (hname : '\n' ∉ name)
    (hle : stop ≤ q.region.start) (hends : q.replacement.getLast? = some ')') :
    Exchanged code (q.append code done stop) q.region.stop
      ((q.region.move done stop).replace text q.replacement)
      (shift + ((q.replacement.breaks : Int) + name.breaks
        - ((q.region.move done stop).text text).breaks)) := by
  have hg : q.region.start ≤ q.region.stop := hparts.start_le_stop
  have hfunction : name.breaks = 0 := List.count_eq_zero.mpr hname
  have hdone := breaks_take hle code
  have hstop : Text.breaks (code.take q.region.stop)
      = Text.breaks (code.take q.region.start) + (q.region.text code).breaks :=
    breaks_take hg code
  have hshift := h.shift_eq
  refine ⟨h.replace_move hle hg q.replacement, ?_, .inr ⟨?_, ?_⟩⟩
  · rw [h.text_move hle hg, Patch.append, Text.breaks_append, Text.breaks_append]
    omega
  · have hne : q.replacement ≠ [] := fun hnil => by simp [hnil] at hends
    rw [Patch.append, getLast?_append _ hne, hends]
  · rw [hparts.take_stop, List.getLast?_concat]

/-! ## Lines in both texts -/

variable {a b : Text}

/-- **A line that starts at or after `stop`** starts behind whole lines in the new text as well, and
what follows is the same. -/
theorem cut (h : Exchanged (a ++ b) done stop text shift) (ha : WholeLines a)
    (hstop : stop ≤ a.length) :
    WholeLines (done ++ a.drop stop) ∧ text = done ++ a.drop stop ++ b
      ∧ ((done ++ a.drop stop).breaks : Int) = a.breaks + shift := by
  have htake : (a ++ b).take stop = a.take stop := List.take_append_of_le_length hstop
  have hsplit : a.take stop ++ a.drop stop = a := List.take_append_drop stop a
  refine ⟨?_, ?_, ?_⟩
  · obtain ⟨rfl, rfl⟩ | ⟨-, hlast⟩ := h.ends
    · exact ha
    · -- The call before ends with a parenthesis, so a break follows it before the line starts.
      rw [htake] at hlast
      have hne : a.drop stop ≠ [] := by
        intro hnil
        rw [hnil, List.append_nil] at hsplit
        rw [hsplit] at hlast
        exact absurd (ha _ hlast) (by decide)
      rw [← hsplit] at ha
      exact (wholeLines_append hne).mpr ((wholeLines_append hne).mp ha)
  · rw [h.text_eq, List.drop_append_of_le_length hstop, List.append_assoc]
  · have hshift := h.shift_eq
    have hbreaks := congrArg Text.breaks hsplit
    rw [htake] at hshift
    rw [Text.breaks_append] at hbreaks ⊢
    omega

/-- A call whose line starts at or after `stop` stands behind whole lines in both texts. -/
theorem exists_cut (h : Exchanged code done stop text shift) (hline : 1 ≤ line)
    (hg : region? name code line = some g) {start : Nat}
    (hstart : lineStart? code line = some start) (hstop : stop ≤ start) :
    ∃ a b g₀, code = a ++ b ∧ start = a.length ∧ WholeLines a ∧ firstRegion? name b = some g₀
      ∧ g = g₀.shift a.length ∧ WholeLines (done ++ a.drop stop)
      ∧ text = done ++ a.drop stop ++ b ∧ line + shift = (done ++ a.drop stop).breaks + 1 := by
  obtain ⟨a, b, g₀, rfl, hwhole, rfl, hg₀, rfl⟩ := cut_of_region? hline hg
  obtain rfl : a.length = start := by
    rw [lineStart?_append hwhole] at hstart
    exact Option.some.inj hstart
  obtain ⟨hwhole', htext, hbreaks⟩ := h.cut hwhole hstop
  exact ⟨a, b, g₀, rfl, rfl, hwhole, hg₀, rfl, hwhole', htext, by omega⟩

/-- **A call whose line starts at or after `stop`** is found from the shifted line on. -/
theorem region?_apart (h : Exchanged code done stop text shift) (hline : 1 ≤ line)
    (hg : region? name code line = some g) {start : Nat}
    (hstart : lineStart? code line = some start) (hstop : stop ≤ start) :
    1 ≤ line + shift ∧ line + shift ≤ lineCount text
      ∧ region? name text (line + shift) = some (g.move done stop) := by
  obtain ⟨a, b, g₀, rfl, rfl, -, hg₀, rfl, hwhole, htext, htarget⟩ :=
    h.exists_cut hline hg hstart hstop
  have hb : b ≠ [] := by
    rintro rfl
    obtain ⟨found, hfind⟩ := exists_find_of_firstRegion? hg₀
    exact nomatch hfind
  obtain ⟨before, inner, rest, hparts⟩ := exists_parts_of_firstRegion? hg₀
  have hle := hparts.start_le_stop
  rw [htarget, htext]
  refine ⟨by omega, ?_, ?_⟩
  · exact_mod_cast (le_lineCount_iff hwhole).mpr hb
  · rw [region?_append hwhole, hg₀, Option.map_some, List.length_append, List.length_drop]
    simp only [Region.shift, Region.move, Option.some.injEq, Region.mk.injEq, and_true]
    omega

/-- The text before such a call is the same from the start of its line on. -/
theorem lastLine_apart (h : Exchanged code done stop text shift) (hline : 1 ≤ line)
    (hg : region? name code line = some g) {start : Nat}
    (hstart : lineStart? code line = some start) (hstop : stop ≤ start) :
    Text.lastLine (text.take (g.move done stop).start) = Text.lastLine (code.take g.start) := by
  obtain ⟨a, b, g₀, rfl, rfl, hwhole, -, rfl, hwhole', -, -⟩ :=
    h.exists_cut hline hg hstart hstop
  have htake : (a ++ b).take (g₀.shift a.length).start = a ++ b.take g₀.start :=
    List.take_length_add_append ..
  have hmove : text.take ((g₀.shift a.length).move done stop).start
      = done ++ ((a ++ b).take (g₀.shift a.length).start).drop stop :=
    h.take_move (Nat.le_trans hstop (Nat.le_add_right ..))
  rw [hmove, htake, List.drop_append_of_le_length hstop, ← List.append_assoc,
    lastLine_append hwhole', lastLine_append hwhole]

/-- **The text from the shifted line on is the original from the line on.** -/
theorem drop_lineStart_apart (h : Exchanged code done stop text shift) (hline : 1 ≤ line)
    (hg : region? name code line = some g) {start : Nat}
    (hstart : lineStart? code line = some start) (hstop : stop ≤ start) :
    ∃ position, lineStart? text (line + shift) = some position
      ∧ text.drop position = code.drop start := by
  obtain ⟨a, b, g₀, rfl, rfl, -, -, -, hwhole, htext, htarget⟩ :=
    h.exists_cut hline hg hstart hstop
  refine ⟨(done ++ a.drop stop).length, ?_, ?_⟩
  · rw [htarget, htext, lineStart?_append hwhole]
  · rw [htext, List.drop_left, List.drop_left]

/-! ## Calls that start in a line that is done -/

/-- A call on its line, where `stop` lies between the start of the line and the call: the search in
the original goes through no call before `stop`. -/
theorem exists_tight (h : Exchanged code done stop text shift) (hname : ')' ∉ name)
    (hg : region? name code line = some g)
    (hon : (Text.breaks (code.take g.start) : Int) + 1 = line) {start : Nat}
    (hstart : lineStart? code line = some start) (hstop : start < stop) (hle : stop ≤ g.start) :
    line + shift = done.breaks + 1 ∧ done.getLast? = some ')'
      ∧ ∃ g₀, firstRegion? name (code.drop stop) = some g₀ ∧ g = g₀.shift stop := by
  obtain ⟨a, b, g₀, rfl, hwhole, hbreaks, hg₀, rfl⟩ := cut_of_region? (by omega) hg
  obtain rfl : a.length = start := by
    rw [← hbreaks, lineStart?_append hwhole] at hstart
    exact Option.some.inj hstart
  obtain ⟨k, rfl⟩ := Nat.exists_eq_add_of_le (Nat.le_of_lt hstop)
  have htake : ∀ m, (a ++ b).take (a.length + m) = a ++ b.take m :=
    fun m => List.take_length_add_append ..
  have hk : k ≤ g₀.start := Nat.add_le_add_iff_left.mp hle
  have hnone : Text.breaks (b.take g₀.start) = 0 := by
    have hbefore : Text.breaks ((a ++ b).take (a.length + g₀.start))
        = a.breaks + Text.breaks (b.take g₀.start) := by rw [htake, Text.breaks_append]
    change (Text.breaks ((a ++ b).take (a.length + g₀.start)) : Int) + 1 = line at hon
    omega
  have hu := breaks_take hk b
  have hshift := h.shift_eq
  rw [htake, Text.breaks_append] at hshift
  obtain ⟨-, hzero⟩ | ⟨hdone, hlast⟩ := h.ends
  · omega
  rw [htake] at hlast
  obtain ⟨g₁, hg₁, rfl⟩ :=
    exists_firstRegion?_drop hname (hwhole.getLast?_of_append (by decide) hlast) hg₀ hk
  refine ⟨by omega, hdone, g₁, ?_, ?_⟩
  · rw [List.drop_length_add_append, hg₁]
  · simp only [Region.shift, Nat.add_assoc]

/-- The search from the last line of what is done goes through that line, which ends with a
parenthesis, and then through the rest of the original. -/
theorem exists_region?_lastLine (h : Exchanged code done stop text shift)
    (hdone : done.getLast? = some ')') (name : Text) :
    ∃ n, n + done.lastLine.length = done.length ∧ done.lastLine.getLast? = some ')'
      ∧ region? name text ((done.breaks : Int) + 1)
        = (firstRegion? name (done.lastLine ++ code.drop stop)).map (Region.shift n) := by
  obtain ⟨a, heq, hwhole, hunbroken⟩ := exists_lastLine done
  have hzero : done.lastLine.breaks = 0 := List.count_eq_zero.mpr hunbroken
  have hbreaks : a.breaks = done.breaks := by
    have hsum := congrArg Text.breaks heq
    rw [Text.breaks_append] at hsum
    omega
  have hlast : (a ++ done.lastLine).getLast? = some ')' := heq ▸ hdone
  have htext : text = a ++ (done.lastLine ++ code.drop stop) := by
    rw [h.text_eq, ← List.append_assoc, ← heq]
  refine ⟨a.length, ?_, hwhole.getLast?_of_append (by decide) hlast, ?_⟩
  · rw [← List.length_append, ← heq]
  · rw [htext, ← hbreaks, region?_append hwhole]

/-- **A call that starts in the last line of what is done** is found if that line holds no call. -/
theorem region?_tight (h : Exchanged code done stop text shift) (hname : ')' ∉ name)
    (hg : region? name code line = some g)
    (hon : (Text.breaks (code.take g.start) : Int) + 1 = line) {start : Nat}
    (hstart : lineStart? code line = some start) (hstop : start < stop) (hle : stop ≤ g.start)
    (hnone : find name done.lastLine = none) :
    region? name text (line + shift) = some (g.move done stop) := by
  obtain ⟨htarget, hdone, g₀, hg₀, rfl⟩ := h.exists_tight hname hg hon hstart hstop hle
  obtain ⟨n, hlen, hlast, hregion⟩ := h.exists_region?_lastLine hdone name
  rw [htarget, hregion, firstRegion?_append_close hname hlast hnone, hg₀]
  simp only [Option.map_some, Region.shift, Region.move, Option.some.injEq, Region.mk.injEq,
    and_true]
  omega

/-- **Another call in the last line of what is done** is found instead. -/
theorem region?_covered (h : Exchanged code done stop text shift) (hname : ')' ∉ name)
    (hg : region? name code line = some g)
    (hon : (Text.breaks (code.take g.start) : Int) + 1 = line) {start : Nat}
    (hstart : lineStart? code line = some start) (hstop : start < stop) (hle : stop ≤ g.start)
    {found : Found} (hfind : find name done.lastLine = some found) {g' : Region}
    (hg' : region? name text (line + shift) = some g') : g'.start < done.length := by
  obtain ⟨htarget, hdone, -⟩ := h.exists_tight hname hg hon hstart hstop hle
  obtain ⟨n, hlen, hlast, hregion⟩ := h.exists_region?_lastLine hdone name
  rw [htarget, hregion] at hg'
  obtain ⟨g₀, hg₀, rfl⟩ := Option.map_eq_some_iff.mp hg'
  have hlt := start_lt_of_find hname hlast hfind hg₀
  rw [← hlen]
  exact Nat.add_lt_add_left hlt n

end Exchanged

end CallEdits
