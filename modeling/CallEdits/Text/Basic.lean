/-!
# Text/Basic — text as a list of characters

Source code, report lines, paths and messages are all `Text`, a list of Unicode scalar values, so
every scan in this library is a recursion on the list and every cut is an `++`.  A *blank* is what
may stand around an argument or before an opening parenthesis; only `'\n'` counts as a *break* when
the lines of source code are numbered.
-/

namespace CallEdits

/-- A sequence of Unicode scalar values. -/
abbrev Text := List Char

namespace Text

/-! ## Blanks -/

/-- **Blank characters**: the control separators, the space, and the space and line separators of
Unicode.  A zero-width space and a byte-order mark are not blank. -/
def isBlank (c : Char) : Bool :=
  let n := c.toNat
  (9 ≤ n && n ≤ 13) || (28 ≤ n && n ≤ 32) || n == 0x85 || n == 0xA0 || n == 0x1680 ||
  (0x2000 ≤ n && n ≤ 0x200A) || n == 0x2028 || n == 0x2029 || n == 0x202F || n == 0x205F ||
  n == 0x3000

/-- The characters of a kind in front of a text, where another character follows them. -/
theorem takeWhile_append_cons {p : Char → Bool} {u : Text} {c : Char} (hu : ∀ a ∈ u, p a = true)
    (hc : p c = false) (r : Text) : (u ++ c :: r).takeWhile p = u := by
  rw [List.takeWhile_append_of_pos hu, List.takeWhile_cons_of_neg (by simp [hc]), List.append_nil]

/-- **Characters of a kind reach up to the first other character.** -/
theorem append_cons_inj {p : Char → Bool} {u v x y : Text} {c d : Char}
    (hu : ∀ a ∈ u, p a = true) (hv : ∀ a ∈ v, p a = true) (hc : p c = false) (hd : p d = false)
    (h : u ++ c :: x = v ++ d :: y) : u = v ∧ c :: x = d :: y := by
  have hsame : u = v := by
    rw [← takeWhile_append_cons hu hc x, h, takeWhile_append_cons hv hd y]
  subst hsame
  exact ⟨rfl, List.append_cancel_left h⟩

/-- The blanks in front of a text, where another character follows them. -/
theorem takeWhile_blanks {b : Text} {c : Char} (hb : ∀ a ∈ b, isBlank a = true)
    (hc : isBlank c = false) (r : Text) : (b ++ c :: r).takeWhile isBlank = b :=
  takeWhile_append_cons hb hc r

theorem dropWhile_blanks {b : Text} {c : Char} (hb : ∀ a ∈ b, isBlank a = true)
    (hc : isBlank c = false) (r : Text) : (b ++ c :: r).dropWhile isBlank = c :: r := by
  rw [List.dropWhile_append_of_pos hb, List.dropWhile_cons_of_neg (by simp [hc])]

/-- **The blanks in front of a text are those before its first other character.** -/
theorem blanks_inj {b b' r r' : Text} {c c' : Char} (hb : ∀ a ∈ b, isBlank a = true)
    (hb' : ∀ a ∈ b', isBlank a = true) (hc : isBlank c = false) (hc' : isBlank c' = false)
    (h : b ++ c :: r = b' ++ c' :: r') : b = b' ∧ c :: r = c' :: r' :=
  append_cons_inj hb hb' hc hc' h

/-- What follows the blanks begins with the first character that is not one. -/
theorem head?_dropWhile_isBlank (t : Text) :
    (t.dropWhile isBlank).head? = t.find? fun c => !isBlank c := by
  induction t with
  | nil => rfl
  | cons c r ih => by_cases h : isBlank c = true <;> simp [h, ih]

theorem dropWhile_isBlank_eq_nil {t : Text} :
    t.dropWhile isBlank = [] ↔ ∀ c ∈ t, isBlank c = true := by
  rw [← List.head?_eq_none_iff, head?_dropWhile_isBlank, List.find?_eq_none]
  simp

/-- The blanks in front of a text that is not all blank are followed by the rest of it. -/
theorem dropWhile_isBlank_append {s : Text} (h : s.dropWhile isBlank ≠ []) (t : Text) :
    (s ++ t).dropWhile isBlank = s.dropWhile isBlank ++ t := by
  rw [List.dropWhile_append, if_neg (by simpa using h)]

theorem takeWhile_isBlank_append {s : Text} (h : s.dropWhile isBlank ≠ []) (t : Text) :
    (s ++ t).takeWhile isBlank = s.takeWhile isBlank := by
  rw [List.takeWhile_append, if_neg]
  intro hlen
  refine h (dropWhile_isBlank_eq_nil.mpr fun c hc => ?_)
  rw [← (List.takeWhile_prefix isBlank).eq_of_length hlen] at hc
  exact List.all_eq_true.mp List.all_takeWhile c hc

/-- Drop the blanks in front. -/
def trimLeft (t : Text) : Text := t.dropWhile isBlank

/-- Drop the blanks at the end. -/
def trimRight (t : Text) : Text := (t.reverse.dropWhile isBlank).reverse

/-- Drop the blanks at both ends. -/
def trim (t : Text) : Text := trimRight (trimLeft t)

/-- **Nothing is left of a text that is trimmed** if and only if it is blank. -/
theorem trim_eq_nil {t : Text} : trim t = [] ↔ ∀ c ∈ t, isBlank c = true := by
  rw [trim, trimRight, List.reverse_eq_nil_iff, dropWhile_isBlank_eq_nil, trimLeft]
  refine ⟨fun h => ?_, fun h => ?_⟩
  · refine dropWhile_isBlank_eq_nil.mp (List.head?_eq_none_iff.mp ?_)
    rw [Option.eq_none_iff_forall_ne_some]
    intro c hc
    have hblank := h c (List.mem_reverse.mpr (List.mem_of_mem_head? hc))
    rw [head?_dropWhile_isBlank] at hc
    have := List.find?_some hc
    simp [hblank] at this
  · simp [dropWhile_isBlank_eq_nil.mpr h]

/-- Dropping the blanks at the end leaves the text in front of them. -/
theorem trimRight_isPrefix (t : Text) : trimRight t <+: t :=
  List.reverse_suffix.mp (by
    rw [trimRight, List.reverse_reverse]
    exact List.dropWhile_suffix isBlank)

/-- The blanks at the end of a text reach into its first part only if the second is blank. -/
theorem trimRight_append (s t : Text) :
    trimRight (s ++ t) = if t.all isBlank then trimRight s else s ++ trimRight t := by
  rw [trimRight, trimRight, trimRight, List.reverse_append, List.dropWhile_append]
  simp only [List.isEmpty_iff, dropWhile_isBlank_eq_nil, List.mem_reverse, List.all_eq_true]
  split <;> simp

theorem trimRight_concat {c : Char} (h : isBlank c = false) (s : Text) :
    trimRight (s ++ [c]) = s ++ [c] := by
  rw [trimRight_append, if_neg (by simp [h]), trimRight, List.reverse_singleton,
    List.dropWhile_cons_of_neg (by simp [h]), List.reverse_singleton]

theorem trimRight_concat_blank {c : Char} (h : isBlank c = true) (s : Text) :
    trimRight (s ++ [c]) = trimRight s := by
  rw [trimRight_append, if_pos (by simpa using h)]

/-- What is left of a trimmed text stands in it. -/
theorem trim_infix (t : Text) : trim t <:+: t :=
  (trimRight_isPrefix (trimLeft t)).isInfix.trans (List.dropWhile_suffix isBlank).isInfix

/-- A trimmed text begins with no blank. -/
theorem head?_trim {t : Text} {c : Char} (h : (trim t).head? = some c) : isBlank c = false := by
  obtain ⟨r, hr⟩ := trimRight_isPrefix (trimLeft t)
  have hhead : (trimLeft t).head? = some c := by
    rw [← hr, List.head?_append]
    exact congrArg (Option.or · _) h
  rw [trimLeft, head?_dropWhile_isBlank] at hhead
  simpa using List.find?_some hhead

/-- A trimmed text ends with no blank. -/
theorem getLast?_trim {t : Text} {c : Char} (h : (trim t).getLast? = some c) :
    isBlank c = false := by
  rw [trim, trimRight, List.getLast?_reverse, head?_dropWhile_isBlank] at h
  simpa using List.find?_some h

/-- **A text with no blank at its ends is trimmed.** -/
theorem trim_eq_self {t : Text} (hhead : ∀ c, t.head? = some c → isBlank c = false)
    (hlast : ∀ c, t.getLast? = some c → isBlank c = false) : trim t = t := by
  have hdrop : ∀ {s : Text}, (∀ c, s.head? = some c → isBlank c = false) →
      s.dropWhile isBlank = s
    | [], _ => rfl
    | c :: r, h => List.dropWhile_cons_of_neg (by simp [h c rfl])
  rw [trim, trimLeft, hdrop hhead, trimRight, hdrop, List.reverse_reverse]
  intro c hc
  exact hlast c (by rwa [List.head?_reverse] at hc)

@[simp] theorem trim_trim (t : Text) : trim (trim t) = trim t :=
  trim_eq_self (fun _ => head?_trim) fun _ => getLast?_trim

theorem trim_blank_cons {c : Char} (h : isBlank c = true) (t : Text) : trim (c :: t) = trim t := by
  rw [trim, trim, trimLeft, trimLeft, List.dropWhile_cons_of_pos h]

/-- **Trimming drops blanks and nothing else.** -/
theorem exists_blanks_trim (t : Text) :
    ∃ u v, (∀ c ∈ u, isBlank c = true) ∧ (∀ c ∈ v, isBlank c = true) ∧ t = u ++ (trim t ++ v) := by
  refine ⟨t.takeWhile isBlank, ((trimLeft t).reverse.takeWhile isBlank).reverse,
    List.all_eq_true.mp List.all_takeWhile, fun c hc => ?_, ?_⟩
  · exact List.all_eq_true.mp List.all_takeWhile c (List.mem_reverse.mp hc)
  · rw [trim, trimRight, ← List.reverse_append, List.takeWhile_append_dropWhile,
      List.reverse_reverse, trimLeft, List.takeWhile_append_dropWhile]

/-! ## Breaks and pieces -/

/-- The number of line breaks, that is of `'\n'`. -/
def breaks (t : Text) : Nat := t.count '\n'

@[simp] theorem breaks_nil : breaks [] = 0 := rfl

@[simp] theorem breaks_append (s t : Text) : breaks (s ++ t) = breaks s + breaks t :=
  List.count_append

theorem breaks_cons (c : Char) (t : Text) : breaks (c :: t) = breaks [c] + breaks t :=
  breaks_append [c] t

theorem breaks_cons_of_ne {c : Char} (h : c ≠ '\n') (t : Text) : breaks (c :: t) = breaks t :=
  List.count_cons_of_ne h

/-- Does a carriage return stand right before a line feed somewhere? -/
def hasCrLf : Text → Bool
  | [] => false
  | [_] => false
  | c :: d :: r => (c == '\r' && d == '\n') || hasCrLf (d :: r)

/-- The pieces between the occurrences of `c`, at least one. -/
def splitOn (c : Char) (t : Text) : List Text :=
  go t []
where
  go : Text → Text → List Text
    | [], piece => [piece.reverse]
    | d :: r, piece => if d = c then piece.reverse :: go r [] else go r (d :: piece)

/-- Texts put one after the other with `separator` between neighbours. -/
def join (separator : Text) (pieces : List Text) : Text := separator.intercalate pieces

@[simp] theorem join_singleton (separator t : Text) : join separator [t] = t :=
  List.intercalate_singleton

theorem join_cons_cons (separator t u : Text) (pieces : List Text) :
    join separator (t :: u :: pieces) = t ++ (separator ++ join separator (u :: pieces)) :=
  List.intercalate_cons_cons.trans (List.append_assoc t separator _)

/-- What stands before the first piece stands before all of them. -/
theorem join_append_cons (separator s t : Text) (pieces : List Text) :
    join separator ((s ++ t) :: pieces) = s ++ join separator (t :: pieces) := by
  cases pieces with
  | nil => simp
  | cons u us => rw [join_cons_cons, join_cons_cons, List.append_assoc]

/-- Every piece stands in the text that is put together. -/
theorem infix_join {separator t : Text} : ∀ {pieces : List Text}, t ∈ pieces →
    t <:+: join separator pieces
  | [u], h => by
      obtain rfl := List.mem_singleton.mp h
      exact ⟨[], [], by rw [join_singleton, List.nil_append, List.append_nil]⟩
  | u :: v :: us, h => by
      rw [join_cons_cons]
      rcases List.mem_cons.mp h with rfl | h
      · exact (List.prefix_append ..).isInfix
      · have hrest : t <:+: join separator (v :: us) := infix_join h
        exact hrest.trans (List.IsSuffix.isInfix ⟨u ++ separator, List.append_assoc ..⟩)

/-- The text after the last line break. -/
def lastLine (t : Text) : Text := (t.reverse.takeWhile (· ≠ '\n')).reverse

/-- The characters of an ASCII name: letters, digits and the underscore. -/
def isWordChar (c : Char) : Bool :=
  c.isAlphanum || c == '_'

/-- The single quote. -/
def quote : Char := '\x27'

/-- Code-point order, shorter first where one text begins the other. -/
def le (s t : Text) : Bool := decide (s < t ∨ s = t)

/-- Texts in code-point order. -/
def sort (ts : List Text) : List Text := ts.mergeSort le


end Text

end CallEdits
