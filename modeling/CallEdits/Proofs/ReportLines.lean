import CallEdits.Proofs.ReadRows
import Mathlib.Data.List.TakeWhile

/-!
# Proofs/ReportLines — rows drawn as lines and read back

    (3, heading "src")   ──▸   "            src  (5 usages found)"
    (6, call 12)         ──▸   "                        12 set_error(TAG);"
                               ""                                               (dropped)

A row is drawn with `indentUnit` columns for each level of its margin.  Between the rows may stand
lines that the outline drops: blank ones, and those at the margin of the frame.  Reading the drawn
lines gives the rows back (`exists_outline_of_drawn`).  This needs a little of the names: a name
that begins with a space would be taken for a deeper one, and one that begins with a number and a
space for a call.
-/

namespace CallEdits

/-! ## Lines of a text -/

namespace Text

/-- **A text that consists of these lines**, each ended by a line feed, alone or after a carriage
return; the last one may go without, if something stands on it. -/
inductive Lined : List Text → Text → Prop
  | nil : Lined [] []
  | last {line : Text} (hline : ∀ c ∈ line, endsLine c = false) (hne : line ≠ []) :
      Lined [line] line
  | cons {line mark text : Text} {lines : List Text} (hline : ∀ c ∈ line, endsLine c = false)
      (hmark : mark = ['\n'] ∨ mark = ['\r', '\n']) (hrest : Lined lines text) :
      Lined (line :: lines) (line ++ (mark ++ text))

/-- Lines put one below the other, each ended by a line feed. -/
def unlines (ls : List Text) : Text := ls.flatMap (· ++ ['\n'])

/-- **Any lines can be put into a text**, if no mark stands inside them. -/
theorem lined_unlines {ls : List Text} (h : ∀ line ∈ ls, ∀ c ∈ line, endsLine c = false) :
    Lined ls (unlines ls) := by
  induction ls with
  | nil => exact .nil
  | cons line ls ih =>
    rw [unlines, List.flatMap_cons, List.append_assoc]
    exact .cons (h line List.mem_cons_self) (.inl rfl)
      (ih fun other hother => h other (List.mem_cons_of_mem _ hother))

theorem linesFrom_append {line : Text} (h : ∀ c ∈ line, endsLine c = false) (start rest : Text) :
    linesFrom start (line ++ rest) = linesFrom (line.reverse ++ start) rest := by
  induction line generalizing start with
  | nil => rfl
  | cons c line ih =>
    have hc : endsLine c = false := h c List.mem_cons_self
    rw [List.cons_append, linesFrom]
    · rw [if_neg (by simp [hc]), ih fun d hd => h d (List.mem_cons_of_mem _ hd), List.reverse_cons,
        List.append_assoc, List.singleton_append]
    · rintro _ rfl -
      simp [endsLine] at hc

/-- **The lines of a text are those it consists of.** -/
theorem Lined.lines_eq {text : Text} {ls : List Text} (h : Lined ls text) : lines text = ls := by
  induction h with
  | nil => rfl
  | @last line hline hne =>
    have hread := linesFrom_append hline [] []
    rw [List.append_nil, List.append_nil, linesFrom, List.reverse_reverse] at hread
    rw [lines, hread, if_neg (by simpa using hne)]
  | @cons line mark text ls hline hmark _ ih =>
    rw [lines, linesFrom_append hline, List.append_nil]
    rcases hmark with rfl | rfl
    · rw [List.singleton_append, linesFrom]
      · rw [if_pos (by decide), List.reverse_reverse]
        exact congrArg (line :: ·) ih
      · simp
    · rw [List.cons_append, List.singleton_append, linesFrom, List.reverse_reverse]
      exact congrArg (line :: ·) ih

theorem isDecimal_of_isDigit {c : Char} (h : c.isDigit = true) : isDecimal c = true := by
  simp [isDecimal, digitValue?, h]

theorem isBlank_of_isDigit {c : Char} (h : c.isDigit = true) : isBlank c = false := by
  simp only [Char.isDigit, Bool.and_eq_true, decide_eq_true_eq, ge_iff_le,
    UInt32.le_iff_toNat_le] at h
  have hdigit : 48 ≤ c.toNat ∧ c.toNat ≤ 57 := h
  simp only [isBlank, Bool.or_eq_false_iff, Bool.and_eq_false_iff, decide_eq_false_iff_not,
    beq_eq_false_iff_ne]
  omega

end Text

/-! ## Numbers -/

namespace Numeral

theorem isDecimal_of_mem_ofNat {n : Nat} {c : Char} (h : c ∈ ofNat n) : Text.isDecimal c = true :=
  Text.isDecimal_of_isDigit (isDigit_of_mem_ofNat h)

theorem valueFrom_ofNat (n : Nat) : valueFrom 0 (ofNat n) = n := by
  have hdigits : valueFrom 0 (ofNat n) = Nat.ofDigitChars 10 (ofNat n) 0 := by
    refine List.foldl_ext _ _ _ fun m c hc => ?_
    simp [Text.digitValue?, isDigit_of_mem_ofNat hc]
  rw [hdigits]
  exact Nat.ofDigitChars_toDigits (by decide) (by decide)

/-- **A number that is written is read back.** -/
theorem read_ofNat {n : Nat} (h : (ofNat n).length ≤ digitLimit) : read (ofNat n) = .ok n := by
  have hall : (ofNat n).takeWhile Text.isDecimal = ofNat n :=
    List.takeWhile_eq_self_iff.mpr fun c hc => isDecimal_of_mem_ofNat hc
  simp [read, hall, Nat.not_lt.mpr h, ofNat_ne_nil, valueFrom_ofNat]

end Numeral

namespace Report

open Text (isBlank isDecimal)

/-! ## Drawing -/

/-- **A name that a heading can have**: it begins neither with a space nor with a number that a
space or nothing follows. -/
structure IsName (name : Text) : Prop where
  ne_nil : name ≠ []
  notIndented : name.head? ≠ some ' '
  notNumbered : name.takeWhile isDecimal ≠ [] →
    name.dropWhile isDecimal ≠ [] ∧ (name.dropWhile isDecimal).head? ≠ some ' '

instance (name : Text) : Decidable (IsName name) :=
  decidable_of_iff
    (name ≠ [] ∧ name.head? ≠ some ' ' ∧ (name.takeWhile isDecimal ≠ [] →
      name.dropWhile isDecimal ≠ [] ∧ (name.dropWhile isDecimal).head? ≠ some ' '))
    ⟨fun h => ⟨h.1, h.2.1, h.2.2⟩, fun h => ⟨h.1, h.2, h.3⟩⟩

/-- What a heading says after its indentation. -/
def headingBody (name : Text) (count : Nat) (noun : Text) : Text :=
  name ++ ("  (".toList ++ (Numeral.ofNat count ++ (' ' :: noun ++ " found)".toList)))

/-- What a call says after its indentation. -/
def callBody (line : Nat) (code : Text) : Text := Numeral.ofNat line ++ ' ' :: code

/-- **A line draws a row.** -/
inductive Draws (layout : Layout) : Row → Text → Prop
  | heading {margin : Int} {columns count : Nat} {name noun : Text}
      (hcolumns : (columns : Int) = layout.indentUnit * margin) (hname : IsName name)
      (hnoun : noun = "usage".toList ∨ noun = "usages".toList) :
      Draws layout (margin, .heading name)
        (List.replicate columns ' ' ++ headingBody name count noun)
  | call {margin : Int} {columns line : Nat} {code : Text}
      (hcolumns : (columns : Int) = layout.indentUnit * margin)
      (hline : (Numeral.ofNat line).length ≤ Numeral.digitLimit) (hcode : code ≠ []) :
      Draws layout (margin, .call line) (List.replicate columns ' ' ++ callBody line code)

/-- A line that the outline drops: it is blank, or its margin is one of the frame. -/
def Dropped (layout : Layout) (line : Text) : Prop :=
  (∀ c ∈ line, isBlank c = true)
    ∨ Int.fdiv ((line.takeWhile (· = ' ')).length : Int) layout.indentUnit ≤ layout.marginThreshold

/-- **Lines draw some rows**, in order, with any lines between them that are dropped. -/
inductive Drawn (layout : Layout) : List Row → List Text → Prop
  | nil : Drawn layout [] []
  | dropped {rows : List Row} {line : Text} {lines : List Text} (hline : Dropped layout line)
      (hrest : Drawn layout rows lines) : Drawn layout rows (line :: lines)
  | row {row : Row} {rows : List Row} {line : Text} {lines : List Text}
      (hline : Draws layout row line) (hrest : Drawn layout rows lines) :
      Drawn layout (row :: rows) (line :: lines)

/-! ## Reading a drawn line -/

theorem readLine_dropped {layout : Layout} {line : Text} (hunit : 1 ≤ layout.indentUnit)
    (h : Dropped layout line) (position : Nat) : readLine layout position line = .ok none := by
  have hlength : (line.length : Int) - (line.dropWhile (· = ' ')).length
      = (line.takeWhile (· = ' ')).length := by
    have := congrArg List.length (List.takeWhile_append_dropWhile (p := (· = ' ')) (l := line))
    rw [List.length_append] at this
    omega
  by_cases hblank : (line.dropWhile (· = ' ')).all isBlank = true
  · exact if_pos hblank
  · have hshallow := h.resolve_left fun hall => hblank <|
      List.all_eq_true.mpr fun c hc => hall c ((List.dropWhile_suffix _).subset hc)
    rw [readLine, hlength, if_neg hblank, if_neg (by omega)]
    exact if_pos hshallow

/-- **The body of a line decides what it is**, once it is not blank and deep enough. -/
theorem readLine_indented {layout : Layout} {margin : Int} {columns : Nat} {body : Text} {c : Char}
    (hunit : 1 ≤ layout.indentUnit) (hmargin : layout.marginThreshold < margin)
    (hcolumns : (columns : Int) = layout.indentUnit * margin) (hhead : body.head? ≠ some ' ')
    (hc : c ∈ body) (hsolid : isBlank c = false) (position : Nat) :
    readLine layout position (List.replicate columns ' ' ++ body)
      = match callDigits? body with
        | some digits =>
          match Numeral.read digits with
          | .error fault => .error (.numeral fault)
          | .ok line => .ok (some ⟨margin, position, .call line⟩)
        | none =>
          match headingName? body with
          | some name => .ok (some ⟨margin, position, .heading name⟩)
          | none =>
            .error (.malformed (.unexpected (List.replicate columns ' ' ++ body)) position) := by
  have hbody : (List.replicate columns ' ' ++ body).dropWhile (· = ' ') = body := by
    rw [List.dropWhile_append_of_pos (by simp)]
    cases body with
    | nil => rfl
    | cons d r => exact List.dropWhile_cons_of_neg (by simpa using hhead)
  have hlevel : Int.fdiv (((List.replicate columns ' ' ++ body).length : Int) - body.length)
      layout.indentUnit = margin := by
    rw [List.length_append, List.length_replicate, Int.natCast_add, Int.add_sub_cancel, hcolumns,
      Int.mul_fdiv_cancel_left margin (by omega)]
  have hall : ¬ body.all isBlank = true := by
    rw [List.all_eq_true]
    intro h
    simp [h c hc] at hsolid
  rw [readLine, hbody, if_neg hall, if_neg (by omega), hlevel]
  exact if_neg (by omega)

theorem callDigits?_callBody {line : Nat} {code : Text} (hcode : code ≠ []) :
    callDigits? (callBody line code) = some (Numeral.ofNat line) := by
  obtain ⟨c, rest, rfl⟩ := List.exists_cons_of_ne_nil hcode
  have hdigits : (callBody line (c :: rest)).takeWhile isDecimal = Numeral.ofNat line :=
    Text.takeWhile_append_cons (fun _ => Numeral.isDecimal_of_mem_ofNat) (by decide) _
  rw [callDigits?, hdigits, callBody, List.drop_left]
  exact if_neg (by simp [Numeral.ofNat_ne_nil])

theorem callDigits?_headingBody {name : Text} (h : IsName name) (count : Nat) (noun : Text) :
    callDigits? (headingBody name count noun) = none := by
  have hdecimal : ∀ d ∈ name.takeWhile isDecimal, isDecimal d = true :=
    fun d => List.mem_takeWhile_imp
  cases hrest : name.dropWhile isDecimal with
  | nil =>
    -- A name of digits alone would be a number.
    have hname : name.takeWhile isDecimal = name := by
      simpa [hrest] using List.takeWhile_append_dropWhile (p := isDecimal) (l := name)
    exact absurd hrest (h.notNumbered (by rw [hname]; exact h.ne_nil)).1
  | cons c rest =>
    have hname : name = name.takeWhile isDecimal ++ c :: rest := by
      rw [← hrest, List.takeWhile_append_dropWhile]
    have hc : isDecimal c = false := by
      have := List.head?_dropWhile_not isDecimal name
      simpa [hrest] using this
    have hspace : name.takeWhile isDecimal ≠ [] → c ≠ ' ' := by
      intro hdigits
      simpa [hrest] using (h.notNumbered hdigits).2
    generalize name.takeWhile isDecimal = digits at *
    subst hname
    have hdigits : (headingBody (digits ++ c :: rest) count noun).takeWhile isDecimal = digits := by
      rw [headingBody, List.append_assoc]
      exact Text.takeWhile_append_cons hdecimal hc _
    rw [callDigits?, hdigits, headingBody, List.append_assoc, List.drop_left]
    split
    · rename_i heq
      refine if_pos (List.isEmpty_iff.mpr (by_contra fun hne => hspace hne ?_))
      exact (List.cons.inj heq).1
    · rfl

theorem afterStart?_append (start t : Text) : afterStart? start (start ++ t) = some t := by
  rw [afterStart?, if_pos (by simp), List.drop_left]

/-- A heading is read from its end, one part after the other. -/
theorem headingName?_eq_some {body noun counted backwards : Text}
    (hfound : afterStart? ")dnuof ".toList (body.reverse.dropWhile isBlank) = some noun)
    (hnoun : afterStart? "egasu ".toList (if noun.head? = some 's' then noun.drop 1 else noun)
      = some counted)
    (hname : afterStart? "(  ".toList (counted.drop (counted.takeWhile isDecimal).length)
      = some backwards)
    (hcount : counted.takeWhile isDecimal ≠ []) (hne : backwards ≠ []) :
    headingName? body = some backwards.reverse := by
  simp only [headingName?, bind, hfound, hnoun, hname, Option.bind_some]
  exact if_neg (by simp [hcount, hne])

theorem headingName?_headingBody {name noun : Text} (h : name ≠ []) (count : Nat)
    (hnoun : noun = "usage".toList ∨ noun = "usages".toList) :
    headingName? (headingBody name count noun) = some name := by
  have hcount : ((Numeral.ofNat count).reverse ++ ("(  ".toList ++ name.reverse)).takeWhile
      isDecimal = (Numeral.ofNat count).reverse :=
    Text.takeWhile_append_cons (fun d hd => Numeral.isDecimal_of_mem_ofNat (List.mem_reverse.mp hd))
      (by decide) _
  have hreverse : (headingBody name count noun).reverse.dropWhile isBlank
      = ")dnuof ".toList ++ (noun.reverse ++ (' ' :: ((Numeral.ofNat count).reverse
        ++ ("(  ".toList ++ name.reverse)))) := by
    rw [show (headingBody name count noun).reverse = ")dnuof ".toList ++ (noun.reverse
      ++ (' ' :: ((Numeral.ofNat count).reverse ++ ("(  ".toList ++ name.reverse))))
      by simp [headingBody], List.dropWhile_append, if_neg (by decide)]
    rfl
  have hread : headingName? (headingBody name count noun) = some name.reverse.reverse := by
    refine headingName?_eq_some (by rw [hreverse]; exact afterStart?_append ..) ?_
      (by rw [hcount, List.drop_left]; exact afterStart?_append ..)
      (by rw [hcount]; simpa using Numeral.ofNat_ne_nil count) (by simpa using h)
    rcases hnoun with rfl | rfl
    · exact afterStart?_append "egasu ".toList _
    · exact afterStart?_append "egasu ".toList _
  rwa [List.reverse_reverse] at hread

/-! ## Reading all drawn lines -/

theorem readLine_of_draws {layout : Layout} {row : Row} {line : Text}
    (hunit : 1 ≤ layout.indentUnit) (hmargin : layout.marginThreshold < row.1)
    (h : Draws layout row line) (position : Nat) :
    readLine layout position line = .ok (some ⟨row.1, position, row.2⟩) := by
  cases h with
  | @heading margin columns count name noun hcolumns hname hnoun =>
    have hhead : (headingBody name count noun).head? ≠ some ' ' := by
      rw [headingBody, List.head?_append_of_ne_nil _ hname.ne_nil]
      exact hname.notIndented
    have hparen : '(' ∈ headingBody name count noun := by simp [headingBody]
    rw [readLine_indented hunit hmargin hcolumns hhead hparen (by decide),
      callDigits?_headingBody hname, headingName?_headingBody hname.ne_nil count hnoun]
  | @call margin columns number code hcolumns hnumber hcode =>
    obtain ⟨d, digits, hdigits⟩ := List.exists_cons_of_ne_nil (Numeral.ofNat_ne_nil number)
    have hd : d ∈ Numeral.ofNat number := by rw [hdigits]; exact List.mem_cons_self
    have hsolid : isBlank d = false := Text.isBlank_of_isDigit (Numeral.isDigit_of_mem_ofNat hd)
    have hhead : (callBody number code).head? ≠ some ' ' := by
      rw [callBody, hdigits, List.cons_append, List.head?_cons]
      rintro ⟨rfl⟩
      exact absurd hsolid (by decide)
    rw [readLine_indented hunit hmargin hcolumns hhead (List.mem_append_left _ hd) hsolid,
      callDigits?_callBody hcode]
    simp only [Numeral.read_ofNat hnumber]

/-- **Drawn rows are read back.** -/
theorem exists_outline_of_drawn {layout : Layout} {rows : List Row} {lines : List Text}
    (hunit : 1 ≤ layout.indentUnit) (hmargin : ∀ row ∈ rows, layout.marginThreshold < row.1)
    (h : Drawn layout rows lines) (position : Nat) :
    ∃ nodes, outlineFrom layout position lines = .ok nodes ∧ nodes.map Node.row = rows := by
  induction h generalizing position with
  | nil => exact ⟨[], rfl, rfl⟩
  | dropped hline _ ih =>
    obtain ⟨nodes, hnodes, hrows⟩ := ih hmargin (position + 1)
    refine ⟨nodes, ?_, hrows⟩
    rw [outlineFrom, readLine_dropped hunit hline, hnodes]
    rfl
  | @row row rows _ _ hline _ ih =>
    obtain ⟨nodes, hnodes, hrows⟩ :=
      ih (fun other hother => hmargin other (List.mem_cons_of_mem _ hother)) (position + 1)
    refine ⟨⟨row.1, position, row.2⟩ :: nodes, ?_, by rw [List.map_cons, hrows]; rfl⟩
    rw [outlineFrom, readLine_of_draws hunit (hmargin row List.mem_cons_self) hline, hnodes]
    rfl

end Report

end CallEdits
