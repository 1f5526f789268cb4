import CallEdits.Proofs.OutlineNodes
import CallEdits.Proofs.ReportLines

/-!
# Proofs/RelativeDepth — only the relative depth of a line matters

    src  (1 usage found)                      src  (1 usage found)
      a.c  (1 usage found)         ──▸          a.c  (1 usage found)
        f  (1 usage found)                        f  (1 usage found)
          7 g();                                    7 g();

    threshold t                          threshold t + 2, two levels deeper

A report that is drawn some levels deeper, and read with a threshold that is so much higher, has the
same sites.  Whatever the reader handles has its deeper form, and what the reader does commutes with
`deepen`: the reading of a line (`readLine_indent`), the outline, a step of the reader
(`Reader.step_deepen`) and the run.  A complaint keeps the line it is about; its words change where
they show the line, or a depth.
-/

namespace CallEdits

/-! ## Deeper lines -/

namespace Text

/-- `columns` spaces, and the text. -/
def indent (columns : Nat) (t : Text) : Text := List.replicate columns ' ' ++ t

/-- The rest of a text with `columns` spaces in front of every line; `fresh` holds at the start of a
line. -/
def indentLinesFrom (columns : Nat) (fresh : Bool) : Text → Text
  | [] => []
  | '\r' :: '\n' :: r =>
    indent (if fresh then columns else 0) ('\r' :: '\n' :: indentLinesFrom columns true r)
  | c :: r =>
    indent (if fresh then columns else 0) (c :: indentLinesFrom columns (endsLine c) r)

/-- **A text with `columns` spaces in front of every line.**  The marks that end lines stay. -/
def indentLines (columns : Nat) (t : Text) : Text := indentLinesFrom columns true t

/-- No line feed comes in front, so no carriage return before the text takes one up. -/
theorem head?_indentLinesFrom {columns : Nat} {fresh : Bool} {t : Text}
    (h : (indentLinesFrom columns fresh t).head? = some '\n') : t.head? = some '\n' := by
  have hindent {n : Nat} {c : Char} {r : Text} (h : (indent n (c :: r)).head? = some '\n') :
      c = '\n' := by
    cases n with
    | zero => exact Option.some.inj h
    | succ n => simp [indent, List.replicate_succ] at h
  rw [indentLinesFrom.eq_def] at h
  split at h
  · cases h
  · simpa using hindent h
  · rw [List.head?_cons, hindent h]

/-- The spaces belong to the line that begins with them. -/
theorem linesFrom_indent (columns : Nat) (line t : Text) :
    linesFrom (if line.isEmpty then [] else line ++ List.replicate columns ' ')
        (indent (if line.isEmpty then columns else 0) t)
      = linesFrom (line ++ List.replicate columns ' ') t := by
  have hspace : ∀ c ∈ List.replicate columns ' ', endsLine c = false := by
    intro c hc
    rw [List.eq_of_mem_replicate hc]
    rfl
  cases line with
  | nil =>
    have happend := linesFrom_append hspace [] t
    rw [List.reverse_replicate, List.append_nil] at happend
    exact happend
  | cons c line => rfl

theorem linesFrom_indentLinesFrom (columns : Nat) (line t : Text) :
    linesFrom (if line.isEmpty then [] else line ++ List.replicate columns ' ')
        (indentLinesFrom columns line.isEmpty t)
      = (linesFrom line t).map (indent columns) := by
  have hline (line : Text) : (line ++ List.replicate columns ' ').reverse
      = indent columns line.reverse := by
    rw [List.reverse_append, List.reverse_replicate, indent]
  fun_induction linesFrom line t with
  | case1 line hempty => simp [indentLinesFrom, linesFrom, hempty]
  | case2 line hne =>
    rw [if_neg hne, indentLinesFrom, linesFrom, if_neg (by simp_all), hline, List.map_singleton]
  | case3 line r ih =>
    rw [indentLinesFrom, linesFrom_indent, linesFrom, hline, List.map_cons]
    exact congrArg _ ih
  | case4 line c r hreturn hc ih =>
    rw [indentLinesFrom.eq_3 _ _ _ _ hreturn, linesFrom_indent, linesFrom, if_pos hc, hline,
      List.map_cons, hc]
    · exact congrArg _ ih
    · rintro r' rfl hr
      have hhead := head?_indentLinesFrom (congrArg List.head? hr)
      obtain ⟨rest, rfl⟩ := List.head?_eq_some_iff.mp hhead
      exact hreturn rest rfl rfl
  | case5 line c r hreturn hc ih =>
    have hc' : endsLine c = false := Bool.eq_false_iff.mpr hc
    rw [indentLinesFrom.eq_3 _ _ _ _ hreturn, linesFrom_indent, linesFrom, if_neg hc, hc']
    · exact ih
    · rintro _ rfl -
      exact hc rfl

/-- **Spaces in front of every line** are spaces in front of every line. -/
theorem lines_indentLines (columns : Nat) (t : Text) :
    lines (indentLines columns t) = (lines t).map (indent columns) :=
  linesFrom_indentLinesFrom columns [] t

end Text

namespace Report

/-! ## Deeper data -/

/-- A layout whose threshold is `levels` higher. -/
def Layout.deepen (levels : Nat) (layout : Layout) : Layout :=
  { layout with marginThreshold := layout.marginThreshold + levels }

/-- A node `levels` deeper. -/
def Node.deepen (levels : Nat) (node : Node) : Node :=
  { node with margin := node.margin + levels }

/-- A run of calls `levels` deeper. -/
def Mode.deepen (levels : Nat) : Mode → Mode
  | .seeking headings => .seeking headings
  | .inRun margin path => .inRun (margin + levels) path

/-- A reader that is `levels` deeper in the report. -/
def Reader.deepen (levels : Nat) (r : Reader) : Reader := { r with mode := r.mode.deepen levels }

/-- What a flaw becomes `levels` deeper, where a line begins with `columns` more spaces. -/
def Flaw.deepen (levels columns : Nat) : Flaw → Flaw
  | .unexpected line => .unexpected (line.indent columns)
  | .tooDeep margin limit => .tooDeep (margin + levels) (limit + levels)
  | flaw => flaw

/-- **What a failure becomes**: it concerns the same line of the report. -/
def Failure.deepen (levels columns : Nat) : Failure → Failure
  | .malformed flaw line => .malformed (flaw.deepen levels columns) line
  | failure => failure

/-! ## Deeper outlines -/

variable {layout : Layout} {levels columns : Nat}

/-- **A line that is indented further** is read as before, so many levels deeper. -/
theorem readLine_indent (hunit : 1 ≤ layout.indentUnit)
    (hcolumns : (columns : Int) = levels * layout.indentUnit) (position : Nat) (raw : Text) :
    readLine (layout.deepen levels) position (raw.indent columns)
      = ((readLine layout position raw).map (Option.map (Node.deepen levels))).mapError
        (Failure.deepen levels columns) := by
  have hbody : (raw.indent columns).dropWhile (· = ' ') = raw.dropWhile (· = ' ') := by
    rw [Text.indent, List.dropWhile_append_of_pos (by simp)]
  have hmargin : Int.fdiv (((raw.indent columns).length : Int)
        - ((raw.dropWhile (· = ' ')).length : Int)) layout.indentUnit
      = Int.fdiv ((raw.length : Int) - ((raw.dropWhile (· = ' ')).length : Int))
        layout.indentUnit + levels := by
    rw [Text.indent, List.length_append, List.length_replicate, ← Int.add_mul_fdiv_right _ _
      (by omega), ← hcolumns]
    congr 1
    omega
  simp only [readLine, hbody, Layout.deepen, hmargin, Int.add_le_add_iff_right]
  split
  · rfl
  split
  · rfl
  split
  · rfl
  split
  · split <;> rfl
  · split <;> rfl

theorem outlineFrom_indent (hunit : 1 ≤ layout.indentUnit)
    (hcolumns : (columns : Int) = levels * layout.indentUnit) (position : Nat)
    (lines : List Text) :
    outlineFrom (layout.deepen levels) position (lines.map (Text.indent columns))
      = ((outlineFrom layout position lines).map (List.map (Node.deepen levels))).mapError
        (Failure.deepen levels columns) := by
  induction lines generalizing position with
  | nil => rfl
  | cons raw lines ih =>
    rw [List.map_cons, outlineFrom, outlineFrom, readLine_indent hunit hcolumns, ih]
    cases readLine layout position raw with
    | error failure => rfl
    | ok node? =>
      cases outlineFrom layout (position + 1) lines with
      | error failure => rfl
      | ok nodes => cases node? <;> rfl

/-! ## Deeper readers -/

namespace Reader

theorem enter_deepen (levels columns : Nat) (separator : Text) (r : Reader) (margin : Int)
    (path : List Text) (position line : Nat) :
    (r.deepen levels).enter separator (margin + levels) path position line
      = ((r.enter separator margin path position line).map (deepen levels)).mapError
        (Failure.deepen levels columns) := by
  rw [enter, enter, show (r.deepen levels).sites = r.sites from rfl]
  split <;> rfl

/-- **A step of the reader looks at depths only to compare them.** -/
theorem step_deepen (levels columns : Nat) (separator : Text) (r : Reader) (node : Node) :
    (r.deepen levels).step separator (node.deepen levels)
      = ((r.step separator node).map (deepen levels)).mapError
        (Failure.deepen levels columns) := by
  obtain ⟨mode, sites⟩ := r
  obtain ⟨margin, position, item⟩ := node
  match mode, item with
  | .seeking headings, .heading name => rfl
  | .seeking headings, .call line =>
    simp only [step, deepen, Mode.deepen, Node.deepen]
    split
    · rfl
    · exact enter_deepen levels columns separator ⟨.seeking headings, sites⟩ ..
  | .inRun limit path, .call line =>
    simp only [step, deepen, Mode.deepen, Node.deepen, Int.add_lt_add_iff_right]
    split
    · rfl
    · exact enter_deepen levels columns separator ⟨.inRun limit path, sites⟩ ..
  | .inRun limit path, .heading name =>
    have hfunction : margin + levels = limit + levels - 1 ↔ margin = limit - 1 := by omega
    have hfile : margin + levels = limit + levels - 2 ↔ margin = limit - 2 := by omega
    simp only [step, deepen, Mode.deepen, Node.deepen, hfunction, hfile]
    split
    · rfl
    split <;> rfl

theorem run_deepen (levels columns : Nat) (separator : Text) (r : Reader) (nodes : List Node) :
    (r.deepen levels).run separator (nodes.map (Node.deepen levels))
      = ((r.run separator nodes).map (deepen levels)).mapError
        (Failure.deepen levels columns) := by
  induction nodes generalizing r with
  | nil => rfl
  | cons node nodes ih =>
    rw [List.map_cons, run, run, step_deepen levels columns]
    cases r.step separator node with
    | error failure => rfl
    | ok next => exact ih next

end Reader

/-- **The deeper report has the same sites**, or fails for the deeper reason. -/
theorem parse_of_lines_eq (layout : Layout) (separator : Text) (hunit : 1 ≤ layout.indentUnit)
    (hcolumns : (columns : Int) = levels * layout.indentUnit) {text deeper : Text}
    (hlines : deeper.lines = text.lines.map (Text.indent columns)) :
    parse separator (layout.deepen levels) deeper
      = (parse separator layout text).mapError (Failure.deepen levels columns) := by
  rw [parse, parse, outline, outline, hlines, outlineFrom_indent hunit hcolumns]
  cases outlineFrom layout 1 text.lines with
  | error failure => rfl
  | ok nodes =>
    have hrun := Reader.run_deepen levels columns separator {} nodes
    rw [show ({} : Reader).deepen levels = {} from rfl] at hrun
    simp only [Except.map, Except.mapError, sites, hrun]
    cases Reader.run separator {} nodes with
    | error failure => rfl
    | ok r => rfl

/-- **Only relative depth matters.**  Take a report with as many more spaces in front of every line
as make up `levels`, and a threshold that is `levels` higher: the report has the same sites, and it
is malformed at a line if and only if it was malformed there. -/
theorem parse_indentLines (separator : Text) {unit : Int} (hunit : 1 ≤ unit) (threshold : Int)
    (levels : Nat) (text : Text) :
    let columns := (levels * unit).toNat
    let deeper := text.indentLines columns
    deeper.lines = text.lines.map (List.replicate columns ' ' ++ ·)
      ∧ (∀ sites, parse separator ⟨unit, threshold + levels⟩ deeper = .ok sites
          ↔ parse separator ⟨unit, threshold⟩ text = .ok sites)
      ∧ ∀ line, (∃ flaw, parse separator ⟨unit, threshold + levels⟩ deeper
            = .error (.malformed flaw line))
          ↔ ∃ flaw, parse separator ⟨unit, threshold⟩ text = .error (.malformed flaw line) := by
  intro columns deeper
  have hcolumns : (columns : Int) = levels * unit :=
    Int.toNat_of_nonneg (Int.mul_nonneg (Int.natCast_nonneg levels) (by omega))
  have hlines : deeper.lines = text.lines.map (Text.indent columns) :=
    Text.lines_indentLines columns text
  have hparse : parse separator ⟨unit, threshold + levels⟩ deeper
      = (parse separator ⟨unit, threshold⟩ text).mapError (Failure.deepen levels columns) :=
    parse_of_lines_eq ⟨unit, threshold⟩ separator hunit hcolumns hlines
  refine ⟨hlines, fun sites => ?_, fun line => ?_⟩
  · rw [hparse]
    cases parse separator ⟨unit, threshold⟩ text <;> simp [Except.mapError]
  · rw [hparse]
    cases parse separator ⟨unit, threshold⟩ text with
    | ok sites => simp [Except.mapError]
    | error failure => cases failure <;> simp [Except.mapError, Failure.deepen]

/-- A report with two columns for a level, whose lines end in different ways. -/
def narrowReport : Text :=
  "  d  (1 usage found)\n    a.c  (1 usage found)\r\n      f  (1 usage found)\r        7 x\n".toList

/-- **Three levels deeper** the call is the same; and a call that is too deep is complained of in
the same line. -/
theorem parse_indentLines_three_levels :
    parse ['/'] ⟨2, 0⟩ narrowReport = .ok [⟨"d/a.c".toList, 7⟩]
      ∧ parse ['/'] ⟨2, 3⟩ (narrowReport.indentLines 6) = .ok [⟨"d/a.c".toList, 7⟩]
      ∧ ∃ flaw, parse ['/'] ⟨2, 3⟩ ((narrowReport ++ "          9 y".toList).indentLines 6)
        = .error (.malformed flaw 5) := by
  have hnodes : outline ⟨2, 0⟩ narrowReport = .ok [⟨1, 1, .heading ['d']⟩,
      ⟨2, 2, .heading "a.c".toList⟩, ⟨3, 3, .heading ['f']⟩, ⟨4, 4, .call 7⟩] := by
    decide +kernel
  have hsites : parse ['/'] ⟨2, 0⟩ narrowReport = .ok [⟨"d/a.c".toList, 7⟩] := by
    rw [parse_eq_map hnodes]
    cbv
  have htooDeep : parse ['/'] ⟨2, 0⟩ (narrowReport ++ "          9 y".toList)
      = .error (.malformed (.tooDeep 5 4) 5) := by
    decide +kernel
  have hunit : (1 : Int) ≤ 2 := by decide
  exact ⟨hsites, ((parse_indentLines ['/'] hunit 0 3 narrowReport).2.1 _).mpr hsites,
    ((parse_indentLines ['/'] hunit 0 3 _).2.2 5).mpr ⟨_, htooDeep⟩⟩

end Report

end CallEdits
