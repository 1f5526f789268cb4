import CallEdits.Proofs.ReadRows

/-!
# Proofs/UsageTrees — the tree that a report draws, and how it is read

    folder                 rows:  (m, folder) (m + 1, file) (m + 2, function) (m + 3, call) …
      file
        function           reader:  seeking [] ──▸ … ──▸ in run (m + 3, [folder, file]) ──▸ …
          call …

A report lists usages as a tree: folders hold folders and files, a file holds functions with their
calls and may end with calls outside any function.  Drawn line by line, each level one margin below
the one above it, the tree is a list of rows.

The reader has no stack.  It collects the headings before a run of calls and takes those up to the
file for the path; a heading at the margin of the last file is taken for another file beside it, and
any heading further out begins a new path.  The trees that can be read this way, the `Straight`
ones, lead down to a file without a fork and end there.
-/

namespace CallEdits.Report

/-! ## Trees of usages -/

/-- A function, with the lines of its calls. -/
structure FunctionUsages where
  name : Text
  calls : List Nat

/-- A file: its functions, and the lines of the calls outside them, which come last. -/
structure FileUsages where
  name : Text
  functions : List FunctionUsages
  loose : List Nat

/-- **What a report draws.** -/
inductive Tree
  | file (usages : FileUsages)
  | folder (name : Text) (inside : List Tree)

/-- Calls at one margin. -/
def callRows (margin : Int) (lines : List Nat) : List Row :=
  lines.map fun line => (margin, .call line)

def FunctionUsages.rows (margin : Int) (f : FunctionUsages) : List Row :=
  (margin, .heading f.name) :: callRows (margin + 1) f.calls

namespace FileUsages

/-- What stands below the heading of a file at `margin`. -/
def inner (margin : Int) (f : FileUsages) : List Row :=
  f.functions.flatMap (FunctionUsages.rows (margin + 1)) ++ callRows (margin + 1) f.loose

/-- The lines of all calls in a file. -/
def lines (f : FileUsages) : List Nat := f.functions.flatMap FunctionUsages.calls ++ f.loose

/-- The first thing in the file is a function with a call. -/
def Opens (f : FileUsages) : Prop := ∃ g ∈ f.functions.head?, g.calls ≠ []

/-- The file has functions, and each of them a call. -/
def Filled (f : FileUsages) : Prop := f.functions ≠ [] ∧ ∀ g ∈ f.functions, g.calls ≠ []

theorem Filled.opens {f : FileUsages} (h : f.Filled) : f.Opens := by
  obtain ⟨g, functions, hfunctions⟩ := List.exists_cons_of_ne_nil h.1
  exact ⟨g, by simp [hfunctions], h.2 g (by simp [hfunctions])⟩

/-- A file that opens with a function leads to a call at once. -/
theorem Opens.exists_inner_eq {f : FileUsages} (h : f.Opens) (margin : Int) :
    ∃ function line rest, f.inner margin
      = (margin + 1, .heading function) :: (margin + 2, .call line) :: rest := by
  obtain ⟨g, hg, hcalls⟩ := h
  obtain ⟨functions, hfunctions⟩ := List.head?_eq_some_iff.mp hg
  obtain ⟨line, calls, hline⟩ := List.exists_cons_of_ne_nil hcalls
  simp [inner, hfunctions, FunctionUsages.rows, callRows, hline, Int.add_assoc]

end FileUsages

mutual

/-- **A tree drawn at a margin.** -/
def Tree.rows : Tree → Int → List Row
  | .file f, margin => (margin, .heading f.name) :: f.inner margin
  | .folder name inside, margin => (margin, .heading name) :: rowsOf inside (margin + 1)

/-- Trees drawn side by side. -/
def rowsOf : List Tree → Int → List Row
  | [], _ => []
  | t :: ts, margin => t.rows margin ++ rowsOf ts margin

end

mutual

/-- **The addresses of the calls in a tree** that stands in the folders `up`: each leads from the
outermost folder down to the file. -/
def Tree.addresses (separator : Text) : Tree → List Text → List Location
  | .file f, up => f.lines.map (siteIn separator (up ++ [f.name]))
  | .folder name inside, up => addressesOf separator inside (up ++ [name])

/-- The addresses of the calls in trees that stand side by side. -/
def addressesOf (separator : Text) : List Tree → List Text → List Location
  | [], _ => []
  | t :: ts, up => t.addresses separator up ++ addressesOf separator ts up

end

namespace Tree

def isFile : Tree → Bool
  | .file _ => true
  | .folder _ _ => false

/-- **A tree without a fork above its files**: each folder holds one folder, or files only, and a
call follows the headings that lead to the first function. -/
def Straight : Tree → Prop
  | .file f => f.Opens
  | .folder _ [] => False
  | .folder _ (t :: ts) => t.Straight ∧ if t.isFile then ∀ u ∈ ts, u.isFile = true else ts = []

/-- A tree begins with its heading. -/
theorem exists_rows_eq (t : Tree) (margin : Int) :
    ∃ name rest, t.rows margin = (margin, .heading name) :: rest := by
  cases t with
  | file f => exact ⟨f.name, f.inner margin, by rw [rows]⟩
  | folder name inside => exact ⟨name, rowsOf inside (margin + 1), by rw [rows]⟩

end Tree

/-- **Trees side by side that the reader can follow**: all are straight, but after a file come only
files. -/
def Readable : List Tree → Prop
  | [] => True
  | t :: ts => t.Straight ∧ if t.isFile then ∀ u ∈ ts, u.isFile = true else Readable ts

/-! ## Reading a file -/

namespace Mode

variable {separator : Text}

theorem readAll_of_read {mode next : Mode} {row : Row}
    (h : mode.read separator row = some (next, none)) (rows : List Row) :
    mode.readAll separator (row :: rows) = next.readAll separator rows := by
  simp [readAll, h]

theorem read_function (margin : Int) (path : List Text) (name : Text) :
    (inRun (margin + 1) path).read separator (margin, .heading name)
      = some (inRun (margin + 1) path, none) :=
  if_pos (by omega)

theorem read_file (margin : Int) (path : List Text) (name : Text) :
    (inRun (margin + 2) path).read separator (margin, .heading name)
      = some (inRun (margin + 2) (path.dropLast ++ [name]), none) :=
  (if_neg (by omega)).trans (if_pos (by omega))

/-- A heading that is neither a function nor a file begins a new path. -/
theorem read_outer {margin limit : Int} (hfunction : margin + 1 ≠ limit)
    (hfile : margin + 2 ≠ limit) (path : List Text) (name : Text) :
    (inRun limit path).read separator (margin, .heading name) = some (seeking [name], none) :=
  (if_neg (by omega)).trans (if_neg (by omega))

/-- The first call after some headings begins a run in the file before the last of them. -/
theorem read_call_seeking {path : List Text} (h : path ≠ []) (function : Text) (margin : Int)
    (line : Nat) :
    (seeking (path ++ [function])).read separator (margin, .call line)
      = (inRun margin path).read separator (margin, .call line) := by
  simp [read, h]

theorem readAll_callRows {margin limit : Int} (h : margin ≤ limit) (path : List Text)
    (lines : List Nat) :
    (inRun limit path).readAll separator (callRows margin lines)
      = some (inRun limit path, lines.map (siteIn separator path)) := by
  induction lines with
  | nil => rfl
  | cons line lines ih =>
    have hread : (inRun limit path).read separator (margin, .call line)
        = some (inRun limit path, some (siteIn separator path line)) :=
      if_neg (Int.not_lt.mpr h)
    exact readAll_cons hread ih

/-- **Functions pass by in a run**, and their calls are entered for the file at hand. -/
theorem readAll_functions (margin : Int) (path : List Text) (functions : List FunctionUsages) :
    (inRun (margin + 1) path).readAll separator (functions.flatMap (FunctionUsages.rows margin))
      = some (inRun (margin + 1) path,
        (functions.flatMap FunctionUsages.calls).map (siteIn separator path)) := by
  induction functions with
  | nil => rfl
  | cons f functions ih =>
    rw [List.flatMap_cons, List.flatMap_cons, List.map_append]
    refine readAll_append ?_ ih
    rw [FunctionUsages.rows, readAll_of_read (read_function margin path f.name)]
    exact readAll_callRows Int.le_rfl path f.calls

theorem readAll_inner (margin : Int) (path : List Text) (f : FileUsages) :
    (inRun (margin + 2) path).readAll separator (f.inner margin)
      = some (inRun (margin + 2) path, f.lines.map (siteIn separator path)) := by
  rw [FileUsages.lines, List.map_append, show margin + 2 = margin + 1 + 1 by omega]
  exact readAll_append (readAll_functions (margin + 1) path f.functions)
    (readAll_callRows (by omega) path f.loose)

/-- **A file beside the last one** takes its place in the path. -/
theorem readAll_file_beside (margin : Int) (path : List Text) (f : FileUsages) :
    (inRun (margin + 2) path).readAll separator ((Tree.file f).rows margin)
      = some (inRun (margin + 2) (path.dropLast ++ [f.name]),
        (Tree.file f).addresses separator path.dropLast) := by
  rw [Tree.rows, Tree.addresses, readAll_of_read (read_file margin path f.name)]
  exact readAll_inner margin _ f

/-- **A file below the folders collected so far** begins a run. -/
theorem readAll_file_below (margin : Int) (up : List Text) {f : FileUsages} (h : f.Opens) :
    (seeking up).readAll separator ((Tree.file f).rows margin)
      = some (inRun (margin + 2) (up ++ [f.name]), (Tree.file f).addresses separator up) := by
  obtain ⟨function, line, rest, hinner⟩ := h.exists_inner_eq margin
  -- The two headings are collected; at the call it is as if the run had been under way before.
  rw [Tree.rows, Tree.addresses, readAll_of_read rfl, ← readAll_inner, hinner,
    readAll_of_read rfl, readAll, read_call_seeking (by simp),
    show margin + 2 = margin + 1 + 1 by omega, readAll_of_read (read_function ..), readAll]

/-- A tree that is neither a function nor a file of the run begins a new path. -/
theorem readAll_outer {margin limit : Int} (hfunction : margin + 1 ≠ limit)
    (hfile : margin + 2 ≠ limit) (path : List Text) (t : Tree) :
    (inRun limit path).readAll separator (t.rows margin)
      = (seeking []).readAll separator (t.rows margin) := by
  obtain ⟨name, rest, hrows⟩ := t.exists_rows_eq margin
  rw [hrows, readAll_of_read (read_outer hfunction hfile path name), readAll_of_read rfl,
    List.nil_append]

/-! ## Reading a tree -/

/-- **Ready for a new path**: no heading is collected, or the last file stood further in than a tree
at `margin` would. -/
def Ready (margin : Int) : Mode → Prop
  | .seeking headings => headings = []
  | .inRun limit _ => margin + 2 < limit

theorem ready_seeking_nil (margin : Int) : (seeking []).Ready margin := rfl

theorem readAll_of_ready {margin : Int} {mode : Mode} (h : mode.Ready margin) (t : Tree) :
    mode.readAll separator (t.rows margin) = (seeking []).readAll separator (t.rows margin) := by
  match mode, h with
  | .seeking _, rfl => rfl
  | .inRun limit path, h =>
    rw [Ready] at h
    exact readAll_outer (by omega) (by omega) path t

/-- Where the reader stands after a tree at `margin` in the folders `up`: beside it, if it is a
file, and otherwise ready for a new path. -/
def After (margin : Int) (up : List Text) (file : Bool) (mode : Mode) : Prop :=
  if file then ∃ path, mode = inRun (margin + 2) path ∧ path.dropLast = up else mode.Ready margin

/-- After a tree one level further in, whatever it is, the reader is ready for a new path. -/
theorem After.ready {margin : Int} {up : List Text} {file : Bool} {mode : Mode}
    (h : mode.After (margin + 1) up file) : mode.Ready margin := by
  rw [After] at h
  split at h
  · obtain ⟨path, rfl, -⟩ := h
    rw [Ready]
    omega
  · match mode, h with
    | .seeking _, h => exact h
    | .inRun limit path, h =>
      rw [Ready] at h ⊢
      omega

/-- **Files side by side are read one after the other.** -/
theorem readAll_files {margin : Int} {up : List Text} {ts : List Tree} {mode : Mode}
    (hmode : mode.After margin up true) (hfiles : ∀ t ∈ ts, t.isFile = true) :
    ∃ mode', mode.readAll separator (rowsOf ts margin) = some (mode', addressesOf separator ts up)
      ∧ mode'.After margin up true := by
  induction ts generalizing mode with
  | nil => exact ⟨mode, by rw [rowsOf, addressesOf, readAll], hmode⟩
  | cons t ts ih =>
    cases t with
    | folder name inside => simpa [Tree.isFile] using hfiles _ List.mem_cons_self
    | file f =>
      obtain ⟨path, rfl, rfl⟩ := hmode
      obtain ⟨mode', hrest, hmode'⟩ := ih ⟨_, rfl, List.dropLast_concat⟩
        fun u hu => hfiles u (List.mem_cons_of_mem _ hu)
      refine ⟨mode', ?_, hmode'⟩
      rw [rowsOf, addressesOf]
      exact readAll_append (readAll_file_beside margin path f) hrest

/-- **A straight tree is read with the addresses of its calls**, if the headings collected are those
of the folders it stands in. -/
theorem readAll_straight (separator : Text) (margin : Int) (up : List Text) :
    ∀ {t : Tree}, t.Straight → ∃ mode,
      (seeking up).readAll separator (t.rows margin) = some (mode, t.addresses separator up)
      ∧ mode.After margin up t.isFile
  | .file f, h => ⟨_, readAll_file_below margin up h, _, rfl, List.dropLast_concat⟩
  | .folder name (t :: ts), h => by
      obtain ⟨hfirst, hmore⟩ := h
      obtain ⟨mode, hread, hmode⟩ := readAll_straight separator (margin + 1) (up ++ [name]) hfirst
      rw [Tree.rows, Tree.addresses, rowsOf, addressesOf, readAll_of_read rfl]
      by_cases hfile : t.isFile = true
      · rw [if_pos hfile] at hmore
        rw [hfile] at hmode
        obtain ⟨mode', hrest, hmode'⟩ := readAll_files hmode hmore
        exact ⟨mode', readAll_append hread hrest, hmode'.ready⟩
      · rw [if_neg hfile] at hmore
        subst hmore
        exact ⟨mode, by simpa [rowsOf, addressesOf] using hread, hmode.ready⟩

/-- **Readable trees are read with the addresses of their calls.** -/
theorem readAll_readable (separator : Text) {margin : Int} {ts : List Tree} {mode : Mode}
    (hmode : mode.Ready margin) (h : Readable ts) :
    ∃ mode', mode.readAll separator (rowsOf ts margin)
      = some (mode', addressesOf separator ts []) := by
  induction ts generalizing mode with
  | nil => exact ⟨mode, by rw [rowsOf, addressesOf, readAll]⟩
  | cons t ts ih =>
    obtain ⟨hfirst, hmore⟩ := h
    obtain ⟨next, hread, hnext⟩ := readAll_straight separator margin [] hfirst
    rw [← readAll_of_ready hmode] at hread
    rw [rowsOf, addressesOf]
    by_cases hfile : t.isFile = true
    · rw [if_pos hfile] at hmore
      rw [hfile] at hnext
      obtain ⟨mode', hrest, -⟩ := readAll_files hnext hmore
      exact ⟨mode', readAll_append hread hrest⟩
    · rw [if_neg hfile] at hmore
      rw [After, if_neg hfile] at hnext
      obtain ⟨mode', hrest⟩ := ih hnext hmore
      exact ⟨mode', readAll_append hread hrest⟩

end Mode

end CallEdits.Report
