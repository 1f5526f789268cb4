import CallEdits.Report.Addresses

/-!
# Proofs/HeadingWindows — headings looked up by their place

    h  h  h  h  c  c  h  c            h a heading, c a call
    ╰─────╯     ╰ a run begins
    its window: the headings since `start`, without the last one

The reader of an outline carries the headings of the next run along.  One can also keep only the
place where they `start`, and look them up in the outline when the run begins.  A reader that does
so, `LookBack`, can go wrong in two more ways (`Mishap`): it may look for a name on a call, which
has none, or replace the last name of an empty path.

Neither can happen.  Between runs, all nodes since `start` are headings, and they are those that the
reader carries along; in a run, the path has a name, and every part of it is one.  This is
`Matches`, which each step keeps (`agree_step`), so the two readers agree on every outline
(`sitesByPlace_eq`).
-/

namespace CallEdits.Report

/-- The name on a node; a call has none. -/
def Node.name? (node : Node) : Option Text :=
  match node.item with
  | .heading name => some name
  | .call _ => none

/-- **What goes wrong when headings are looked up.** -/
inductive Mishap
  /-- The report is refused. -/
  | refused (failure : Failure)
  /-- A path is joined, and one of its names is not there. -/
  | noName
  /-- The last name of an empty path is replaced. -/
  | emptyPath
  deriving DecidableEq

/-- **A reader that looks headings up.** -/
structure LookBack where
  /-- The place of the first heading since the last run. -/
  start : Nat := 0
  /-- The level of the run, inside one. -/
  margin : Option Int := none
  /-- The path of the run, with gaps where no name was found. -/
  path : List (Option Text) := []
  sites : List Location := []

namespace LookBack

/-! ## Looking back -/

/-- The names on the nodes from `start` on, without the last one, which is the function. -/
def window (seen : List Node) (start : Nat) : List (Option Text) :=
  (seen.dropLast.drop start).map Node.name?

/-- The names of a path, if it has no gaps. -/
def names? : List (Option Text) → Option (List Text)
  | [] => some []
  | none :: _ => none
  | some name :: rest => (names? rest).map (name :: ·)

/-- Enter the site of a call in the file that `path` leads to. -/
def enter (b : LookBack) (separator : Text) (margin : Int) (path : List (Option Text))
    (position line : Nat) : Except Mishap LookBack :=
  match names? path with
  | none => .error .noName
  | some names =>
    let site : Location := ⟨Text.join separator names, line⟩
    if site ∈ b.sites then .error (.refused (.malformed (.duplicate site) position))
    else .ok { b with margin := some margin, path, sites := site :: b.sites }

/-- **One step**, behind the nodes that were `seen`. -/
def step (separator : Text) (seen : List Node) (b : LookBack) (node : Node) :
    Except Mishap LookBack :=
  match b.margin, node.item with
  | none, .heading _ => .ok b
  | none, .call line =>
    if (window seen b.start).isEmpty then .error (.refused (.malformed .noFile node.position))
    else b.enter separator node.margin (window seen b.start) node.position line
  | some margin, .call line =>
    if margin < node.margin then
      .error (.refused (.malformed (.tooDeep node.margin margin) node.position))
    else b.enter separator margin b.path node.position line
  | some margin, .heading _ =>
    if node.margin = margin - 1 then .ok b
    else if node.margin = margin - 2 then
      if b.path.isEmpty then .error .emptyPath
      else .ok { b with path := b.path.dropLast ++ [node.name?] }
    else .ok { b with margin := none, start := seen.length }

/-- The reader after all nodes, behind those that were `seen`. -/
def run (separator : Text) (seen : List Node) : LookBack → List Node → Except Mishap LookBack
  | b, [] => .ok b
  | b, node :: rest =>
    match b.step separator seen node with
    | .error mishap => .error mishap
    | .ok b => run separator (seen ++ [node]) b rest

end LookBack

/-- **The sites of an outline**, with the headings looked up. -/
def sitesByPlace (separator : Text) (nodes : List Node) : Except Mishap (List Location) :=
  match LookBack.run separator [] {} nodes with
  | .error mishap => .error mishap
  | .ok b => .ok b.sites.reverse

/-! ## Both readers -/

namespace LookBack

/-- **A reader and one that looks headings up stand at the same place.** -/
inductive Matches (seen : List Node) : Reader → LookBack → Prop
  /-- Between runs: the headings are those since the start. -/
  | seeking {headings : List Text} {sites : List Location} {b : LookBack}
      (hsites : b.sites = sites) (hmargin : b.margin = none) (hstart : b.start ≤ seen.length)
      (hheadings : (seen.drop b.start).map Node.name? = headings.map some) :
      Matches seen ⟨.seeking headings, sites⟩ b
  /-- In a run: the path has a name and no gaps. -/
  | inRun {margin : Int} {path : List Text} {sites : List Location} {b : LookBack}
      (hsites : b.sites = sites) (hmargin : b.margin = some margin) (hne : path ≠ [])
      (hpath : b.path = path.map some) : Matches seen ⟨.inRun margin path, sites⟩ b

theorem names?_map_some (names : List Text) : names? (names.map some) = some names := by
  induction names with
  | nil => rfl
  | cons name names ih => rw [List.map_cons, names?, ih, Option.map_some]

/-- **The window before a run** holds the headings without the last one. -/
theorem window_eq {seen : List Node} {start : Nat} {headings : List Text}
    (h : (seen.drop start).map Node.name? = headings.map some) :
    window seen start = headings.dropLast.map some := by
  have hdrop : seen.dropLast.drop start = (seen.drop start).dropLast := by
    rw [List.dropLast_eq_take, List.dropLast_eq_take, List.drop_take, List.length_drop]
    congr 1
    omega
  rw [window, hdrop, List.map_dropLast, h, ← List.map_dropLast]

variable {separator : Text} {seen : List Node} {r : Reader} {b : LookBack} {node : Node}

/-- **The next readers match, or both have refused the report.** -/
def Agree (seen : List Node) : Except Failure Reader → Except Mishap LookBack → Prop
  | .ok r, .ok b => Matches seen r b
  | .error failure, .error mishap => mishap = .refused failure
  | _, _ => False

/-- Both enter the same site, or find that it was entered before. -/
theorem agree_enter {path : List Text} (hsites : b.sites = r.sites) (hne : path ≠ [])
    (margin : Int) (position line : Nat) :
    Agree seen (r.enter separator margin path position line)
      (b.enter separator margin (path.map some) position line) := by
  simp only [Reader.enter, enter, names?_map_some, hsites]
  split
  · exact rfl
  · exact Matches.inRun rfl rfl hne rfl

/-- **A step keeps the readers together.** -/
theorem agree_step (separator : Text) (h : Matches seen r b) (node : Node) :
    Agree (seen ++ [node]) (r.step separator node) (b.step separator seen node) := by
  obtain ⟨margin, position, item⟩ := node
  cases h with
  | @seeking headings sites _ hsites hmargin hstart hheadings =>
    cases item with
    | heading name =>
      simp only [Reader.step, step, hmargin]
      refine Matches.seeking hsites hmargin (by simpa using Nat.le_succ_of_le hstart) ?_
      rw [List.drop_append_of_le_length hstart, List.map_append, List.map_append, hheadings]
      rfl
    | call line =>
      simp only [Reader.step, step, hmargin, window_eq hheadings, List.isEmpty_map]
      split
      · exact rfl
      · rename_i hfile
        exact agree_enter hsites (by simpa using hfile) margin position line
  | @inRun limit path sites _ hsites hmargin hne hpath =>
    cases item with
    | call line =>
      simp only [Reader.step, step, hmargin, hpath]
      split
      · exact rfl
      · exact agree_enter hsites hne limit position line
    | heading name =>
      have hsome : ¬ b.path.isEmpty = true := by simp [hpath, hne]
      simp only [Reader.step, step, hmargin, if_neg hsome]
      split
      · exact Matches.inRun hsites hmargin hne hpath
      split
      · refine Matches.inRun hsites rfl (List.append_ne_nil_of_right_ne_nil _ (by simp)) ?_
        rw [hpath, List.map_append, List.map_dropLast]
        rfl
      · -- The window begins with this very heading.
        refine Matches.seeking hsites rfl (by simp) ?_
        simp [Node.name?]

/-- **All steps keep the readers together.** -/
theorem agree_run (separator : Text) : ∀ (nodes seen : List Node) (r : Reader) (b : LookBack),
    Matches seen r b →
      Agree (seen ++ nodes) (r.run separator nodes) (b.run separator seen nodes)
  | [], seen, r, b, h => by
      rw [List.append_nil]
      exact h
  | node :: nodes, seen, r, b, h => by
      have hstep := agree_step separator h node
      rw [Reader.run, run]
      generalize r.step separator node = next, b.step separator seen node = next' at hstep
      match next, next', hstep with
      | .error _, .error _, hstep => exact hstep
      | .ok r', .ok b', hstep =>
        have hrest := agree_run separator nodes (seen ++ [node]) r' b' hstep
        rwa [List.append_assoc, List.singleton_append] at hrest

end LookBack

/-- **Looking headings up never goes wrong**: the sites are the same, and a report is refused for
the same reason. -/
theorem sitesByPlace_eq (separator : Text) (nodes : List Node) :
    sitesByPlace separator nodes = (sites separator nodes).mapError Mishap.refused := by
  have hstart : LookBack.Matches [] {} {} := .seeking rfl rfl (Nat.le_refl _) rfl
  have hrun := LookBack.agree_run separator nodes [] {} {} hstart
  rw [sitesByPlace, sites]
  generalize Reader.run separator {} nodes = last,
    LookBack.run separator [] {} nodes = last' at hrun
  match last, last', hrun with
  | .error failure, .error mishap, hrun => exact congrArg Except.error hrun
  | .ok r, .ok b, hrun =>
    have hsites : b.sites = r.sites := by cases hrun <;> assumption
    exact congrArg (fun found => Except.ok (List.reverse found)) hsites

end CallEdits.Report
