import CallEdits.Proofs.OutlineNodes
import CallEdits.Proofs.UsageTrees

/-!
# Proofs/QualifiedPaths — when the addresses of a report lead from the top

    top                      seeking [top, sub1, a.c, f]  ──▸  top/sub1/a.c
      sub1 / a.c / f / 10
      sub2 / b.c / g / 20    seeking [sub2, b.c, g]       ──▸  sub2/b.c

A heading further out than the last file begins a new path, and the reader does not remember the
folders above it.  So what it takes for a path is always the *end* of the true one.  In a report
where every heading has a call below it, all addresses lead from the top exactly if the trees are
`Readable`: below a folder that the reader has left, nothing may follow.

The converse half rests on `headings_eq_of_readAll`: a tree whose addresses come out right was
entered with all the folders above it collected.
-/

namespace CallEdits.Text

/-- What is put together of the last pieces ends what is put together of all. -/
theorem join_suffix (separator : Text) {pieces : List Text} (h : pieces ≠ []) :
    ∀ before : List Text, join separator pieces <:+ join separator (before ++ pieces)
  | [] => List.suffix_rfl
  | t :: before => by
      obtain ⟨u, us, hus⟩ : ∃ u us, before ++ pieces = u :: us :=
        List.exists_cons_of_ne_nil (by simp [h])
      refine (join_suffix separator h before).trans ?_
      rw [List.cons_append, hus, join_cons_cons]
      exact ⟨t ++ separator, List.append_assoc ..⟩

/-- **A path that is the end of another one reads the same only if it is the same.** -/
theorem eq_nil_of_join_eq {separator : Text} {pieces before : List Text} (h : pieces ≠ [])
    (hbefore : ∀ t ∈ before, t ≠ [])
    (heq : join separator (before ++ pieces) = join separator pieces) : before = [] := by
  cases before with
  | nil => rfl
  | cons t before =>
    obtain ⟨u, us, hus⟩ : ∃ u us, before ++ pieces = u :: us :=
      List.exists_cons_of_ne_nil (by simp [h])
    have hlength := (join_suffix separator h before).length_le
    have hpos := List.length_pos_iff.mpr (hbefore t List.mem_cons_self)
    rw [List.cons_append, hus, join_cons_cons] at heq
    rw [hus] at hlength
    have := congrArg List.length heq
    simp only [List.length_append] at this
    omega

end CallEdits.Text

namespace CallEdits.Report

/-! ## Headings have names -/

/-- No heading of these rows is without a name. -/
def Named (rows : List Row) : Prop := ∀ margin name, (margin, .heading name) ∈ rows → name ≠ []

theorem Named.of_subset {rows rows' : List Row} (h : Named rows) (hsub : rows' ⊆ rows) :
    Named rows' :=
  fun margin name hname => h margin name (hsub hname)

theorem Named.of_folder {name : Text} {inside : List Tree} {margin : Int}
    (h : Named ((Tree.folder name inside).rows margin)) : Named (rowsOf inside (margin + 1)) :=
  h.of_subset (by rw [Tree.rows]; exact List.subset_cons_self ..)

theorem Named.of_cons {t : Tree} {ts : List Tree} {margin : Int}
    (h : Named (rowsOf (t :: ts) margin)) : Named (t.rows margin) :=
  h.of_subset (by rw [rowsOf]; exact List.subset_append_left ..)

theorem Named.of_rest {t : Tree} {ts : List Tree} {margin : Int}
    (h : Named (rowsOf (t :: ts) margin)) : Named (rowsOf ts margin) :=
  h.of_subset (by rw [rowsOf]; exact List.subset_append_right ..)

theorem Named.name_of_folder {name : Text} {inside : List Tree} {margin : Int} {up : List Text}
    (h : Named ((Tree.folder name inside).rows margin)) (hup : ∀ name ∈ up, name ≠ []) :
    ∀ folder ∈ up ++ [name], folder ≠ [] := by
  intro folder hfolder
  rcases List.mem_append.mp hfolder with hfolder | hfolder
  · exact hup folder hfolder
  · rw [List.mem_singleton.mp hfolder]
    exact h margin name (by rw [Tree.rows]; exact List.mem_cons_self)

theorem named_of_outlineFrom {layout : Layout} {position : Nat} {lines : List Text}
    {nodes : List Node} (h : outlineFrom layout position lines = .ok nodes) :
    Named (nodes.map Node.row) := by
  intro margin name hname
  obtain ⟨node, hnode, hrow⟩ := List.mem_map.mp hname
  obtain ⟨raw, -, n, hread⟩ := exists_line_of_mem_outlineFrom h hnode
  have hitem : node.item = .heading name := congrArg Prod.snd hrow
  rcases item_of_readLine hread with ⟨digits, line, -, hcall⟩ | ⟨other, hother, hheading⟩
  · cases hitem.symm.trans hcall
  · obtain rfl := Item.heading.inj (hitem.symm.trans hheading)
    exact (headingName?_spec hother).1

/-! ## Trees without empty branches -/

mutual

/-- **Every heading of the tree has a call below it.** -/
def Tree.Filled : Tree → Prop
  | .file f => f.Filled
  | .folder _ inside => inside ≠ [] ∧ AllFilled inside

/-- Every heading of the trees has a call below it. -/
def AllFilled : List Tree → Prop
  | [] => True
  | t :: ts => t.Filled ∧ AllFilled ts

end

theorem FileUsages.Opens.lines_ne_nil {f : FileUsages} (h : f.Opens) : f.lines ≠ [] := by
  obtain ⟨g, hg, hcalls⟩ := h
  obtain ⟨functions, hfunctions⟩ := List.head?_eq_some_iff.mp hg
  rw [FileUsages.lines, hfunctions, List.flatMap_cons]
  simp [hcalls]

/-! ## Every call has one address -/

theorem countP_callRows (margin : Int) (lines : List Nat) :
    (callRows margin lines).countP isCall = lines.length := by
  simp [callRows, List.countP_map, Function.comp_def, isCall]

theorem FileUsages.countP_inner (margin : Int) (f : FileUsages) :
    (f.inner margin).countP isCall = f.lines.length := by
  simp [inner, lines, countP_callRows, List.countP_flatMap, List.length_flatMap,
    FunctionUsages.rows, isCall, Function.comp_def]

mutual

theorem Tree.length_addresses (separator : Text) : ∀ (t : Tree) (margin : Int) (up : List Text),
    (t.addresses separator up).length = (t.rows margin).countP isCall
  | .file f, margin, up => by
      rw [Tree.addresses, Tree.rows, List.length_map, List.countP_cons, f.countP_inner]
      rfl
  | .folder name inside, margin, up => by
      rw [Tree.addresses, Tree.rows, List.countP_cons,
        length_addressesOf separator inside (margin + 1)]
      rfl

theorem length_addressesOf (separator : Text) : ∀ (ts : List Tree) (margin : Int) (up : List Text),
    (addressesOf separator ts up).length = (rowsOf ts margin).countP isCall
  | [], _, _ => by rw [addressesOf, rowsOf, List.length_nil, List.countP_nil]
  | t :: ts, margin, up => by
      rw [addressesOf, rowsOf, List.length_append, List.countP_append,
        t.length_addresses separator margin, length_addressesOf separator ts margin]

end

namespace Mode

variable {separator : Text} {margin : Int} {up : List Text} {mode mode' : Mode} {ts : List Tree}

/-- **Trees whose addresses come out right are right one by one.** -/
theorem readAll_rowsOf_cons {t : Tree}
    (h : mode.readAll separator (rowsOf (t :: ts) margin)
      = some (mode', addressesOf separator (t :: ts) up)) :
    ∃ next, mode.readAll separator (t.rows margin) = some (next, t.addresses separator up)
      ∧ next.readAll separator (rowsOf ts margin) = some (mode', addressesOf separator ts up) := by
  rw [rowsOf, addressesOf] at h
  obtain ⟨next, first, second, hfirst, hsecond, heq⟩ := readAll_append_eq_some_iff.mp h
  have hlength : (t.addresses separator up).length = first.length := by
    rw [t.length_addresses separator margin, length_of_readAll hfirst]
  obtain ⟨rfl, rfl⟩ := List.append_inj heq hlength
  exact ⟨next, hfirst, hsecond⟩

/-- **A tree whose addresses come out right was entered with the folders above it.** -/
theorem headings_eq_of_readAll : ∀ {t : Tree} {margin : Int} {hs up : List Text} {mode : Mode},
    t.Filled → Named (t.rows margin) → (∀ name ∈ up, name ≠ []) → hs <:+ up →
    (seeking hs).readAll separator (t.rows margin) = some (mode, t.addresses separator up) → hs = up
  | .file f, margin, hs, up, mode, hfilled, _, hup, hsuffix, h => by
      have hopens := FileUsages.Filled.opens hfilled
      rw [readAll_file_below margin hs hopens] at h
      obtain ⟨before, rfl⟩ := hsuffix
      obtain ⟨line, lines, hlines⟩ := List.exists_cons_of_ne_nil hopens.lines_ne_nil
      have haddresses := (Prod.mk.inj (Option.some.inj h)).2
      rw [Tree.addresses, Tree.addresses, hlines, List.map_cons, List.map_cons,
        List.append_assoc] at haddresses
      have hpath : Text.join separator (hs ++ [f.name])
          = Text.join separator (before ++ (hs ++ [f.name])) :=
        congrArg Location.path (List.cons.inj haddresses).1
      have hbefore : before = [] := Text.eq_nil_of_join_eq (by simp)
        (fun name hname => hup name (List.mem_append_left _ hname)) hpath.symm
      rw [hbefore, List.nil_append]
  | .folder name (t :: ts), margin, hs, up, mode, hfilled, hnamed, hup, hsuffix, h => by
      rw [Tree.rows, Tree.addresses, readAll_of_read rfl] at h
      obtain ⟨next, hfirst, -⟩ := readAll_rowsOf_cons h
      have heq : hs ++ [name] = up ++ [name] :=
        headings_eq_of_readAll hfilled.2.1 hnamed.of_folder.of_cons (hnamed.name_of_folder hup)
          (List.suffix_append_self_iff.mpr hsuffix) hfirst
      exact List.append_cancel_right heq

/-- **A folder beside a file is not read with its addresses**: its heading passes for a file, and
what is inside begins a path of its own. -/
theorem readAll_folder_beside {path : List Text} {name : Text} {inside : List Tree}
    (hfilled : (Tree.folder name inside).Filled)
    (hnamed : Named ((Tree.folder name inside).rows margin)) (hup : ∀ name ∈ up, name ≠ []) :
    (inRun (margin + 2) path).readAll separator ((Tree.folder name inside).rows margin)
      ≠ some (mode, (Tree.folder name inside).addresses separator up) := by
  intro h
  rw [Tree.rows, Tree.addresses, readAll_of_read (read_file ..)] at h
  match inside, hfilled with
  | [], hfilled => exact hfilled.1 rfl
  | .file f :: ts, hfilled =>
    obtain ⟨next, hfirst, -⟩ := readAll_rowsOf_cons h
    have hopens := FileUsages.Filled.opens hfilled.2.1
    obtain ⟨function, line, rest, hinner⟩ := hopens.exists_inner_eq (margin + 1)
    rw [show margin + 2 = margin + 1 + 1 by omega, Tree.rows, readAll_of_read (read_function ..),
      hinner, readAll_of_read (read_outer (by omega) (by omega) ..)] at hfirst
    simp [readAll, read] at hfirst
  | .folder inner [] :: ts, hfilled => exact hfilled.2.1.1 rfl
  | .folder inner (t :: us) :: ts, hfilled =>
    obtain ⟨next, hfirst, -⟩ := readAll_rowsOf_cons h
    rw [show margin + 2 = margin + 1 + 1 by omega, Tree.rows, readAll_of_read (read_function ..),
      Tree.addresses] at hfirst
    obtain ⟨last, hinner, -⟩ := readAll_rowsOf_cons hfirst
    rw [readAll_outer (by omega) (by omega)] at hinner
    have hinside := hnamed.of_folder.of_cons
    have heq : [] = up ++ [name] ++ [inner] :=
      headings_eq_of_readAll hfilled.2.1.2.1 hinside.of_folder.of_cons
        (hinside.name_of_folder (hnamed.name_of_folder hup)) List.nil_suffix hinner
    simp at heq

/-- **Only files follow a file**, if the addresses come out right. -/
theorem isFile_of_readAll (hfilled : AllFilled ts) (hnamed : Named (rowsOf ts margin))
    (hup : ∀ name ∈ up, name ≠ []) (hmode : mode.After margin up true)
    (h : mode.readAll separator (rowsOf ts margin) = some (mode', addressesOf separator ts up)) :
    ∀ t ∈ ts, t.isFile = true := by
  induction ts generalizing mode with
  | nil => exact List.forall_mem_nil _
  | cons t ts ih =>
    obtain ⟨path, rfl, rfl⟩ := hmode
    obtain ⟨next, hfirst, hmore⟩ := readAll_rowsOf_cons h
    cases t with
    | folder name inside =>
      exact absurd hfirst (readAll_folder_beside hfilled.1 hnamed.of_cons hup)
    | file f =>
      obtain ⟨rfl, -⟩ := Prod.mk.inj (Option.some.inj ((readAll_file_beside ..).symm.trans hfirst))
      exact List.forall_mem_cons.mpr
        ⟨rfl, ih hfilled.2 hnamed.of_rest ⟨_, rfl, List.dropLast_concat⟩ hmore⟩

theorem after_of_readAll {t : Tree} (hstraight : t.Straight)
    (h : (seeking up).readAll separator (t.rows margin) = some (mode, t.addresses separator up)) :
    mode.After margin up t.isFile := by
  obtain ⟨mode', hread, hafter⟩ := readAll_straight separator margin up hstraight
  obtain ⟨rfl, -⟩ := Prod.mk.inj (Option.some.inj (hread.symm.trans h))
  exact hafter

/-- **A tree whose addresses come out right is straight.** -/
theorem straight_of_readAll : ∀ {t : Tree} {margin : Int} {up : List Text} {mode : Mode},
    t.Filled → Named (t.rows margin) → (∀ name ∈ up, name ≠ []) →
    (seeking up).readAll separator (t.rows margin) = some (mode, t.addresses separator up) →
    t.Straight
  | .file f, _, _, _, hfilled, _, _, _ => FileUsages.Filled.opens hfilled
  | .folder name [], _, _, _, hfilled, _, _, _ => absurd rfl hfilled.1
  | .folder name (t :: ts), margin, up, mode, hfilled, hnamed, hup, h => by
      rw [Tree.rows, Tree.addresses, readAll_of_read rfl] at h
      obtain ⟨next, hfirst, hmore⟩ := readAll_rowsOf_cons h
      have hinside := hnamed.of_folder
      have hup' := hnamed.name_of_folder hup
      have hstraight : t.Straight := straight_of_readAll hfilled.2.1 hinside.of_cons hup' hfirst
      have hafter := after_of_readAll hstraight hfirst
      refine ⟨hstraight, ?_⟩
      by_cases hfile : t.isFile = true
      · rw [if_pos hfile]
        rw [hfile] at hafter
        exact isFile_of_readAll hfilled.2.2 hinside.of_rest hup' hafter hmore
      · rw [if_neg hfile]
        rw [After, if_neg hfile] at hafter
        cases ts with
        | nil => rfl
        | cons u ts =>
          -- The next tree would be entered without the folders above it.
          obtain ⟨_, hnext, -⟩ := readAll_rowsOf_cons hmore
          rw [readAll_of_ready hafter] at hnext
          have heq : [] = up ++ [name] := headings_eq_of_readAll hfilled.2.2.1
            hinside.of_rest.of_cons hup' List.nil_suffix hnext
          simp at heq

/-- **Trees whose addresses come out right are readable.** -/
theorem readable_of_readAll (hfilled : AllFilled ts) (hnamed : Named (rowsOf ts margin))
    (hmode : mode.Ready margin)
    (h : mode.readAll separator (rowsOf ts margin) = some (mode', addressesOf separator ts [])) :
    Readable ts := by
  induction ts generalizing mode with
  | nil => trivial
  | cons t ts ih =>
    obtain ⟨next, hfirst, hmore⟩ := readAll_rowsOf_cons h
    rw [readAll_of_ready hmode] at hfirst
    have hstraight : t.Straight :=
      straight_of_readAll hfilled.1 hnamed.of_cons (List.forall_mem_nil _) hfirst
    have hafter := after_of_readAll hstraight hfirst
    refine ⟨hstraight, ?_⟩
    by_cases hfile : t.isFile = true
    · rw [if_pos hfile]
      rw [hfile] at hafter
      exact isFile_of_readAll hfilled.2 hnamed.of_rest (List.forall_mem_nil _) hafter hmore
    · rw [if_neg hfile]
      rw [After, if_neg hfile] at hafter
      exact ih hfilled.2 hnamed.of_rest hafter hmore

end Mode

/-! ## Whole reports -/

/-- A report that is accepted has an outline with sites. -/
theorem exists_sites_of_parse {separator text : Text} {layout : Layout} {nodes : List Node}
    {found : List Location} (houtline : outline layout text = .ok nodes)
    (h : parse separator layout text = .ok found) :
    ∃ listed, sites separator nodes = .ok listed := by
  rw [parse_eq_map houtline] at h
  cases hsites : sites separator nodes with
  | error failure => simp [hsites, Except.map] at h
  | ok listed => exact ⟨listed, rfl⟩

/-- **When the addresses of a report lead from the top.**  Let a report that is accepted draw some
trees.  If they are readable, every call is given its address in them; and if every heading has a
call below it, that is the only case in which all calls are. -/
theorem addresses_qualified_of_readable {separator text : Text} {layout : Layout}
    {nodes : List Node} {trees : List Tree} {margin : Int} {found : List Location}
    (houtline : outline layout text = .ok nodes)
    (hdrawn : nodes.map Node.row = rowsOf trees margin)
    (haccepted : parse separator layout text = .ok found) :
    (Readable trees → sites separator nodes = .ok (addressesOf separator trees []))
      ∧ (AllFilled trees → sites separator nodes = .ok (addressesOf separator trees []) →
        Readable trees) := by
  constructor
  · intro hreadable
    obtain ⟨listed, hsites⟩ := exists_sites_of_parse houtline haccepted
    obtain ⟨mode, hlisted⟩ := readAll_of_sites_eq_ok hsites
    obtain ⟨mode', hread⟩ :=
      Mode.readAll_readable separator (Mode.ready_seeking_nil margin) hreadable
    rw [hdrawn, hread] at hlisted
    obtain ⟨-, rfl⟩ := Prod.mk.inj (Option.some.inj hlisted)
    exact hsites
  · intro hfilled hsites
    obtain ⟨mode, hread⟩ := readAll_of_sites_eq_ok hsites
    have hnamed := named_of_outlineFrom houtline
    rw [hdrawn] at hread hnamed
    exact Mode.readable_of_readAll hfilled hnamed (Mode.ready_seeking_nil margin) hread

/-- A report of two folders in one. -/
def forkedReport : Text :=
  ["            top  (2 usages found)",
    "                sub1  (1 usage found)",
    "                    a.c  (1 usage found)",
    "                        f  (1 usage found)",
    "                            10 x();",
    "                sub2  (1 usage found)",
    "                    b.c  (1 usage found)",
    "                        g  (1 usage found)",
    "                            20 y();"].flatMap fun line => line.toList ++ ['\n']

/-- The outline of that report. -/
def forkedNodes : List Node :=
  [⟨3, 1, .heading "top".toList⟩, ⟨4, 2, .heading "sub1".toList⟩, ⟨5, 3, .heading "a.c".toList⟩,
   ⟨6, 4, .heading "f".toList⟩, ⟨7, 5, .call 10⟩, ⟨4, 6, .heading "sub2".toList⟩,
   ⟨5, 7, .heading "b.c".toList⟩, ⟨6, 8, .heading "g".toList⟩, ⟨7, 9, .call 20⟩]

/-- What it draws. -/
def forkedTree : Tree :=
  .folder "top".toList
    [.folder "sub1".toList [.file ⟨"a.c".toList, [⟨"f".toList, [10]⟩], []⟩],
     .folder "sub2".toList [.file ⟨"b.c".toList, [⟨"g".toList, [20]⟩], []⟩]]

/-- **The second folder is listed without the one around it.** -/
theorem addresses_qualified_of_readable_forked :
    outline {} forkedReport = .ok forkedNodes ∧ forkedNodes.map Node.row = rowsOf [forkedTree] 3
      ∧ sites "/".toList forkedNodes
        = .ok [⟨"top/sub1/a.c".toList, 10⟩, ⟨"sub2/b.c".toList, 20⟩]
      ∧ sites "/".toList forkedNodes ≠ .ok (addressesOf "/".toList [forkedTree] []) := by
  have houtline : outline {} forkedReport = .ok forkedNodes := by decide +kernel
  have hdrawn : forkedNodes.map Node.row = rowsOf [forkedTree] 3 := by decide +kernel
  have hsites : sites "/".toList forkedNodes
      = .ok [⟨"top/sub1/a.c".toList, 10⟩, ⟨"sub2/b.c".toList, 20⟩] := by decide +kernel
  have hfilled : AllFilled [forkedTree] := by
    simp [AllFilled, forkedTree, Tree.Filled, FileUsages.Filled]
  have hforked : ¬ Readable [forkedTree] := by
    simp [Readable, forkedTree, Tree.Straight, Tree.isFile]
  obtain ⟨found, haccepted⟩ : ∃ found, parse "/".toList {} forkedReport = .ok found :=
    ⟨_, (parse_eq_map houtline).trans (congrArg (Except.map Location.sort) hsites)⟩
  refine ⟨houtline, hdrawn, hsites, fun hqualified => hforked ?_⟩
  exact (addresses_qualified_of_readable houtline hdrawn haccepted).2 hfilled hqualified

end CallEdits.Report
