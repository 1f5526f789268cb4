import CallEdits.Proofs.LocationOrder
import CallEdits.Proofs.ReportLines
import CallEdits.Proofs.UsageTrees

/-!
# Proofs/ReportRoundTrip — a report of groups gives back its call sites

    group:   outer / inner / … / inner        lines ──outline──▸ rows ──readAll──▸ addresses
               file …                                                                   │
                 function …  ──▸ calls                             found  ◂──sort───────┘
                 calls outside any function

The layout that reports have is a list of *groups*: a chain of folders, the last of which holds
files.  The chains may differ in length, and each group starts at the margin of the first.  Such
groups are straight trees, so the reader follows them, and the drawn lines lead back to the rows
(`exists_outline_of_drawn`).  What is left is to put the addresses in order.
-/

namespace CallEdits.Report

/-! ## Groups -/

/-- **A chain of folders, the last of which holds files.** -/
structure Group where
  outer : Text
  inner : List Text
  files : List FileUsages
  files_ne_nil : files ≠ []
  filled : ∀ f ∈ files, f.Filled

namespace Group

/-- A folder with a chain of folders in it. -/
def treeFrom (files : List FileUsages) : Text → List Text → Tree
  | name, [] => .folder name (files.map .file)
  | name, next :: rest => .folder name [treeFrom files next rest]

/-- **The group as a tree.** -/
def tree (g : Group) : Tree := treeFrom g.files g.outer g.inner

/-- **The addresses of the calls in a group**: all its folders, the file, and the line. -/
def addresses (separator : Text) (g : Group) : List Location :=
  g.files.flatMap fun f => f.lines.map (siteIn separator (g.outer :: (g.inner ++ [f.name])))

theorem straight_treeFrom {files : List FileUsages} (hne : files ≠ [])
    (hfilled : ∀ f ∈ files, f.Filled) : ∀ (name : Text) (inner : List Text),
    (treeFrom files name inner).Straight ∧ (treeFrom files name inner).isFile = false
  | name, [] => by
      obtain ⟨f, more, rfl⟩ := List.exists_cons_of_ne_nil hne
      refine ⟨⟨(hfilled f List.mem_cons_self).opens, ?_⟩, rfl⟩
      change ∀ t ∈ more.map Tree.file, t.isFile = true
      intro t ht
      obtain ⟨_, -, rfl⟩ := List.mem_map.mp ht
      rfl
  | name, next :: rest => by
      obtain ⟨hstraight, hfolder⟩ := straight_treeFrom hne hfilled next rest
      exact ⟨⟨hstraight, by rw [hfolder]; rfl⟩, rfl⟩

theorem readable (groups : List Group) : Readable (groups.map tree) := by
  induction groups with
  | nil => trivial
  | cons g groups ih =>
    obtain ⟨hstraight, hfolder⟩ := straight_treeFrom g.files_ne_nil g.filled g.outer g.inner
    refine ⟨hstraight, ?_⟩
    rw [if_neg (by simp [tree, hfolder])]
    exact ih

theorem addressesOf_files (separator : Text) (files : List FileUsages) (up : List Text) :
    addressesOf separator (files.map .file) up
      = files.flatMap fun f => f.lines.map (siteIn separator (up ++ [f.name])) := by
  induction files with
  | nil => rw [List.map_nil, addressesOf, List.flatMap_nil]
  | cons f files ih => rw [List.map_cons, addressesOf, Tree.addresses, ih, List.flatMap_cons]

theorem addresses_treeFrom (separator : Text) (files : List FileUsages) :
    ∀ (name : Text) (inner up : List Text), (treeFrom files name inner).addresses separator up
      = files.flatMap fun f => f.lines.map (siteIn separator (up ++ name :: (inner ++ [f.name])))
  | name, [], up => by
      rw [treeFrom, Tree.addresses, addressesOf_files]
      simp
  | name, next :: rest, up => by
      rw [treeFrom, Tree.addresses, addressesOf, addressesOf, addresses_treeFrom]
      simp

theorem addressesOf_groups (separator : Text) (groups : List Group) :
    addressesOf separator (groups.map tree) [] = groups.flatMap (addresses separator) := by
  induction groups with
  | nil => rw [List.map_nil, addressesOf, List.flatMap_nil]
  | cons g groups ih =>
    rw [List.map_cons, addressesOf, ih, List.flatMap_cons, tree, addresses_treeFrom]
    rfl

end Group

/-! ## Margins -/

theorem FileUsages.le_of_mem_inner {f : FileUsages} {margin : Int} {row : Row}
    (h : row ∈ f.inner margin) : margin ≤ row.1 := by
  simp only [inner, callRows, FunctionUsages.rows, List.mem_append, List.mem_flatMap,
    List.mem_cons, List.mem_map] at h
  rcases h with ⟨g, -, rfl | ⟨line, -, rfl⟩⟩ | ⟨line, -, rfl⟩
  · exact Int.le_add_of_nonneg_right (by decide)
  · change margin ≤ margin + 1 + 1
    omega
  · exact Int.le_add_of_nonneg_right (by decide)

mutual

theorem Tree.le_of_mem_rows : ∀ {t : Tree} {margin : Int} {row : Row}, row ∈ t.rows margin →
    margin ≤ row.1
  | .file f, margin, row, h => by
      rw [Tree.rows] at h
      rcases List.mem_cons.mp h with rfl | h
      · exact Int.le_rfl
      · exact f.le_of_mem_inner h
  | .folder name inside, margin, row, h => by
      rw [Tree.rows] at h
      rcases List.mem_cons.mp h with rfl | h
      · exact Int.le_rfl
      · have := le_of_mem_rowsOf h
        omega

theorem le_of_mem_rowsOf : ∀ {ts : List Tree} {margin : Int} {row : Row}, row ∈ rowsOf ts margin →
    margin ≤ row.1
  | [], margin, row, h => by
      rw [rowsOf] at h
      cases h
  | t :: ts, margin, row, h => by
      rw [rowsOf] at h
      rcases List.mem_append.mp h with h | h
      · exact Tree.le_of_mem_rows h
      · exact le_of_mem_rowsOf h

end

/-! ## The round trip -/

/-- **A report of groups gives back its call sites.**  Draw any groups from one margin beyond the
threshold on, with any lines between that are dropped.  If no site is listed twice, reading the
report gives all sites, by path and then by line; otherwise it complains of one that is. -/
theorem parse_drawn_groups {separator text : Text} {layout : Layout} {margin : Int}
    {groups : List Group} {lines : List Text} (hunit : 1 ≤ layout.indentUnit)
    (hmargin : layout.marginThreshold < margin)
    (hdrawn : Drawn layout (rowsOf (groups.map Group.tree) margin) lines)
    (hlined : Text.Lined lines text) :
    ((groups.flatMap (Group.addresses separator)).Nodup →
        ∃ found, parse separator layout text = .ok found
          ∧ found.Perm (groups.flatMap (Group.addresses separator))
          ∧ found.Pairwise fun a b => a.path < b.path ∨ a.path = b.path ∧ a.line < b.line)
      ∧ (¬ (groups.flatMap (Group.addresses separator)).Nodup →
        ∃ site position, List.Duplicate site (groups.flatMap (Group.addresses separator))
          ∧ parse separator layout text = .error (.malformed (.duplicate site) position)) := by
  have hdeep : ∀ row ∈ rowsOf (groups.map Group.tree) margin, layout.marginThreshold < row.1 :=
    fun row hrow => Int.lt_of_lt_of_le hmargin (le_of_mem_rowsOf hrow)
  obtain ⟨nodes, houtline, hrows⟩ := exists_outline_of_drawn hunit hdeep hdrawn 1
  rw [← hlined.lines_eq] at houtline
  obtain ⟨mode, hread⟩ := Mode.readAll_readable separator (Mode.ready_seeking_nil margin)
    (Group.readable groups)
  rw [← hrows, Group.addressesOf_groups] at hread
  have hparse : parse separator layout text = (sites separator nodes).map Location.sort :=
    parse_eq_map houtline
  rcases sites_of_readAll hread with ⟨hnodup, hsites⟩ | ⟨site, position, hdup, hsites⟩
  · refine ⟨fun _ => ⟨_, ?_, List.mergeSort_perm .., Location.pairwise_lt_sort hnodup⟩,
      fun h => absurd hnodup h⟩
    rw [hparse, hsites]
    rfl
  · refine ⟨fun h => absurd hdup (List.nodup_iff_forall_not_duplicate.mp h site),
      fun _ => ⟨site, position, hdup, ?_⟩⟩
    rw [hparse, hsites]
    rfl

/-- Two groups whose files stand at different depths. -/
def unevenGroups : List Group :=
  [⟨"src".toList, [], [⟨"a.c".toList, [⟨"f".toList, [12, 7]⟩], [30]⟩], by simp,
      by simp [FileUsages.Filled]⟩,
    ⟨"lib".toList, ["sub".toList], [⟨"b.c".toList, [⟨"g".toList, [3]⟩], []⟩], by simp,
      by simp [FileUsages.Filled]⟩]

/-- The lines of a report on them, with a line of the frame and a blank one. -/
def unevenLines : List Text :=
  ["Found usages".toList,
    List.replicate 2 ' ' ++ headingBody "src".toList 3 "usages".toList,
    List.replicate 4 ' ' ++ headingBody "a.c".toList 3 "usages".toList,
    List.replicate 6 ' ' ++ headingBody "f".toList 2 "usages".toList,
    List.replicate 8 ' ' ++ callBody 12 "x();".toList,
    List.replicate 8 ' ' ++ callBody 7 "x();".toList,
    List.replicate 6 ' ' ++ callBody 30 "x();".toList,
    [],
    List.replicate 2 ' ' ++ headingBody "lib".toList 1 "usage".toList,
    List.replicate 4 ' ' ++ headingBody "sub".toList 1 "usage".toList,
    List.replicate 6 ' ' ++ headingBody "b.c".toList 1 "usage".toList,
    List.replicate 8 ' ' ++ headingBody "g".toList 1 "usage".toList,
    List.replicate 10 ' ' ++ callBody 3 "x();".toList]

/-- **Both groups are read, the deeper one first by its path.** -/
theorem parse_drawn_groups_uneven :
    Drawn ⟨2, 0⟩ (rowsOf (unevenGroups.map Group.tree) 1) unevenLines
      ∧ Text.Lined unevenLines (Text.unlines unevenLines)
      ∧ ∃ found, parse "/".toList ⟨2, 0⟩ (Text.unlines unevenLines) = .ok found
        ∧ found.Perm [⟨"src/a.c".toList, 12⟩, ⟨"src/a.c".toList, 7⟩, ⟨"src/a.c".toList, 30⟩,
          ⟨"lib/sub/b.c".toList, 3⟩]
        ∧ found.Pairwise fun a b => a.path < b.path ∨ a.path = b.path ∧ a.line < b.line := by
  have hdrawn : Drawn ⟨2, 0⟩ (rowsOf (unevenGroups.map Group.tree) 1) unevenLines := by
    refine .dropped (.inr (by decide)) ?_
    refine .row (.heading rfl (by decide) (.inr rfl)) ?_
    refine .row (.heading rfl (by decide) (.inr rfl)) ?_
    refine .row (.heading rfl (by decide) (.inr rfl)) ?_
    refine .row (.call rfl (by decide) (by decide)) ?_
    refine .row (.call rfl (by decide) (by decide)) ?_
    refine .row (.call rfl (by decide) (by decide)) ?_
    refine .dropped (.inl (List.forall_mem_nil _)) ?_
    refine .row (.heading rfl (by decide) (.inl rfl)) ?_
    refine .row (.heading rfl (by decide) (.inl rfl)) ?_
    refine .row (.heading rfl (by decide) (.inl rfl)) ?_
    refine .row (.heading rfl (by decide) (.inl rfl)) ?_
    exact .row (.call rfl (by decide) (by decide)) .nil
  have hlined : Text.Lined unevenLines (Text.unlines unevenLines) := by
    refine Text.lined_unlines fun line hline c hc => ?_
    have hall : (unevenLines.all fun line => line.all fun c => !Text.endsLine c) = true := by
      decide +kernel
    simpa using List.all_eq_true.mp (List.all_eq_true.mp hall line hline) c hc
  exact ⟨hdrawn, hlined,
    (parse_drawn_groups (by decide) (by decide) hdrawn hlined).1 (by decide +kernel)⟩

end CallEdits.Report
