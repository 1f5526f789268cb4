import CallEdits.Report.Addresses
import Mathlib.Data.List.Duplicate

/-!
# Proofs/ReadRows — the reader of an outline, without its check

    sites nodes   =   readAll (rows of the nodes),  unless a site is listed twice

What the reader does with a node depends on its `Row`, the margin and the item; the position is only
named in complaints.  `Mode.readAll` is the reader on rows alone.  It has no memory but its mode, so
rows are read part by part (`readAll_append_eq_some_iff`), and every call gives one site, whose path
is made of headings above it (`exists_path_of_mem_readAll`).

The check for repeated sites comes on top: `step_cases` says all that a step can do, and
`sites_of_readAll` that the reader gives the sites of its rows unless one of them is repeated.
-/

namespace CallEdits.Report

/-! ## Rows -/

/-- **A line of an outline**, without its place in the report. -/
abbrev Row := Int × Item

/-- The row of a node. -/
def Node.row (node : Node) : Row := (node.margin, node.item)

/-- The site of a call in the file that `path` leads to. -/
def siteIn (separator : Text) (path : List Text) (line : Nat) : Location :=
  ⟨Text.join separator path, line⟩

/-- Does a row list a call? -/
def isCall : Row → Bool
  | (_, .heading _) => false
  | (_, .call _) => true

/-! ## The reader without its check -/

namespace Mode

/-- What a row does to the mode of the reader, and the site it gives; `none` if it is refused. -/
def read (separator : Text) : Mode → Row → Option (Mode × Option Location)
  | .seeking headings, (_, .heading name) => some (.seeking (headings ++ [name]), none)
  | .seeking headings, (margin, .call line) =>
    if headings.dropLast.isEmpty then none
    else some (.inRun margin headings.dropLast, siteIn separator headings.dropLast line)
  | .inRun margin path, (deeper, .call line) =>
    if margin < deeper then none
    else some (.inRun margin path, siteIn separator path line)
  | .inRun margin path, (above, .heading name) =>
    if above = margin - 1 then some (.inRun margin path, none)
    else if above = margin - 2 then some (.inRun margin (path.dropLast ++ [name]), none)
    else some (.seeking [name], none)

/-- What many rows do, and their sites in the order of the report, repeated ones included. -/
def readAll (separator : Text) : Mode → List Row → Option (Mode × List Location)
  | mode, [] => some (mode, [])
  | mode, row :: rows =>
    (mode.read separator row).bind fun (next, site?) =>
      (readAll separator next rows).map fun (last, more) => (last, site?.toList ++ more)

variable {separator : Text} {mode mode' : Mode} {row : Row} {rows : List Row}
  {site? : Option Location} {found more : List Location}

theorem readAll_cons_eq_some_iff :
    mode.readAll separator (row :: rows) = some (mode', found)
      ↔ ∃ next site? more, mode.read separator row = some (next, site?)
        ∧ next.readAll separator rows = some (mode', more) ∧ found = site?.toList ++ more := by
  simp only [readAll, Option.bind_eq_some_iff, Option.map_eq_some_iff, Prod.exists, Prod.mk.injEq]
  constructor
  · rintro ⟨next, site?, hread, last, more, hrest, rfl, rfl⟩
    exact ⟨next, site?, more, hread, hrest, rfl⟩
  · rintro ⟨next, site?, more, hread, hrest, rfl⟩
    exact ⟨next, site?, hread, mode', more, hrest, rfl, rfl⟩

theorem readAll_cons {next : Mode} (hread : mode.read separator row = some (next, site?))
    (hrest : next.readAll separator rows = some (mode', more)) :
    mode.readAll separator (row :: rows) = some (mode', site?.toList ++ more) :=
  readAll_cons_eq_some_iff.mpr ⟨next, site?, more, hread, hrest, rfl⟩

/-- **Rows are read one part after the other.** -/
theorem readAll_append_eq_some_iff {a b : List Row} :
    mode.readAll separator (a ++ b) = some (mode', found)
      ↔ ∃ next first second, mode.readAll separator a = some (next, first)
        ∧ next.readAll separator b = some (mode', second) ∧ found = first ++ second := by
  induction a generalizing mode found with
  | nil => simp [readAll]
  | cons row a ih =>
    rw [List.cons_append, readAll_cons_eq_some_iff]
    constructor
    · rintro ⟨next, site?, _, hread, hrest, rfl⟩
      obtain ⟨last, first, second, ha, hb, rfl⟩ := ih.mp hrest
      exact ⟨last, _, second, readAll_cons hread ha, hb, (List.append_assoc ..).symm⟩
    · rintro ⟨last, _, second, hra, hb, rfl⟩
      obtain ⟨next, site?, first, hread, ha, rfl⟩ := readAll_cons_eq_some_iff.mp hra
      exact ⟨next, site?, first ++ second, hread, ih.mpr ⟨last, first, second, ha, hb, rfl⟩,
        List.append_assoc ..⟩

theorem readAll_append {a b : List Row} {next : Mode}
    (ha : mode.readAll separator a = some (next, found))
    (hb : next.readAll separator b = some (mode', more)) :
    mode.readAll separator (a ++ b) = some (mode', found ++ more) :=
  readAll_append_eq_some_iff.mpr ⟨next, found, more, ha, hb, rfl⟩

/-- A call gives one site and a heading none. -/
theorem length_of_read (h : mode.read separator row = some (mode', site?)) :
    site?.toList.length = if isCall row then 1 else 0 := by
  obtain ⟨margin, item⟩ := row
  cases mode <;> cases item <;> simp only [read] at h <;> grind [isCall]

/-- **Every call gives one site.** -/
theorem length_of_readAll (h : mode.readAll separator rows = some (mode', found)) :
    found.length = rows.countP isCall := by
  induction rows generalizing mode found with
  | nil => simp_all [readAll]
  | cons row rows ih =>
    obtain ⟨next, site?, more, hread, hrest, rfl⟩ := readAll_cons_eq_some_iff.mp h
    rw [List.length_append, length_of_read hread, ih hrest, List.countP_cons, Nat.add_comm]

/-- The names that the reader has kept. -/
def names : Mode → List Text
  | .seeking headings => headings
  | .inRun _ path => path

/-- **A run is in some file**: its path has a name. -/
def Located : Mode → Prop
  | .seeking _ => True
  | .inRun _ path => path ≠ []

/-- **Where the names and the site of a row come from**: a name is kept from before or is that of
the row, and a site is that of a call in the file of the run it begins or goes on with. -/
theorem located_of_read (hmode : mode.Located)
    (h : mode.read separator row = some (mode', site?)) :
    mode'.Located
      ∧ (∀ name ∈ mode'.names, name ∈ mode.names ∨ row.2 = .heading name)
      ∧ ∀ site ∈ site?, mode'.names ≠ []
        ∧ ∃ line, row.2 = .call line ∧ site = siteIn separator mode'.names line := by
  obtain ⟨margin, item⟩ := row
  have hown {name other : Text} (h : other ∈ [name]) : Item.heading name = .heading other :=
    congrArg Item.heading (List.mem_singleton.mp h).symm
  match mode, item with
  | .seeking headings, .heading name =>
    obtain ⟨rfl, rfl⟩ : .seeking (headings ++ [name]) = mode' ∧ none = site? := by
      simpa [read] using h
    exact ⟨trivial, fun other hother => (List.mem_append.mp hother).imp_right hown,
      fun _ hsite => nomatch hsite⟩
  | .seeking headings, .call line =>
    rw [read] at h
    split at h
    · cases h
    rename_i hfile
    obtain ⟨rfl, rfl⟩ : .inRun margin headings.dropLast = mode'
        ∧ some (siteIn separator headings.dropLast line) = site? := by simpa using h
    have hfile : headings.dropLast ≠ [] := by simpa using hfile
    exact ⟨hfile, fun name hname => .inl (List.dropLast_subset _ hname),
      fun site hsite => ⟨hfile, line, rfl, (Option.some.inj hsite).symm⟩⟩
  | .inRun limit path, .call line =>
    rw [read] at h
    split at h
    · cases h
    obtain ⟨rfl, rfl⟩ : .inRun limit path = mode'
        ∧ some (siteIn separator path line) = site? := by simpa using h
    exact ⟨hmode, fun name hname => .inl hname,
      fun site hsite => ⟨hmode, line, rfl, (Option.some.inj hsite).symm⟩⟩
  | .inRun limit path, .heading name =>
    rw [read] at h
    split at h
    · obtain ⟨rfl, rfl⟩ : .inRun limit path = mode' ∧ none = site? := by simpa using h
      exact ⟨hmode, fun name hname => .inl hname, fun _ hsite => nomatch hsite⟩
    split at h
    · obtain ⟨rfl, rfl⟩ : .inRun limit (path.dropLast ++ [name]) = mode' ∧ none = site? := by
        simpa using h
      exact ⟨List.append_ne_nil_of_right_ne_nil _ (List.cons_ne_nil _ _), fun other hother =>
        (List.mem_append.mp hother).imp (fun h => List.dropLast_subset _ h) hown,
        fun _ hsite => nomatch hsite⟩
    · obtain ⟨rfl, rfl⟩ : .seeking [name] = mode' ∧ none = site? := by simpa using h
      exact ⟨trivial, fun other hother => .inr (hown hother), fun _ hsite => nomatch hsite⟩

/-- **Every site is that of a call, in a file whose path is made of headings.** -/
theorem exists_path_of_mem_readAll (hmode : mode.Located)
    (h : mode.readAll separator rows = some (mode', found)) {site : Location}
    (hsite : site ∈ found) :
    ∃ path line, path ≠ [] ∧ site = siteIn separator path line
      ∧ (∃ margin, (margin, .call line) ∈ rows)
      ∧ ∀ name ∈ path, name ∈ mode.names ∨ ∃ margin, (margin, .heading name) ∈ rows := by
  induction rows generalizing mode found with
  | nil =>
    obtain ⟨-, rfl⟩ : mode = mode' ∧ [] = found := by simpa [readAll] using h
    cases hsite
  | cons row rows ih =>
    obtain ⟨next, site?, more, hread, hrest, rfl⟩ := readAll_cons_eq_some_iff.mp h
    obtain ⟨hnext, hnames, hnew⟩ := located_of_read hmode hread
    have hrow {name : Text} (hname : name ∈ next.names) :
        name ∈ mode.names ∨ ∃ margin, (margin, .heading name) ∈ row :: rows := by
      rcases hnames name hname with hname | hitem
      · exact .inl hname
      · exact .inr ⟨row.1, hitem ▸ List.mem_cons_self⟩
    rcases List.mem_append.mp hsite with hsite | hsite
    · obtain ⟨hne, line, hcall, rfl⟩ := hnew site (Option.mem_toList.mp hsite)
      exact ⟨next.names, line, hne, rfl, ⟨row.1, hcall ▸ List.mem_cons_self⟩, fun _ => hrow⟩
    · obtain ⟨path, line, hne, rfl, ⟨margin, hcall⟩, hpath⟩ := ih hnext hrest hsite
      refine ⟨path, line, hne, rfl, ⟨margin, List.mem_cons_of_mem _ hcall⟩, fun name hname => ?_⟩
      rcases hpath name hname with hname | ⟨margin, hname⟩
      · exact hrow hname
      · exact .inr ⟨margin, List.mem_cons_of_mem _ hname⟩

end Mode

/-! ## The check for repeated sites -/

namespace Reader

variable {separator : Text} {r r' : Reader} {node : Node} {nodes : List Node} {mode : Mode}
  {found : List Location}

/-- **What a step can do**: refuse its row, pass a heading, or enter a site unless it was entered
before. -/
theorem step_cases (separator : Text) (r : Reader) (node : Node) :
    (∃ failure, r.mode.read separator node.row = none ∧ r.step separator node = .error failure)
      ∨ (∃ mode, r.mode.read separator node.row = some (mode, none)
        ∧ r.step separator node = .ok ⟨mode, r.sites⟩)
      ∨ ∃ mode site, r.mode.read separator node.row = some (mode, some site)
        ∧ r.step separator node
          = if site ∈ r.sites then .error (.malformed (.duplicate site) node.position)
            else .ok ⟨mode, site :: r.sites⟩ := by
  obtain ⟨current, sites⟩ := r
  obtain ⟨margin, position, item⟩ := node
  match current, item with
  | .seeking headings, .heading name => exact .inr (.inl ⟨_, rfl, rfl⟩)
  | .seeking headings, .call line =>
    by_cases hfile : headings.dropLast.isEmpty = true
    · exact .inl ⟨_, if_pos hfile, if_pos hfile⟩
    · exact .inr (.inr ⟨_, _, if_neg hfile, if_neg hfile⟩)
  | .inRun limit path, .call line =>
    by_cases hdeep : limit < margin
    · exact .inl ⟨_, if_pos hdeep, if_pos hdeep⟩
    · exact .inr (.inr ⟨_, _, if_neg hdeep, if_neg hdeep⟩)
  | .inRun limit path, .heading name =>
    by_cases hfunction : margin = limit - 1
    · exact .inr (.inl ⟨_, if_pos hfunction, if_pos hfunction⟩)
    · by_cases hfile : margin = limit - 2
      · exact .inr (.inl ⟨_, (if_neg hfunction).trans (if_pos hfile),
          (if_neg hfunction).trans (if_pos hfile)⟩)
      · exact .inr (.inl ⟨_, (if_neg hfunction).trans (if_neg hfile),
          (if_neg hfunction).trans (if_neg hfile)⟩)

/-- A step that fails complains of its own line. -/
theorem exists_flaw_of_step {failure : Failure} (h : r.step separator node = .error failure) :
    ∃ flaw, failure = .malformed flaw node.position := by
  have henter {margin : Int} {path : List Text} {line : Nat}
      (h : r.enter separator margin path node.position line = .error failure) :
      ∃ flaw, failure = .malformed flaw node.position := by
    simp only [enter] at h
    split at h
    · exact ⟨_, (Except.error.inj h).symm⟩
    · cases h
  rw [step] at h
  split at h
  · cases h
  · split at h
    · exact ⟨_, (Except.error.inj h).symm⟩
    · exact henter h
  · split at h
    · exact ⟨_, (Except.error.inj h).symm⟩
    · exact henter h
  · split at h
    · cases h
    · split at h <;> cases h

/-- **A run that fails complains of one of its lines.** -/
theorem exists_flaw_of_run {failure : Failure} (h : r.run separator nodes = .error failure) :
    ∃ node ∈ nodes, ∃ flaw, failure = .malformed flaw node.position := by
  induction nodes generalizing r with
  | nil => cases h
  | cons node nodes ih =>
    rw [run] at h
    split at h
    · rename_i hstep
      obtain rfl := Except.error.inj h
      exact ⟨node, List.mem_cons_self, exists_flaw_of_step hstep⟩
    · obtain ⟨other, hother, hflaw⟩ := ih h
      exact ⟨other, List.mem_cons_of_mem _ hother, hflaw⟩

/-- **A run that succeeds has read every row.** -/
theorem readAll_of_run_eq_ok (h : r.run separator nodes = .ok r') :
    ∃ found, r.mode.readAll separator (nodes.map Node.row) = some (r'.mode, found)
      ∧ r'.sites = found.reverse ++ r.sites := by
  induction nodes generalizing r with
  | nil =>
    obtain rfl : r = r' := by simpa [run] using h
    exact ⟨[], rfl, rfl⟩
  | cons node nodes ih =>
    rw [run] at h
    rcases step_cases separator r node with ⟨_, -, hstep⟩ | ⟨mode, hread, hstep⟩
      | ⟨mode, site, hread, hstep⟩
    · simp [hstep] at h
    · simp only [hstep] at h
      obtain ⟨more, hrest, hmore⟩ := ih h
      exact ⟨more, Mode.readAll_cons hread hrest, hmore⟩
    · by_cases hold : site ∈ r.sites
      · simp [hstep, hold] at h
      · simp only [hstep, if_neg hold] at h
        obtain ⟨more, hrest, hmore⟩ := ih h
        exact ⟨site :: more, Mode.readAll_cons hread hrest, by simp [hmore]⟩

/-- **What a run makes of rows that can be read**: it enters their sites if no site is met twice,
and complains of one that is otherwise. -/
theorem run_of_readAll (hsites : r.sites.Nodup)
    (h : r.mode.readAll separator (nodes.map Node.row) = some (mode, found)) :
    (found.reverse ++ r.sites).Nodup ∧ r.run separator nodes = .ok ⟨mode, found.reverse ++ r.sites⟩
      ∨ ∃ site position, List.Duplicate site (found.reverse ++ r.sites)
        ∧ r.run separator nodes = .error (.malformed (.duplicate site) position) := by
  induction nodes generalizing r found with
  | nil =>
    obtain ⟨rfl, rfl⟩ : r.mode = mode ∧ [] = found := by simpa [Mode.readAll] using h
    exact .inl ⟨hsites, rfl⟩
  | cons node nodes ih =>
    obtain ⟨next, site?, more, hread, hrest, rfl⟩ := Mode.readAll_cons_eq_some_iff.mp h
    rw [run]
    rcases step_cases separator r node with ⟨_, hread', -⟩ | ⟨mode', hread', hstep⟩
      | ⟨mode', site, hread', hstep⟩
    · simp [hread] at hread'
    · obtain ⟨rfl, rfl⟩ : next = mode' ∧ site? = none := by simpa [hread] using hread'
      simp only [hstep]
      exact ih (r := ⟨next, r.sites⟩) hsites hrest
    · obtain ⟨rfl, rfl⟩ : next = mode' ∧ site? = some site := by simpa [hread] using hread'
      have hflat : (site :: more).reverse ++ r.sites = more.reverse ++ site :: r.sites := by simp
      rw [Option.toList_some, List.singleton_append, hflat]
      by_cases hold : site ∈ r.sites
      · refine .inr ⟨site, node.position, ?_, by simp only [hstep, if_pos hold]⟩
        rw [List.duplicate_iff_two_le_count, List.count_append, List.count_cons_self]
        have := List.count_pos_iff.mpr hold
        omega
      · simp only [hstep, if_neg hold]
        exact ih (r := ⟨next, site :: r.sites⟩) (List.nodup_cons.mpr ⟨hold, hsites⟩) hrest

end Reader

/-- **The sites of an outline are those that its rows give, in order.** -/
theorem readAll_of_sites_eq_ok {separator : Text} {nodes : List Node} {found : List Location}
    (h : sites separator nodes = .ok found) :
    ∃ mode, (Mode.seeking []).readAll separator (nodes.map Node.row) = some (mode, found) := by
  rw [sites] at h
  split at h
  · cases h
  · rename_i r hrun
    obtain ⟨first, hread, hsites⟩ := Reader.readAll_of_run_eq_ok hrun
    obtain rfl : r.sites.reverse = found := by simpa using h
    exact ⟨r.mode, by simpa [hsites] using hread⟩

/-- **An outline whose rows can be read has its sites**, unless one of them is listed twice. -/
theorem sites_of_readAll {separator : Text} {nodes : List Node} {mode : Mode}
    {found : List Location}
    (h : (Mode.seeking []).readAll separator (nodes.map Node.row) = some (mode, found)) :
    found.Nodup ∧ sites separator nodes = .ok found
      ∨ ∃ site position, List.Duplicate site found
        ∧ sites separator nodes = .error (.malformed (.duplicate site) position) := by
  rcases Reader.run_of_readAll (r := {}) List.nodup_nil h with
    ⟨hnodup, hrun⟩ | ⟨site, n, hdup, hrun⟩
  · refine .inl ⟨by simpa using hnodup, ?_⟩
    rw [sites, hrun]
    simp
  · refine .inr ⟨site, n, ?_, by rw [sites, hrun]⟩
    rw [List.duplicate_iff_two_le_count] at hdup ⊢
    simpa using hdup

/-- A report with an outline has the sites of it, in order. -/
theorem parse_eq_map {separator text : Text} {layout : Layout} {nodes : List Node}
    (h : outline layout text = .ok nodes) :
    parse separator layout text = (sites separator nodes).map Location.sort := by
  simp only [parse, h]
  cases sites separator nodes <;> rfl

/-- **A report that is accepted** has an outline, and the sites of it in order. -/
theorem exists_outline_of_parse {separator text : Text} {layout : Layout} {found : List Location}
    (h : parse separator layout text = .ok found) :
    ∃ nodes listed, outline layout text = .ok nodes ∧ sites separator nodes = .ok listed
      ∧ found = Location.sort listed := by
  rw [parse] at h
  split at h
  · cases h
  rename_i nodes hnodes
  split at h
  · cases h
  rename_i listed hlisted
  exact ⟨nodes, listed, hnodes, hlisted, (Except.ok.inj h).symm⟩

end CallEdits.Report
