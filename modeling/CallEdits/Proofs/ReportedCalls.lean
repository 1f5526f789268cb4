import CallEdits.Proofs.LocationOrder
import CallEdits.Proofs.OutlineNodes
import CallEdits.Proofs.ReadRows
import Mathlib

/-!
# Proofs/ReportedCalls — every call of a report is reported once

    outline   h  h  h  c  c  h  c  …  h  c         h a heading, c a call
                       │  │     │        │
    sites              s  s     s    …   s         by path, then by line, in the end

A report that is accepted gives one site for each call of its outline, with the line of that call.
The reader rebuilds and changes the path of a file as it goes, yet it takes all of it from headings
that it has passed: the names that it keeps are always some of those above, in their order
(`Mode.names_sublist_of_read`), and at a call there is at least one (`Mode.located_of_read`).  So no
path is made up.
-/

namespace CallEdits.Report

/-! ## The calls of an outline -/

/-- The line of a call. -/
def Item.line? : Item → Option Nat
  | .heading _ => none
  | .call line => some line

/-- The name of a heading. -/
def Item.name? : Item → Option Text
  | .heading name => some name
  | .call _ => none

/-- **The calls among some rows**, each with the names of the headings before it; those in `above`
come before all rows. -/
def callsBelow (above : List Text) : List Row → List (List Text × Nat)
  | [] => []
  | (_, .heading name) :: rows => callsBelow (above ++ [name]) rows
  | (_, .call line) :: rows => (above, line) :: callsBelow above rows

/-- **A site reports a call**: it has the line of the call, and its path is put together from one or
more headings before the call, in their order, none of them empty. -/
structure Reports (separator : Text) (call : List Text × Nat) (site : Location) : Prop where
  line_eq : site.line = call.2
  path_eq : ∃ names, names ≠ [] ∧ (∀ name ∈ names, name ≠ []) ∧ names.Sublist call.1
    ∧ site.path = Text.join separator names

variable {separator : Text} {above : List Text} {rows : List Row}

/-- The sites that report the calls among some rows have their lines. -/
theorem map_line_of_reports {found : List Location}
    (h : List.Forall₂ (Reports separator) (callsBelow above rows) found) :
    found.map Location.line = (rows.filterMap fun row => row.2.line?).map Int.ofNat := by
  fun_induction callsBelow above rows generalizing found with
  | case1 =>
    cases h
    rfl
  | case2 above margin name rows ih => simpa [Item.line?] using ih h
  | case3 above margin line rows ih =>
    obtain _ | ⟨hsite, hmore⟩ := h
    simp [Item.line?, hsite.line_eq, ih hmore]

theorem Item.Regular.name_ne {item : Item} (h : item.Regular) : ∀ name ∈ item.name?, name ≠ [] := by
  intro name hname
  cases item with
  | heading other =>
    obtain rfl := Option.some.inj hname
    exact h.1
  | call line => cases hname

/-! ## What the reader makes of them -/

namespace Mode

variable {mode mode' : Mode} {row : Row} {site? : Option Location} {found : List Location}

/-- **The names that the reader keeps are on headings that it has passed**, in their order. -/
theorem names_sublist_of_read (h : mode.read separator row = some (mode', site?))
    (hsub : mode.names.Sublist above) :
    mode'.names.Sublist (above ++ row.2.name?.toList) := by
  obtain ⟨margin, item⟩ := row
  match mode, item with
  | .seeking headings, .heading name =>
    obtain ⟨rfl, -⟩ : .seeking (headings ++ [name]) = mode' ∧ none = site? := by
      simpa [read] using h
    exact hsub.append_right [name]
  | .seeking headings, .call line =>
    rw [read] at h
    split at h
    · cases h
    obtain ⟨rfl, -⟩ := Prod.mk.inj (Option.some.inj h)
    exact ((List.dropLast_sublist headings).trans hsub).trans (List.sublist_append_left ..)
  | .inRun limit path, .call line =>
    rw [read] at h
    split at h
    · cases h
    obtain ⟨rfl, -⟩ := Prod.mk.inj (Option.some.inj h)
    exact hsub.trans (List.sublist_append_left ..)
  | .inRun limit path, .heading name =>
    rw [read] at h
    split at h
    · obtain ⟨rfl, -⟩ := Prod.mk.inj (Option.some.inj h)
      exact hsub.trans (List.sublist_append_left ..)
    split at h
    · -- Another file: its name takes the place of the last one, which came before it.
      obtain ⟨rfl, -⟩ := Prod.mk.inj (Option.some.inj h)
      exact ((List.dropLast_sublist path).trans hsub).append_right [name]
    · obtain ⟨rfl, -⟩ := Prod.mk.inj (Option.some.inj h)
      exact List.sublist_append_right ..

/-- **The sites of rows report their calls**, one each and in the same order, if no heading is
empty. -/
theorem reports_of_readAll (hmode : mode.Located) (hsub : mode.names.Sublist above)
    (habove : ∀ name ∈ above, name ≠ []) (hrows : ∀ row ∈ rows, ∀ name ∈ row.2.name?, name ≠ [])
    (h : mode.readAll separator rows = some (mode', found)) :
    List.Forall₂ (Reports separator) (callsBelow above rows) found := by
  induction rows generalizing mode above found with
  | nil =>
    obtain ⟨-, rfl⟩ : mode = mode' ∧ [] = found := by simpa [readAll] using h
    exact .nil
  | cons row rows ih =>
    obtain ⟨next, site?, more, hread, hrest, rfl⟩ := readAll_cons_eq_some_iff.mp h
    obtain ⟨hnext, -, hsite⟩ := located_of_read hmode hread
    have hnames := names_sublist_of_read hread hsub
    have hnonempty : ∀ name ∈ above ++ row.2.name?.toList, name ≠ [] := by
      intro name hname
      rcases List.mem_append.mp hname with hname | hname
      · exact habove name hname
      · exact hrows row List.mem_cons_self name (Option.mem_toList.mp hname)
    have hmore := ih hnext hnames hnonempty (fun r hr => hrows r (List.mem_cons_of_mem _ hr)) hrest
    -- A call gives one site and a heading none.
    have hlen := length_of_read hread
    obtain ⟨margin, item⟩ := row
    cases item with
    | heading name =>
      cases site? with
      | none => exact hmore
      | some site => simp [isCall] at hlen
    | call line =>
      cases site? with
      | none => simp [isCall] at hlen
      | some site =>
        rw [Item.name?, Option.toList_none, List.append_nil] at hnames hnonempty hmore
        obtain ⟨hne, line', hline, rfl⟩ := hsite site rfl
        obtain rfl := Item.call.inj hline
        exact .cons ⟨rfl, next.names, hne, fun name hname => hnonempty name (hnames.subset hname),
          hnames, rfl⟩ hmore

end Mode

/-- **Every call of a report is reported once, and nothing else is.**  The sites of a report that is
accepted come strictly by path and then by line.  There are as many as there are calls in the
outline; they have the lines of these calls; and they can be matched with the calls, each site with
one that it reports. -/
theorem parse_reports_each_call_once {layout : Layout} {text : Text} {found : List Location}
    (h : parse separator layout text = .ok found) :
    ∃ nodes listed, outline layout text = .ok nodes
      ∧ (found.Pairwise fun a b => a.path < b.path ∨ a.path = b.path ∧ a.line < b.line)
      ∧ found.length = nodes.countP (fun node => node.item.line?.isSome)
      ∧ (found.map Location.line).Perm ((nodes.filterMap fun node => node.item.line?).map Int.ofNat)
      ∧ listed.Perm found
      ∧ List.Forall₂ (Reports separator) (callsBelow [] (nodes.map Node.row)) listed := by
  obtain ⟨nodes, listed, hnodes, hsites, rfl⟩ := exists_outline_of_parse h
  obtain ⟨mode, hread⟩ := readAll_of_sites_eq_ok hsites
  have hnodup : listed.Nodup := by
    rcases sites_of_readAll hread with ⟨hnodup, -⟩ | ⟨_, _, -, hrefused⟩
    · exact hnodup
    · cases hsites.symm.trans hrefused
  have hnonempty : ∀ row ∈ nodes.map Node.row, ∀ name ∈ row.2.name?, name ≠ [] := by
    intro row hrow
    obtain ⟨node, hnode, rfl⟩ := List.mem_map.mp hrow
    exact (regular_of_mem_outline hnodes hnode).name_ne
  have hlocated : (Mode.seeking []).Located := trivial
  have hreports := Mode.reports_of_readAll hlocated .slnil (fun _ hname => nomatch hname)
    hnonempty hread
  have hlines : listed.map Location.line
      = (nodes.filterMap fun node => node.item.line?).map Int.ofNat := by
    rw [map_line_of_reports hreports, List.filterMap_map]
    rfl
  have hperm : listed.Perm (Location.sort listed) := (List.mergeSort_perm ..).symm
  refine ⟨nodes, listed, hnodes, Location.pairwise_lt_sort hnodup, ?_, ?_, hperm, hreports⟩
  · rw [← hperm.length_eq, ← List.length_filterMap_eq_countP, ← List.length_map Int.ofNat, ← hlines,
      List.length_map]
  · rw [← hlines]
    exact hperm.symm.map Location.line

/-- A report of two files: a call outside any function follows the calls of one, and the number of
its line comes again in the other file. -/
def twoFiles : Text :=
  " d  (3 usages found)\n  a.c  (2 usages found)\n   f  (1 usage found)\n    12 x\n   7 y\n".toList
    ++ "  b.c  (1 usage found)\n   g  (1 usage found)\n    7 z\n".toList

/-- **Three calls, three sites**; the heading of the second file is no part of the first path. -/
theorem parse_reports_each_call_once_two_files :
    parse ['/'] ⟨1, 0⟩ twoFiles
        = .ok [⟨"d/a.c".toList, 7⟩, ⟨"d/a.c".toList, 12⟩, ⟨"d/b.c".toList, 7⟩]
      ∧ ∃ listed : List Location,
        listed.Perm [⟨"d/a.c".toList, 7⟩, ⟨"d/a.c".toList, 12⟩, ⟨"d/b.c".toList, 7⟩]
        ∧ List.Forall₂ (Reports ['/'])
          [(["d".toList, "a.c".toList, "f".toList], 12),
            (["d".toList, "a.c".toList, "f".toList], 7),
            (["d".toList, "a.c".toList, "f".toList, "b.c".toList, "g".toList], 7)] listed := by
  have hnodes : outline ⟨1, 0⟩ twoFiles
      = .ok [⟨1, 1, .heading "d".toList⟩, ⟨2, 2, .heading "a.c".toList⟩,
        ⟨3, 3, .heading "f".toList⟩, ⟨4, 4, .call 12⟩, ⟨3, 5, .call 7⟩,
        ⟨2, 6, .heading "b.c".toList⟩, ⟨3, 7, .heading "g".toList⟩, ⟨4, 8, .call 7⟩] := by
    decide +kernel
  have hparse : parse ['/'] ⟨1, 0⟩ twoFiles
      = .ok [⟨"d/a.c".toList, 7⟩, ⟨"d/a.c".toList, 12⟩, ⟨"d/b.c".toList, 7⟩] := by
    rw [parse_eq_map hnodes]
    cbv
  obtain ⟨nodes, listed, hsame, -, -, -, hperm, hreports⟩ := parse_reports_each_call_once hparse
  obtain rfl := Except.ok.inj (hnodes.symm.trans hsame)
  exact ⟨hparse, listed, hperm, hreports⟩

end CallEdits.Report
