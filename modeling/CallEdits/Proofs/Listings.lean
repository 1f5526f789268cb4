import CallEdits.Command.Basic
import CallEdits.Proofs.OutlineNodes
import CallEdits.Proofs.PlainPaths
import CallEdits.Proofs.ReportLines

/-!
# Proofs/Listings — what is listed reads back

    report ──parse──▸ sites ──listing──▸ text ──splitOn──▸ pieces ──Location.parse──▸ sites

A location is written `path:line`, and the last colon parts the two whatever stands in the path
(`Location.parse_render`).  It takes a path that is not empty and a number that may be written.  The
sites of a report are such locations: their paths are made of headings, and their numbers were read
(`Listable`).  No line ends in a heading, so the lines of a listing are the locations, unless the
separator puts a line feed between the names.
-/

namespace CallEdits

/-! ## Joined texts and lines -/

namespace Text

theorem mem_of_mem_join {separator : Text} {c : Char} : ∀ {pieces : List Text},
    c ∈ join separator pieces → c ∈ separator ∨ ∃ t ∈ pieces, c ∈ t
  | [], h => nomatch h
  | [t], h => .inr ⟨t, List.mem_cons_self, by rwa [join_singleton] at h⟩
  | t :: u :: us, h => by
      rw [join_cons_cons, List.mem_append, List.mem_append] at h
      rcases h with h | h | h
      · exact .inr ⟨t, List.mem_cons_self, h⟩
      · exact .inl h
      · exact (mem_of_mem_join h).imp_right fun ⟨v, hv, hc⟩ => ⟨v, List.mem_cons_of_mem _ hv, hc⟩

/-- **Lines without a line feed are found between the line feeds**, with nothing after the last. -/
theorem splitOn_unlines {ls : List Text} (h : ∀ line ∈ ls, '\n' ∉ line) :
    splitOn '\n' (unlines ls) = ls ++ [[]] := by
  have hjoin : unlines ls = ['\n'].intercalate (ls ++ [[]]) := by
    induction ls with
    | nil => rfl
    | cons line ls ih =>
      obtain ⟨next, rest, hnext⟩ : ∃ next rest, ls ++ [[]] = next :: rest :=
        List.exists_cons_of_ne_nil (by simp)
      rw [List.cons_append, hnext, List.intercalate_cons_cons, ← hnext,
        ← ih fun other hother => h other (List.mem_cons_of_mem _ hother)]
      rfl
  rw [splitOn_eq, hjoin]
  refine List.splitOn_intercalate '\n' (fun line hline => ?_) (by simp)
  rcases List.mem_append.mp hline with hline | hline
  · exact h line hline
  · simp [List.mem_singleton.mp hline]

end Text

/-! ## One location -/

namespace Location

theorem cutAtLastColon_append (path : Text) {line : Text} (h : ':' ∉ line) :
    cutAtLastColon (path ++ ':' :: line) = some (path, line) := by
  have hreverse : (path ++ ':' :: line).reverse = line.reverse ++ ':' :: path.reverse := by simp
  have htake : (line.reverse ++ ':' :: path.reverse).takeWhile (· ≠ ':') = line.reverse := by
    refine Text.takeWhile_append_cons (fun c hc => ?_) (by simp) _
    have hne : c ≠ ':' := fun hcolon => h (hcolon ▸ List.mem_reverse.mp hc)
    simpa using hne
  simp only [cutAtLastColon, hreverse, htake, List.drop_left, List.reverse_reverse]

/-- **A location that is written is read back**, whatever characters stand in its path. -/
theorem parse_render {l : Location} (hpath : l.path ≠ []) (hline : 0 ≤ l.line)
    (hfits : Numeral.fits l.line = true) : parse l.render = .ok l := by
  obtain ⟨path, line⟩ := l
  obtain ⟨n, rfl⟩ := Int.eq_ofNat_of_zero_le hline
  have hcolon : ':' ∉ Numeral.ofNat n := fun hc =>
    absurd (Numeral.isDigit_of_mem_ofNat hc) (by decide)
  have hdigits : (Numeral.ofNat n).all Text.isDigitLike = true := by
    refine List.all_eq_true.mpr fun c hc => ?_
    rw [Text.isDigitLike, Numeral.isDecimal_of_mem_ofNat hc, Bool.true_or]
  have hread : Numeral.read (Numeral.ofNat n) = .ok n :=
    Numeral.read_ofNat (by simpa [Numeral.fits] using hfits)
  have hcut : cutAtLastColon (render ⟨path, n⟩) = some (path, Numeral.ofNat n) :=
    cutAtLastColon_append path hcolon
  simp [parse, hcut, hdigits, hread, hpath, Numeral.ofNat_ne_nil]

/-- **A location that can stand on a line of a listing.** -/
structure Listable (l : Location) : Prop where
  path : l.path ≠ []
  line : 0 ≤ l.line
  fits : Numeral.fits l.line = true
  oneLine : '\n' ∉ l.path

/-- No line feed stands in what is written on the line. -/
theorem Listable.not_mem_render {l : Location} (h : l.Listable) : '\n' ∉ l.render := by
  obtain ⟨path, line⟩ := l
  obtain ⟨n, rfl⟩ := Int.eq_ofNat_of_zero_le h.line
  intro hmem
  rcases List.mem_append.mp hmem with hpath | hline
  · exact h.oneLine hpath
  rcases List.mem_cons.mp hline with hcolon | hdigit
  · cases hcolon
  · exact absurd (Numeral.isDigit_of_mem_ofNat hdigit) (by decide)

end Location

/-! ## The sites of a report -/

namespace Report

variable {separator text : Text} {layout : Layout} {sites : List Location}

/-- **The site of a call in a file** can be listed if the parts of both are as in an outline. -/
theorem listable_siteIn {path : List Text} {line : Nat} (hseparator : '\n' ∉ separator)
    (hne : path ≠ []) (hpath : ∀ name ∈ path, (Item.heading name).Regular)
    (hline : (Item.call line).Regular) : (siteIn separator path line).Listable where
  path hnil := by
    obtain ⟨name, hname⟩ := List.exists_mem_of_ne_nil _ hne
    have hinfix : name <:+: [] := hnil ▸ Text.infix_join hname
    exact (hpath name hname).1 (List.infix_nil.mp hinfix)
  line := Int.natCast_nonneg line
  fits := decide_eq_true hline
  oneLine hmem := by
    rcases Text.mem_of_mem_join hmem with hmem | ⟨name, hname, hmem⟩
    · exact hseparator hmem
    · exact absurd ((hpath name hname).2 _ hmem) (by decide)

/-- **Every site of a report can be listed**, if the separator has no line feed. -/
theorem listable_of_mem_parse (hseparator : '\n' ∉ separator)
    (h : parse separator layout text = .ok sites) {site : Location} (hsite : site ∈ sites) :
    site.Listable := by
  obtain ⟨nodes, listed, hnodes, hlisted, rfl⟩ := exists_outline_of_parse h
  obtain ⟨mode, hread⟩ := readAll_of_sites_eq_ok hlisted
  have hitem {margin : Int} {item : Item} (hrow : (margin, item) ∈ nodes.map Node.row) :
      item.Regular := by
    obtain ⟨node, hnode, hrow⟩ := List.mem_map.mp hrow
    obtain rfl : node.item = item := congrArg Prod.snd hrow
    exact regular_of_mem_outline hnodes hnode
  have hstart : (Mode.seeking []).Located := trivial
  obtain ⟨path, line, hne, rfl, ⟨margin, hcall⟩, hpath⟩ :=
    Mode.exists_path_of_mem_readAll hstart hread (List.mem_mergeSort.mp hsite)
  refine listable_siteIn hseparator hne (fun name hname => ?_) (hitem hcall)
  rcases hpath name hname with hname | ⟨margin, hrow⟩
  · cases hname
  · exact hitem hrow

end Report

/-! ## Listings -/

namespace Command

/-- **A text reads back as these locations**: cut at its line feeds, the pieces but the last, which
is empty, are read as locations one by one. -/
def ReadsBack (output : Text) (sites : List Location) : Prop :=
  ∃ pieces, output.splitOn '\n' = pieces ++ [[]] ∧ pieces.map Location.parse = sites.map .ok

theorem readsBack_listing {sites : List Location} (h : ∀ site ∈ sites, site.Listable) :
    ReadsBack (listing sites) sites := by
  refine ⟨sites.map Location.render, ?_, ?_⟩
  · rw [← Text.splitOn_unlines, Text.unlines, List.flatMap_map]
    · rfl
    · intro line hline
      obtain ⟨site, hsite, rfl⟩ := List.mem_map.mp hline
      exact (h site hsite).not_mem_render
  · rw [List.map_map]
    exact List.map_congr_left fun site hsite =>
      Location.parse_render (h site hsite).path (h site hsite).line (h site hsite).fits

/-- **The output of a listing** is that of the sites of the report. -/
theorem run_list {words : List Text} {disk : Disk} {f : Flags} {s : Settings} {text : Text}
    {sites : List Location} (hflags : Flags.parse words = .ok f) (hlist : f.list = true)
    (hsettings : loadSettings disk f = .ok s)
    (htext : disk.readPlain (Path.ofText s.reportPath) s.encoding = .ok text)
    (hsites : Report.parse s.pathSeparator ⟨s.indentUnit, s.marginThreshold⟩ text = .ok sites) :
    (run words disk).ending = .exit 0 ∧ (run words disk).output = listing sites := by
  have hload : (loadReport disk s).1 = .ok sites := by
    simp only [loadReport, Report.load, htext, hsites]
  have hrun : run words disk = (listSites disk s).showing f.verbose := by
    simp only [run, hflags, runFlags, hsettings, hlist, if_true]
  rw [hrun, listSites]
  generalize loadReport disk s = loaded at hload
  obtain ⟨result, log⟩ := loaded
  obtain rfl : result = .ok sites := hload
  exact ⟨rfl, rfl⟩

/-- **What is listed reads back.**  The sites of a report, listed, read back as they are, if the
separator has no line feed; so does what the command prints when it is asked for a list; and so does
any location whose path is not empty and whose number may be written. -/
theorem listing_reads_back :
    (∀ (separator : Text) (layout : Report.Layout) (text : Text) (sites : List Location),
      '\n' ∉ separator → Report.parse separator layout text = .ok sites →
      ReadsBack (listing sites) sites)
    ∧ (∀ (words : List Text) (disk : Disk) (f : Flags) (s : Settings) (text : Text)
      (sites : List Location), Flags.parse words = .ok f → f.list = true →
      loadSettings disk f = .ok s →
      disk.readPlain (Path.ofText s.reportPath) s.encoding = .ok text →
      Report.parse s.pathSeparator ⟨s.indentUnit, s.marginThreshold⟩ text = .ok sites →
      '\n' ∉ s.pathSeparator →
      (run words disk).ending = .exit 0 ∧ ReadsBack (run words disk).output sites)
    ∧ ∀ l : Location, l.path ≠ [] → 0 ≤ l.line → Numeral.fits l.line = true →
      Location.parse l.render = .ok l := by
  have hlisted {separator text : Text} {layout : Report.Layout} {sites : List Location}
      (hseparator : '\n' ∉ separator) (h : Report.parse separator layout text = .ok sites) :
      ReadsBack (listing sites) sites :=
    readsBack_listing fun site => Report.listable_of_mem_parse hseparator h
  refine ⟨fun _ _ _ _ => hlisted, ?_, fun _ => Location.parse_render⟩
  intro words disk f s text sites hflags hlist hsettings htext hsites hseparator
  obtain ⟨hending, houtput⟩ := run_list hflags hlist hsettings htext hsites
  exact ⟨hending, houtput ▸ hlisted hseparator hsites⟩

/-- A report of calls in a file whose name looks like a location, numbered with a zero in front. -/
def colonReport : Text :=
  ["            src  (2 usages found)",
    "                x:3  (2 usages found)",
    "                    f  (2 usages found)",
    "                        012 f(a);",
    "                        7 f(b);"].flatMap fun line => line.toList ++ ['\n']

/-- A disk with that report. -/
def colonDisk : Disk := { entries := [(["r".toList], .file (Utf8.encode colonReport))] }

/-- **A path that looks like a location is listed and read back.** -/
theorem listing_reads_back_colon :
    (run ["--list".toList, "--report=r".toList] colonDisk).output
        = "src/x:3:7\nsrc/x:3:12\n".toList
      ∧ ReadsBack (run ["--list".toList, "--report=r".toList] colonDisk).output
          [⟨"src/x:3".toList, 7⟩, ⟨"src/x:3".toList, 12⟩] := by
  let f : Flags := { report := some (.text "r".toList), list := true }
  let s : Settings := { reportPath := "r".toList }
  have hflags : Flags.parse ["--list".toList, "--report=r".toList] = .ok f := by decide +kernel
  have hsettings : loadSettings colonDisk f = .ok s := by decide +kernel
  have htext : colonDisk.readPlain (Path.ofText s.reportPath) s.encoding = .ok colonReport := by
    decide +kernel
  have hnodes : Report.outline ⟨s.indentUnit, s.marginThreshold⟩ colonReport
      = .ok [⟨3, 1, .heading "src".toList⟩, ⟨4, 2, .heading "x:3".toList⟩,
        ⟨5, 3, .heading "f".toList⟩, ⟨6, 4, .call 12⟩, ⟨6, 5, .call 7⟩] := by decide +kernel
  have hsites : Report.parse s.pathSeparator ⟨s.indentUnit, s.marginThreshold⟩ colonReport
      = .ok [⟨"src/x:3".toList, 7⟩, ⟨"src/x:3".toList, 12⟩] := by
    rw [Report.parse_eq_map hnodes]
    cbv
  refine ⟨(run_list hflags rfl hsettings htext hsites).2.trans (by decide +kernel), ?_⟩
  exact (listing_reads_back.2.1 _ _ _ _ _ _ hflags rfl hsettings htext hsites (by decide)).2

end Command

end CallEdits
