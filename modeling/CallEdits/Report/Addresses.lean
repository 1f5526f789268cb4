import CallEdits.Report.Outline

/-!
# Report/Addresses — the call sites of a report

Reading the outline goes back and forth between two modes.

    seeking headings ──call──▸ in a run of calls ──any other heading──▸ seeking headings

The headings before a run give the path of its file, the last of them being the function.  Inside
the run, a heading one level above the calls is another function of the same file, and a heading two
levels above is another file of the same directory.
-/

namespace CallEdits.Report

/-- **Where the reader stands.** -/
inductive Mode
  /-- Between runs, with the headings seen since the last one. -/
  | seeking (headings : List Text)
  /-- In a run whose first call has level `margin`, in the file that `path` leads to. -/
  | inRun (margin : Int) (path : List Text)
  deriving DecidableEq

/-- The reader: its mode and the sites met, newest first. -/
structure Reader where
  mode : Mode := .seeking []
  sites : List Location := []
  deriving DecidableEq

namespace Reader

/-- Enter the site of a call in the file that `path` leads to; no site may be listed twice. -/
def enter (r : Reader) (separator : Text) (margin : Int) (path : List Text) (position line : Nat) :
    Except Failure Reader :=
  let site : Location := ⟨Text.join separator path, line⟩
  if site ∈ r.sites then .error (.malformed (.duplicate site) position)
  else .ok ⟨.inRun margin path, site :: r.sites⟩

/-- **One step of the reader.** -/
def step (separator : Text) (r : Reader) (node : Node) : Except Failure Reader :=
  match r.mode, node.item with
  | .seeking headings, .heading name => .ok { r with mode := .seeking (headings ++ [name]) }
  | .seeking headings, .call line =>
    if headings.dropLast.isEmpty then .error (.malformed .noFile node.position)
    else r.enter separator node.margin headings.dropLast node.position line
  | .inRun margin path, .call line =>
    if margin < node.margin then
      .error (.malformed (.tooDeep node.margin margin) node.position)
    else r.enter separator margin path node.position line
  | .inRun margin path, .heading name =>
    if node.margin = margin - 1 then .ok r
    else if node.margin = margin - 2 then
      .ok { r with mode := .inRun margin (path.dropLast ++ [name]) }
    else .ok { r with mode := .seeking [name] }

/-- The reader after all nodes. -/
def run (separator : Text) : Reader → List Node → Except Failure Reader
  | r, [] => .ok r
  | r, node :: rest =>
    match r.step separator node with
    | .error failure => .error failure
    | .ok r => run separator r rest

end Reader

/-- The sites of an outline, in the order of the report. -/
def sites (separator : Text) (nodes : List Node) : Except Failure (List Location) :=
  match Reader.run separator {} nodes with
  | .error failure => .error failure
  | .ok r => .ok r.sites.reverse

/-- **The call sites of a report**, in the order in which a run handles them. -/
def parse (separator : Text) (layout : Layout) (text : Text) : Except Failure (List Location) :=
  match outline layout text with
  | .error failure => .error failure
  | .ok nodes =>
    match sites separator nodes with
    | .error failure => .error failure
    | .ok found => .ok (Location.sort found)

/-- The number of files among some sites. -/
def fileCount (found : List Location) : Nat := (found.map Location.path).eraseDups.length

end CallEdits.Report
