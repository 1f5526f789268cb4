import CallEdits.Report.Addresses
import CallEdits.Session

/-!
# Report/File — the report as a file

The report is read as plain text, so its lines may end in any of the three usual ways.
-/

namespace CallEdits.Report

/-- **The call sites of a report file**, and what reading it leaves in the log, newest first. -/
def load (disk : Disk) (path encoding separator : Text) (layout : Layout) :
    Except CallEdits.Failure (List Location) × List Event :=
  let file := Path.ofText path
  let opened := [Event.reportLoad file]
  match disk.readPlain file encoding with
  | .error failure => (.error failure, opened)
  | .ok text =>
    match parse separator layout text with
    | .error failure => (.error (.ofReport failure), opened)
    | .ok sites => (.ok sites, .reportParsed sites.length (fileCount sites) :: opened)

end CallEdits.Report
