import CallEdits.Disk
import CallEdits.Fault

/-!
# Failure — everything that can go wrong

Faults of reports and call sites are one kind of failure; the others come from files, from the
conversion between text and bytes or numbers, and from a configuration that was not checked.
-/

namespace CallEdits

/-- **Why an operation fails.** -/
inductive Failure
  /-- A fault of the report or of a call site. -/
  | fault (fault : Fault)
  /-- A file cannot be opened. -/
  | disk (trouble : Disk.Trouble)
  /-- Text and bytes do not match. -/
  | encoding (fault : Encoding.Fault)
  /-- A number cannot be read or written. -/
  | numeral (fault : Numeral.Fault)
  /-- A level of the report has no columns. -/
  | zeroIndent
  /-- A line is sought beyond the last break. -/
  | noSuchLine
  /-- No policy has this name. -/
  | unknownPolicy (name : Text)
  deriving DecidableEq

namespace Failure

/-- What is said about a failure. -/
def message : Failure → Text
  | .fault f => f.message
  | .disk trouble => trouble.message
  | .encoding f => f.message
  | .numeral f => f.message
  | .zeroIndent => "integer division or modulo by zero".toList
  | .noSuchLine => "substring not found".toList
  | .unknownPolicy name => "unknown policy: ".toList ++ name

/-- **A fault that arises.**  It is stated in words at once, and where a number of them has too many
digits, it is the number that fails. -/
def ofFault (fault : Fault) : Failure :=
  if fault.isWritable then .fault fault else .numeral .tooLarge

theorem ofFault_eq_fault_iff {fault stated : Fault} :
    ofFault fault = .fault stated ↔ fault.isWritable = true ∧ fault = stated := by
  rw [ofFault]
  split <;> simp [*]

/-- A failure to read a report. -/
def ofReport : Report.Failure → Failure
  | .malformed flaw line => .ofFault (.report flaw (some line))
  | .numeral f => .numeral f
  | .zeroIndent => .zeroIndent

/-- Does the failure end a run in an orderly way, with a message?  Faults do, and files that cannot
be opened. -/
def isOrderly : Failure → Bool
  | .fault _ => true
  | .disk (.refused ..) => true
  | _ => false

end Failure

end CallEdits
