import CallEdits.Disk
import CallEdits.Failure
import CallEdits.Text.Lines

/-!
# Disk/TextFile — files that hold text

A text file is opened before the name of its encoding is looked up, so a missing file is complained
of before an unknown encoding, and writing under an unknown encoding still empties the file.
-/

namespace CallEdits.Disk

/-- The text of a file: it is opened before the name of the encoding is looked up. -/
def readText (d : Disk) (p : Path) (encoding : Text) : Except Failure Text :=
  if encoding.contains '\x00' then .error (.encoding .nullName)
  else
    match d.read p with
    | .error trouble => .error (.disk trouble)
    | .ok content =>
      match Encoding.ofName? encoding with
      | none => .error (.encoding (.unknown encoding))
      | some e =>
        match e.decode content with
        | .error f => .error (.encoding f)
        | .ok t => .ok t

/-- **Write a text file.**  A text that cannot be encoded leaves the file empty. -/
def writeText (d : Disk) (p : Path) (encoding : Text) (t : Text) : Except Failure Unit × Disk :=
  if encoding.contains '\x00' then (.error (.encoding .nullName), d)
  else
    match d.openEmpty p with
    | .error trouble => (.error (.disk trouble), d)
    | .ok (names, emptied) =>
      match Encoding.ofName? encoding with
      | none => (.error (.encoding (.unknown encoding)), emptied)
      | some e =>
        match e.encode t with
        | .error f => (.error (.encoding f), emptied)
        | .ok content => (.ok (), emptied.put names (.file content))

/-- The text of a file that is read as plain text, with one kind of break. -/
def readPlain (d : Disk) (p : Path) (encoding : Text) : Except Failure Text :=
  match d.readText p encoding with
  | .error failure => .error failure
  | .ok t => .ok t.unifyBreaks

end CallEdits.Disk
