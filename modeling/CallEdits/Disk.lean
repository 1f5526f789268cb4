import CallEdits.Bytes.Encoding
import CallEdits.Path
import CallEdits.Table

/-!
# Disk — files, folders and the working directory

A `Disk` lists files and folders by the names that lead to them from the root, and holds the names
that lead to the working directory.  A path is followed name by name, so the first name that leads
nowhere decides the trouble.

Opening a file for writing empties it at once, before the new text has been turned into bytes.
-/

namespace CallEdits

/-- What stands under a name. -/
inductive Entry
  | file (content : Bytes)
  | folder
  deriving DecidableEq

/-- **Files and folders**, each under the names that lead to it from the root. -/
structure Disk where
  entries : List (List Text × Entry) := []
  /-- The working directory. -/
  here : List Text := []
  deriving DecidableEq

namespace Disk

/-! ## Entries -/

/-- What stands under these names; the root is a folder. -/
def get? (d : Disk) (names : List Text) : Option Entry :=
  if names.isEmpty then some .folder else d.entries.lookup names

/-- The disk with another entry under `names`. -/
def put (d : Disk) (names : List Text) (entry : Entry) : Disk :=
  { d with entries := Table.put names entry d.entries }

/-- **An entry is found where it was put**, and every other one where it was. -/
theorem get?_put (d : Disk) {names : List Text} (h : names ≠ []) (entry : Entry)
    (others : List Text) :
    (d.put names entry).get? others = if others = names then some entry else d.get? others := by
  by_cases ho : others = []
  · subst ho
    rw [if_neg h.symm]
    rfl
  · simp only [get?, put, List.isEmpty_iff, if_neg ho, Table.lookup_put, beq_iff_eq]

theorem put_put (d : Disk) (names : List Text) (old new : Entry) :
    (d.put names old).put names new = d.put names new := by
  rw [put, put, put, Table.put_put]

/-! ## Troubles -/

/-- Why a path cannot be opened. -/
inductive Cause
  | missing
  | notFolder
  | isFolder
  | nameTooLong
  deriving DecidableEq

/-- The number and the words of a cause. -/
def Cause.message : Cause → Text
  | missing => "[Errno 2] No such file or directory".toList
  | notFolder => "[Errno 20] Not a directory".toList
  | isFolder => "[Errno 21] Is a directory".toList
  | nameTooLong => "[Errno 36] File name too long".toList

/-- **What goes wrong with a file.** -/
inductive Trouble
  /-- The path cannot be opened. -/
  | refused (cause : Cause) (path : Path)
  /-- The path holds a null character. -/
  | nullPath
  /-- The path has no last part, so no file stands beside it. -/
  | nameless (path : Path)
  deriving DecidableEq

/-- What is said about a trouble; the path is shown as it was opened. -/
def Trouble.message : Trouble → Text
  | refused cause path => cause.message ++ ": ".toList ++ Text.quoted path.text
  | nullPath => "embedded null byte".toList
  | nameless path =>
    "PosixPath(".toList ++ Text.quoted path.text ++ ") has an empty name".toList

/-! ## Following a path -/

/-- The longest name, in bytes. -/
def nameLimit : Nat := 255

/-- The longest path, in bytes. -/
def pathLimit : Nat := 4095

/-- Is a name longer than a folder can hold? -/
def isTooLong (name : Text) : Bool := nameLimit < (Utf8.encode name).length

/-- The part that leads to the folder above. -/
def parent : Text := ['.', '.']

/-- **Follow names from a folder.**  Every name but the last has to lead to a folder; the folder
above the root is the root. -/
def follow (d : Disk) (folder : List Text) : List Text → Except Cause (List Text)
  | [] => .ok folder
  | name :: rest =>
    match d.get? folder with
    | none => .error .missing
    | some (.file _) => .error .notFolder
    | some .folder =>
      if name = parent then follow d folder.dropLast rest
      else if isTooLong name then .error .nameTooLong
      else follow d (folder ++ [name]) rest

/-- Where a path starts. -/
def start (d : Disk) : Anchor → List Text
  | .here => d.here
  | _ => []

/-- The names that a path leads to. -/
def resolve (d : Disk) (p : Path) : Except Trouble (List Text) :=
  if p.text.contains '\x00' then .error .nullPath
  else if pathLimit < (Utf8.encode p.text).length then .error (.refused .nameTooLong p)
  else
    match d.follow (d.start p.anchor) p.parts with
    | .error cause => .error (.refused cause p)
    | .ok names => .ok names

/-! ## Opening files -/

/-- **The content of a file.** -/
def read (d : Disk) (p : Path) : Except Trouble Bytes :=
  match d.resolve p with
  | .error trouble => .error trouble
  | .ok names =>
    match d.get? names with
    | none => .error (.refused .missing p)
    | some .folder => .error (.refused .isFolder p)
    | some (.file content) => .ok content

/-- **Open a file for writing**: it becomes empty, and is made if it does not exist. -/
def openEmpty (d : Disk) (p : Path) : Except Trouble (List Text × Disk) :=
  match d.resolve p with
  | .error trouble => .error trouble
  | .ok names =>
    match d.get? names with
    | some .folder => .error (.refused .isFolder p)
    | _ => .ok (names, d.put names (.file []))

end Disk

end CallEdits
