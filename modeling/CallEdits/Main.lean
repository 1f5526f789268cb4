import CallEdits.Command.Files

/-!
# Main — the command on a real disk

The files that the command looks at are copied into a `Disk`, the command is run on it, and what it
has changed is written back.
-/

namespace CallEdits

/-- The words shown with `--help` and after a refusal. -/
def usage : String :=
  "usage: call-edits [-h] [--config CONFIG] [--report REPORT] [--function FUNCTION]\n" ++
  "                  [--root ROOT] [--policy POLICY] [--separator SEPARATOR]\n" ++
  "                  [--dry-run] [--backup] [--list] [-v]\n"

/-- Copy what stands under some names, unless it is known already. -/
def copyEntry (d : Disk) (names : List Text) : IO Disk := do
  if (d.get? names).isSome || names.any (·.contains '\x00') then return d
  let place := (← IO.currentDir) / String.ofList ('/' :: Text.join ['/'] names)
  if ← place.isDir then return d.put names .folder
  if ← place.pathExists then
    return d.put names (.file (← IO.FS.readBinFile place).toList)
  return d

/-- Copy everything on the way of a path. -/
def copyPath (d : Disk) (p : Path) : IO Disk := do
  let mut names := d.start p.anchor
  let mut d := d
  for name in p.parts do
    names := if name = Disk.parent then names.dropLast else names ++ [name]
    d ← copyEntry d names
  return d

/-- A disk that holds what the command looks at. -/
def snapshot (words : List Text) : IO Disk := do
  let here := Path.partsOf (← IO.currentDir).toString.toList
  let mut d : Disk := { here }
  d ← copyPath d ⟨.root, here⟩
  for _ in [0, 1, 2] do
    for p in Command.wanted words d do
      d ← copyPath d p
  return d

/-- Write what the command has changed. -/
def writeBack (old new : Disk) : IO Unit := do
  for (names, entry) in Command.written old new do
    match entry with
    | .file content =>
      IO.FS.writeBinFile (String.ofList ('/' :: Text.join ['/'] names)) ⟨content.toArray⟩
    | .folder => pure ()

/-- Say how the command ended. -/
def finish : Command.Ending → IO UInt32
  | .exit code => return code.toUInt32
  | .help => do
    IO.print usage
    return 0
  | .refused refusal => do
    IO.eprint usage
    IO.eprintln ("call-edits: error: " ++ String.ofList refusal.message)
    return 2
  | .failed failure => do
    IO.eprintln ("call-edits: " ++ String.ofList failure.message)
    return 1

end CallEdits

open CallEdits in
/-- Run the command on the words given, and exit as it says. -/
def main (args : List String) : IO UInt32 := do
  let words := args.map String.toList
  let disk ← snapshot words
  let outcome := Command.run words disk
  writeBack disk outcome.disk
  for event in outcome.log do
    IO.eprintln (String.ofList event.text)
  IO.print (String.ofList outcome.output)
  finish outcome.ending
