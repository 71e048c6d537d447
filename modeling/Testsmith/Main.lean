import Testsmith.CommandLine.Run

/-!
# The program

Reads the files that its arguments lead to, runs the command line on them, and writes back what has
changed. All that it decides is in `CommandLine.run`.
-/

namespace Testsmith.Main

open CommandLine

def written (l : Location) : String := "/" ++ String.intercalate "/" l

def probe (l : Location) : IO (Option Node) := do
  try
    return some (.file (← IO.FS.readBinFile (written l)))
  catch
    | .inappropriateType .. => return some .directory
    | _ => return none

def load (locations : List Location) : IO FileTree :=
  locations.foldlM (fun t l => do
    match ← probe l with
    | some n => return if l = [] then t else t.set l n
    | none => return t) {}

def store (l : Location) : Node → IO Unit
  | .directory => IO.FS.createDirAll (written l)
  | .file content => do
    IO.FS.createDirAll (written l.dropLast)
    IO.FS.writeBinFile (written l) content

def save (before after : FileTree) : IO Unit :=
  after.entries.reverse.forM fun (l, n) => do
    if before.node? l ≠ some n then store l n

/-- The warning of an event, if it is one. -/
def warning? : Event → Option String
  | .ignored path cause => some s!"Warning: ignoring {path}: {cause.message}"
  | _ => none

/-- Runs the program in a working directory: the exit code. -/
def runIn (workingDirectory : Location) (args : List String) : IO UInt32 := do
  let locations :=
    match Arguments.read args with
    | .error _ => []
    | .ok a =>
      let current : Path := { anchor := .root, parts := workingDirectory }
      let root := (a.projectRoot.toOption.map Path.ofText).getD current
      (current :: filesOf a root).flatMap fun p =>
        FileTree.trail (FileTree.startOf workingDirectory p) p.parts
  let files ← load locations
  match run (service workingDirectory) args { files, workingDirectory, tool := () } with
  | .ok ending s =>
    save files s.files
    s.journal.filterMap warning? |>.forM IO.eprintln
    IO.print ending.output
    IO.eprint (ending.stopped.getD "")
    return ending.exitCode.toUInt32
  | .error failure s =>
    save files s.files
    IO.eprintln failure.message
    return 1

end Testsmith.Main

/-- Runs the program in the working directory of the system. -/
def main (args : List String) : IO UInt32 := do
  let current := Testsmith.Path.ofText (toString (← IO.currentDir))
  Testsmith.Main.runIn current.parts args
