import Testsmith.BuildTool.Gradle
import Testsmith.FileTree.Access

/-!
# Absent programs

The runner of a system that has none of the programs it is asked to start. A command or a directory
with a null character is refused before the system is asked. A directory that cannot be entered is
reported before the program; after that a program is looked for, and one that is found cannot be
started, because no file is executable.
-/

namespace Testsmith.ProcessRunner

def holdsNull (s : String) : Bool := s.toList.contains '\x00'

/-- A path is written so that only a directory can be meant. -/
def meansDirectory (program : String) : Bool :=
  match program.toList.reverse with
  | '/' :: _ | '.' :: '/' :: _ => true
  | _ => false

/-- Why a program that is named by a path cannot be started from a directory. -/
def troubleOfPath (files : FileTree) (directory : Location) (program : String) : Trouble :=
  if FileTree.maxPathBytes < program.utf8ByteSize then .nameTooLong
  else match files.find directory (Path.ofText program) with
    | .ok (_, none) => .notFound
    | .ok (_, some (.file _)) =>
      if meansDirectory program then .notDirectory else .permissionDenied
    | .ok (_, some .directory) => .permissionDenied
    | .error trouble => trouble

/-- Why a program that is named by one word cannot be started. It is searched for in the directories of
programs, where only those themselves and the ones above them are found. -/
def troubleOfWord (program : String) : Trouble :=
  if program ∈ ["", ".", ".."] then .permissionDenied
  else if FileTree.maxNameBytes < program.utf8ByteSize then .nameTooLong
  else .notFound

/-- Why a program cannot be started from a directory. -/
def troubleOf (files : FileTree) (directory : Location) (program : String) : Trouble :=
  if program.toList.contains '/' then troubleOfPath files directory program
  else troubleOfWord program

/-- Why a process cannot be started in a system without programs. -/
def refusal (workingDirectory : Location) (files : FileTree) (i : Invocation) : Failure :=
  let program := i.command.headD ""
  if i.command.any holdsNull || i.javaHome.any holdsNull || holdsNull i.directory.text then
    .nullInPath
  else match files.find workingDirectory i.directory with
    | .ok (directory, some .directory) =>
      .system (troubleOf files directory program) program
    | .ok (_, some (.file _)) => .cannotEnter .notDirectory i.directory.text
    | .ok (_, none) => .cannotEnter .notFound i.directory.text
    | .error trouble => .cannotEnter trouble i.directory.text

def absent {σ : Type} (workingDirectory : Location) : ProcessRunner σ where
  start i state files := (.error (refusal workingDirectory files i), state, files)

end Testsmith.ProcessRunner
