import Testsmith.BuildTool.Absent
import Testsmith.CommandLine.Arguments
import Testsmith.Json.Reader
import Testsmith.Operation.Dispatch

/-!
# Running a command line

From arguments to what is printed and the exit code. A run starts the settings of a project, or calls
an operation and prints its answer, or prints the help of the program. Symbol data is read from a file
before its operation is called; where that fails, the answer says so and nothing is called.
-/

namespace Testsmith.CommandLine

/-- How a run ends. -/
structure Ending where
  exitCode : Nat
  output : String
  /-- What goes to the error output where the reading of the arguments has ended the run. -/
  stopped : Option String := none
  /-- What an answer with an error goes back to. -/
  cause : Option Failure := none
  deriving DecidableEq, Repr, Inhabited

def version : String := "0.1.0"

def Stop.ending : Stop → Ending
  | .helped l => { exitCode := 0, output := l.help, stopped := some "" }
  | .versioned =>
    { exitCode := 0, output := s!"{Level.program.title} {version}\n", stopped := some "" }
  | .refused l complaint =>
    { exitCode := 2
      output := ""
      stopped := some (l.usage ++ s!"{l.title}: error: {complaint.text l}\n") }

variable {σ : Type}

def currentDirectory : Action σ Path := do
  return { anchor := .root, parts := (← get).workingDirectory }

/-- The symbol data of a file. An error is the text of what went wrong. -/
def readSymbols (file : String) : Action σ (Except String Json) := do
  match ← Action.attempt (Action.readText (Path.ofText file)) with
  | .error failure => return .error failure.message
  | .ok text =>
    match Json.parse text with
    | .ok data => return .ok data
    | .error e => return .error e.message

/-- The symbol data that arguments name, as an argument of an operation. -/
def symbolArgument (a : Arguments) : Action σ (Except String Json.Fields) := do
  match a.symbolFile with
  | .nothing => return .ok []
  | .blank => throw .symbolFileBlank
  | .value file =>
    match ← readSymbols file with
    | .ok data => return .ok [("serena_analysis", data)]
    | .error text =>
      return .error s!"Cannot read symbol data {(Path.ofText file).text}: {text}"

/-- What was given to a switch, as an argument of an operation. A blank one is an empty list, which no
operation accepts. -/
def givenJson {α : Type} (write : α → Json) : Given α → Json
  | .nothing => .null
  | .blank => .arr []
  | .value a => write a

def callArguments (a : Arguments) (root : Path) (op : Operation) (path : String)
    (symbols : Json.Fields) : Json.Fields :=
  let maxRetries := givenJson .int a.maxRetries
  match op with
  | .validate =>
    [("project_root", .str root.text), ("test_path", .str path), ("max_retries", maxRetries),
      ("check_coverage", .bool a.wantsCoverage)]
  | .analyze => [("project_root", .str root.text), ("service_path", .str path)] ++ symbols
  | .generate _ =>
    [("project_root", .str root.text), ("service_path", .str path)] ++ symbols ++
      [("test_path", givenJson .str a.testPath), ("validate", .bool a.validates),
        ("max_retries", maxRetries)]

def endingOf (reply : Reply) : Ending :=
  { exitCode := if reply.envelope.success then 0 else 1
    output := reply.envelope.text ++ "\n"
    cause := reply.cause }

def callOperation (svc : Service σ) (a : Arguments) (root : Path) (op : Operation)
    (path : String) : Action σ Ending := do
  match ← symbolArgument a with
  | .error text => return endingOf { envelope := { success := false, error := some text } }
  | .ok symbols =>
    let (reply, s) := svc.dispatch op.name (.obj (callArguments a root op path symbols)) (← get)
    set s
    return endingOf reply

def perform (svc : Service σ) (a : Arguments) : Action σ Ending := do
  let root ← match a.projectRoot with
    | .value root => pure (Path.ofText root)
    | _ => currentDirectory
  if a.startsSettings then
    let file ← Settings.start root
    return { exitCode := 0, output := s!"Wrote {file}\n" }
  match a.operation with
  | none => return { exitCode := 0, output := Level.program.help }
  | some (op, path) => callOperation svc a root op path

/-- The files that arguments lead to, for a project: its settings, the symbol data, the source and the
test of the service. -/
def filesOf (a : Arguments) (root : Path) : List Path :=
  let symbols := a.symbolFile.toOption.toList.map Path.ofText
  let own :=
    match a.operation with
    | none => []
    | some (_, path) =>
      let test := a.testPath.toOption.toList ++ (Layout.testPath path).toOption.toList
      (path :: test).map (root / ·)
  [Settings.file root, Settings.backupFile root] ++ symbols ++ own

def run (svc : Service σ) (args : List String) : Action σ Ending :=
  match Arguments.read args with
  | .ok a => perform svc a
  | .error stop => return stop.ending

/-- The service of the command line, in a system without the programs that build tools are: settings
are read from the project, and the standards are built in. -/
def service (workingDirectory : Location) : Service σ where
  toolFor := Gradle.tool (ProcessRunner.absent workingDirectory)

end Testsmith.CommandLine
