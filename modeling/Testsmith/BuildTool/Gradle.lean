import Testsmith.BuildTool.Basic
import Testsmith.BuildTool.Counts
import Testsmith.Number.Shortest
import Testsmith.Settings.Basic
import Testsmith.Text.Blank

/-!
# Gradle

The build tool that calls the Gradle wrapper of a project. Every call starts one process in the
project's root. A process that takes longer than the settings allow, ends with an error, or says of
itself that something failed makes the call fail with a result; only where no process could be
started, its output cannot be decoded, or a test count cannot be read, the call breaks down. Starting a
process and decoding its output is one matter of the runner, which gives a failure for either.
-/

namespace Testsmith

/-- A process that is to be started. -/
structure Invocation where
  command : List String
  directory : Path
  /-- The Java installation to use, where it is set. -/
  javaHome : Option String
  /-- The seconds that it may take. -/
  timeout : Option Binary64
  deriving DecidableEq, Repr, Inhabited

/-- How a process ends. -/
inductive ProcessEnd where
  | exited (code : Int) (stdout stderr : Option String)
  /-- It took longer than a number of seconds, as that number is written. -/
  | timedOut (after : String)
  deriving DecidableEq, Repr, Inhabited

/-- What starts processes and decodes their output, with states in `σ`. It fails where it can do neither. -/
structure ProcessRunner (σ : Type) where
  start : Invocation → σ → FileTree → Except Failure ProcessEnd × σ × FileTree

def Invocation.timeoutText (i : Invocation) : String :=
  match i.timeout with
  | some seconds => seconds.text
  | none => "None"

namespace Gradle

/-- The command for some tasks and their options: the excluded tasks stand behind. -/
def command (s : ToolSettings) (tasks : List String) : List String :=
  s.wrapper :: (tasks ++ s.excludedTasks.flatMap fun task => ["-x", task])

def taskOf (module task : String) : String := s!":{module}:{task}"

def tasks (s : ToolSettings) : Call → List String
  | .compile module _ => [taskOf module s.compileTask]
  | .run module testClass => [taskOf module s.testTask, "--tests", testClass]
  | .coverage module => [taskOf module s.coverageTask]

def invocation (s : ToolSettings) (root : Path) (c : Call) : Except Failure Invocation :=
  match s.timeout with
  | .error _ => .error .beyondDouble
  | .ok timeout =>
    .ok
      { command := command s (tasks s c)
        directory := root
        javaHome := if s.javaHome = "" then none else some s.javaHome
        timeout }

/-- What a process says of its failure: its errors or, without any, its output. -/
def detail (stdout stderr : String) : String :=
  let errors := Text.trimmed stderr
  if errors = "" then Text.trimmed stdout else errors

def failureLabel : Call → String
  | .compile .. => "Compilation failed: "
  | .run .. => "Test execution failed: "
  | .coverage .. => "Coverage failed: "

/-- The error of a call that took too long. -/
def timeoutError (after : String) : Call → String
  | .coverage .. => s!"Coverage timed out after {after}s"
  | c => failureLabel c ++ s!"timed out after {after}s"

/-- The result of a compilation. The exit code alone is not trusted. -/
def compileResult (module testFile : String) (code : Int) (stdout stderr : String) : ToolResult :=
  if code ≠ 0 || Text.occursIn "error:".toList stderr.toList then
    { success := false, stdout, stderr
      error := some (failureLabel (.compile module testFile) ++ detail stdout stderr) }
  else { success := true, stdout, stderr }

/-- The result of a test run. A run with failed tests has failed, whatever its exit code. -/
def runResult (module testClass : String) (code : Int) (stdout stderr : String) :
    Except Failure ToolResult := do
  let (passed, failed) ← Counts.ofOutput stdout
  let label := failureLabel (.run module testClass)
  let error : Option String :=
    if code ≠ 0 then some (label ++ detail stdout stderr)
    else if 0 < failed then some (label ++ s!"Tests failed: {failed} test(s) failed")
    else none
  return { success := error.isNone, stdout, stderr, error, passed, failed }

def coverageResult (module : String) (code : Int) (stdout stderr : String) : ToolResult :=
  if code ≠ 0 then
    { success := false, stdout, stderr
      error := some (failureLabel (.coverage module) ++ detail stdout stderr) }
  else { success := true, stdout }

/-- The result of a call whose process has ended. -/
def result (c : Call) : ProcessEnd → Except Failure ToolResult
  | .timedOut after => .ok { success := false, error := some (timeoutError after c) }
  | .exited code stdout stderr =>
    let stdout := stdout.getD ""
    let stderr := stderr.getD ""
    match c with
    | .compile module testFile => .ok (compileResult module testFile code stdout stderr)
    | .run module testClass => runResult module testClass code stdout stderr
    | .coverage module => .ok (coverageResult module code stdout stderr)

def tool {σ : Type} (runner : ProcessRunner σ) (root : Path) (s : ToolSettings) : BuildTool σ where
  call c state files :=
    match invocation s root c with
    | .error failure => (.error failure, state, files)
    | .ok i =>
      let (ended, state, files) := runner.start i state files
      (ended.bind (result c), state, files)

end Gradle

end Testsmith
