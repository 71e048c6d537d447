import Testsmith.Failure
import Testsmith.FileTree.Basic

/-!
# Build tools

What the loop needs of a build tool: compiling the tests of a module, running a test class, and making
a coverage report. A build tool is any way to answer these calls. It has a state of its own, sees the
files, and may change both; it answers with a result or breaks down.
-/

namespace Testsmith

/-- A call of the build tool. -/
inductive Call where
  | compile (module testFile : String)
  | run (module testClass : String)
  | coverage (module : String)
  deriving DecidableEq, Repr, Inhabited

/-- What the build tool answers. -/
structure ToolResult where
  success : Bool
  stdout : String := ""
  stderr : String := ""
  error : Option String := none
  passed : Int := 0
  failed : Int := 0
  deriving DecidableEq, Repr, Inhabited

/-- What is reported where the tool fails and gives no error. -/
def ToolResult.noDetail : String := "toolchain reported failure without detail"

/-- The error of a result, or a fixed text where it has none. -/
def ToolResult.errorText (r : ToolResult) : String :=
  match r.error with
  | none | some "" => noDetail
  | some error => error

/-- A build tool with states in `σ`. -/
structure BuildTool (σ : Type) where
  call : Call → σ → FileTree → Except Failure ToolResult × σ × FileTree

end Testsmith
