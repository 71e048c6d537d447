import Testsmith.Number.Binary64
import Testsmith.Schema.Checked

/-!
# Settings

The settings of a project in their three sections: how the build tool is called, how often the loop
tries, and what generation falls back on. Settings are read from the value of a settings file after it
was laid over the defaults, so every key is required there.
-/

namespace Testsmith

/-- How the build tool is called. -/
structure ToolSettings where
  wrapper : String
  javaHome : String
  compileTask : String
  testTask : String
  coverageTask : String
  excludedTasks : List String
  /-- The seconds a call may take; zero for no bound. -/
  timeoutSeconds : Nat
  deriving DecidableEq, Repr, Inhabited

/-- How often the loop tries. -/
structure LoopSettings where
  maxRetries : Nat
  deriving DecidableEq, Repr, Inhabited

/-- What generation falls back on. -/
structure GenerationSettings where
  fallbackPackage : String
  fallbackModule : String
  sourceRootMarker : String
  /-- How many imports an analysis shows. -/
  reportImports : Nat
  deriving DecidableEq, Repr, Inhabited

/-- The settings of a project. -/
structure Settings where
  tool : ToolSettings
  loop : LoopSettings
  generation : GenerationSettings
  deriving DecidableEq, Repr, Inhabited

/-- The bound on a call as a floating point number of seconds: none where there is no bound. A bound
beyond the range of doubles is an error. -/
def ToolSettings.timeout (s : ToolSettings) : Except Unit (Option Binary64) :=
  if s.timeoutSeconds = 0 then .ok none
  else match Binary64.ofInt? s.timeoutSeconds with
    | some seconds => .ok (some seconds)
    | none => .error ()

open Schema

def ToolSettings.read : Reader ToolSettings := record "ToolchainConfig" fun fields =>
  ToolSettings.mk
    <$> required fields "wrapper" text
    <*> required fields "java_home" text
    <*> required fields "compile_task" text
    <*> required fields "test_task" text
    <*> required fields "coverage_task" text
    <*> required fields "exclude_tasks" (list text)
    <*> required fields "timeout_seconds" (natural 0)

def LoopSettings.read : Reader LoopSettings := record "LoopConfig" fun fields =>
  LoopSettings.mk <$> required fields "max_retries" (natural 1)

def GenerationSettings.read : Reader GenerationSettings := record "GenerationConfig" fun fields =>
  GenerationSettings.mk
    <$> required fields "fallback_package" text
    <*> required fields "fallback_module" text
    <*> required fields "source_root_marker" text
    <*> required fields "report_imports" (natural 0)

def Settings.read : Reader Settings := record "ProjectConfig" fun fields =>
  Settings.mk
    <$> required fields "toolchain" ToolSettings.read
    <*> required fields "loop" LoopSettings.read
    <*> required fields "generation" GenerationSettings.read

end Testsmith
