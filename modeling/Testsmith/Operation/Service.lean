import Testsmith.Envelope
import Testsmith.Extraction.Basic
import Testsmith.Loop
import Testsmith.Operation.Request
import Testsmith.Scaffold
import Testsmith.Settings.File
import Testsmith.Standards.Load

/-!
# Operations

What the service offers: analysing a service class, generating its unit or integration test, and
validating a test file. Failures of building and testing are recorded in the steps of the answer.
Anything unexpected, such as a missing file, closes the open step and makes the answer an error with
what was known so far.
-/

namespace Testsmith

/-- What operations answer: the envelope and, where something unexpected happened, its cause. -/
structure Reply where
  envelope : Envelope
  cause : Option Failure := none
  deriving Repr, Inhabited

/-- What stands for the call stack of an error. -/
def Reply.stackMark : String := "<stack>"

/-- An error answer with what was known so far. -/
def Reply.ofFailure (failure : Failure) (known : Envelope) : Reply :=
  { envelope := { known with
      success := false
      error := some failure.message
      stack := some stackMark }
    cause := some failure }

/-- The service, with build tool states in `σ`: settings that are fixed or else read from the project,
the shelf of the standards, and the build tool of a project with some settings. -/
structure Service (σ : Type) where
  settings : Option Settings := none
  shelf : Standards.Shelf := .builtIn
  toolFor : Path → ToolSettings → BuildTool σ

namespace Service

variable {σ : Type}

def settingsFor (svc : Service σ) (root : Path) : Action σ Settings :=
  match svc.settings with
  | some settings => pure settings
  | none => Settings.load root

/-- The loop for a project. A request's number of attempts counts before that of the settings. -/
def loopFor (svc : Service σ) (root : Path) (settings : Settings) (maxRetries : Option Nat) :
    Except Failure (Loop σ) :=
  Loop.ofBudget (svc.toolFor root settings.tool) (maxRetries.getD settings.loop.maxRetries)
    settings.generation.fallbackModule

/-- Describes a service class. Its source is read only where there is no symbol data. -/
def describe (root : Path) (servicePath : String) (symbols : Option Json) (settings : Settings) :
    Action σ (Descriptor × Fidelity) := do
  let source ← match symbols with
    | some _ => pure ""
    | none => Action.readText (root / servicePath)
  return extract settings.generation servicePath symbols source

def clearReport : Action σ Unit := modify fun s => { s with report := {} }

/-- The error answer of an operation whose open step fails with it. -/
def cutShort (failure : Failure) (known : Envelope) : Action σ Reply := do
  modify fun s => { s with report := s.report.failOpen failure.message }
  return .ofFailure failure { known with steps := some (← get).report.steps }

/-! ## Analysis -/

def analyze (svc : Service σ) (r : AnalyzeRequest) : Action σ Reply := do
  let found ← Action.attempt do
    let settings ← svc.settingsFor r.root
    let (descriptor, fidelity) ← describe r.root r.servicePath r.symbols settings
    return (settings, descriptor, fidelity)
  match found with
  | .error failure => return .ofFailure failure { success := false, servicePath := r.servicePath }
  | .ok (settings, descriptor, fidelity) =>
    return {
      envelope := {
        success := true
        servicePath := r.servicePath
        fidelity := fidelity
        analysis := descriptor.summary settings.generation.reportImports
        message := s!"Service analysis complete: {descriptor.methods.length} method(s) found" } }

/-! ## Generation -/

/-- The test file of a request: the one that is given, or the one that belongs to the service. -/
def testPathOf (r : GenerateRequest) : Except Failure String :=
  match r.testPath with
  | some "" | none =>
    match Layout.testPath r.servicePath with
    | .ok path => .ok path
    | .error p => .error (.noName p.text)
  | some path => .ok path

def prepare (svc : Service σ) (root : Path) : Action σ (Settings × Bool) := do
  let settings ← svc.settingsFor root
  let loaded ← Standards.ensureLoaded svc.shelf
  return (settings, loaded)

def analyzeStep (r : GenerateRequest) (settings : Settings) :
    Action σ (Descriptor × Fidelity) := do
  let step ← Action.startStep "analyze_service"
    (if r.symbols.isSome then "Analyzing service using supplied symbol data"
      else "Analyzing service source with regex fallback")
  let (descriptor, fidelity) ← describe r.root r.servicePath r.symbols settings
  Action.finishStep (·.complete step (some (.obj
    [("methods_found", .int descriptor.methods.length),
      ("dependencies_found", .int descriptor.dependencies.length),
      ("fidelity", .str fidelity.name)])))
  return (descriptor, fidelity)

def writeStep (root : Path) (testPath : String) (flavor : Flavor) (descriptor : Descriptor) :
    Action σ Unit := do
  let step ← Action.startStep "generate_test_code" s!"Generating {flavor.name} test code"
  let output := root / testPath
  Action.makeDirectories output.parent
  Action.writeText output (Scaffold.text flavor descriptor)
  Action.finishStep (·.complete step (some (.obj
    [("test_file", .str testPath),
      ("test_methods_generated", .int (Scaffold.caseCount descriptor))])))

/-- Writes the scaffold and, where the request says so, validates it: whether that was successful. -/
def writeAndValidate (svc : Service σ) (r : GenerateRequest) (flavor : Flavor) (testPath : String)
    (settings : Settings) (descriptor : Descriptor) : Action σ Bool := do
  writeStep r.root testPath flavor descriptor
  if r.validates then
    let loop ← Action.ofExcept (svc.loopFor r.root settings r.maxRetries)
    return (← loop.run r.root testPath).success
  else return true

def generate (svc : Service σ) (flavor : Flavor) (r : GenerateRequest) : Action σ Reply := do
  clearReport
  let testPath ← Action.ofExcept (testPathOf r)
  let known : Envelope := { success := false, servicePath := r.servicePath, testPath := testPath }
  match ← Action.attempt (svc.prepare r.root) with
  | .error failure => cutShort failure known
  | .ok (settings, loaded) =>
    let known := { known with standardsLoaded := some loaded }
    match ← Action.attempt (analyzeStep r settings) with
    | .error failure => cutShort failure known
    | .ok (descriptor, fidelity) =>
      let known := { known with fidelity := some fidelity }
      match ← Action.attempt (svc.writeAndValidate r flavor testPath settings descriptor) with
      | .error failure => cutShort failure known
      | .ok success =>
        return { envelope := { known with success, steps := some (← get).report.steps } }

/-! ## Validation -/

/-- Where the coverage report of a module is found. -/
def coverageReportPath (module : String) : String :=
  module ++ "/build/reports/jacoco/test/html/index.html"

def coverage (tool : BuildTool σ) (module : String) : Action σ Coverage := do
  let result ← Action.call tool (.coverage module)
  if result.success then
    return { success := true, reportPath := some (coverageReportPath module) }
  else return { success := false, error := result.error }

/-- Runs the loop on a test file, and makes a coverage report where the request wants one and the run
was successful. -/
def validateFile (svc : Service σ) (r : ValidateRequest) :
    Action σ (Bool × Bool × Option Coverage) := do
  let (settings, loaded) ← svc.prepare r.root
  let loop ← Action.ofExcept (svc.loopFor r.root settings r.maxRetries)
  let outcome ← loop.run r.root r.testPath
  if r.wantsCoverage && outcome.success then
    let made ← coverage loop.tool outcome.module
    return (loaded, outcome.success, some made)
  else return (loaded, outcome.success, none)

def validate (svc : Service σ) (r : ValidateRequest) : Action σ Reply := do
  clearReport
  match ← Action.attempt (svc.validateFile r) with
  | .error failure => cutShort failure { success := false, testPath := r.testPath }
  | .ok (loaded, success, coverage) =>
    return {
      envelope := {
        success
        testPath := r.testPath
        standardsLoaded := some loaded
        steps := some (← get).report.steps
        coverage } }

end Service

end Testsmith
