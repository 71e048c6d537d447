import Testsmith.Path.Layout
import Testsmith.Repair
import Testsmith.Session

/-!
# The validation loop

Compile, run, repair, retry. The test file is first compiled until that succeeds, and then run until
that succeeds. Within a stage a failed attempt is followed by a repair of the test file, and the next
attempt sees the repaired file. A stage gives up when its attempts are used up, before a repair that no
attempt would see, or when no rule knows the failure. Running starts only after compiling has
succeeded.
-/

namespace Testsmith

/-- The stages of the loop. -/
inductive Stage where
  | compile
  | execute
  deriving DecidableEq, Repr, Inhabited

/-- Why a stage gave up. -/
inductive GiveUp where
  /-- No rule knows the failure. -/
  | unknownFailure
  /-- The attempts are used up. -/
  | noAttemptsLeft
  deriving DecidableEq, Repr, Inhabited

/-- The states that the loop goes through. -/
inductive LoopState where
  | attempting (stage : Stage)
  | usedUp (stage : Stage)
  | passed (stage : Stage)
  | aborted
  deriving DecidableEq, Repr, Inhabited

/-! ## Names -/

def Stage.stepName : Stage → String
  | .compile => "compile_validation"
  | .execute => "test_execution"

def Stage.message : Stage → String
  | .compile => "Validating compilation..."
  | .execute => "Running tests..."

def Stage.name : Stage → String
  | .compile => "compile"
  | .execute => "execute"

def Stage.failureName (s : Stage) : String := s.name ++ "_failure"

def GiveUp.name : GiveUp → String
  | .unknownFailure => "remediation_exhausted"
  | .noAttemptsLeft => "retry_budget_exhausted"

def LoopState.name : LoopState → String
  | .attempting stage => stage.name ++ "_attempt"
  | .usedUp stage => stage.name ++ "_failed"
  | .passed stage => stage.name ++ "_ok"
  | .aborted => "aborted"

/-! ## One stage -/

/-- Repairs a file after a failure; it is written only where a rule fires. -/
def repairFile {σ : Type} (file : Path) (message : String) (policy : Repair.Policy) :
    Action σ Repair.Outcome := do
  let text ← Action.readText file
  let outcome := policy.attempt text message
  if outcome.fixed then Action.writeText file outcome.text
  return outcome

/-- How a stage ended: the last result, the number of attempts after the first one, the states it went
through, the rules that fired in between, and why the stage gave up, if it did. -/
structure StageEnd where
  result : ToolResult
  retries : Nat := 0
  states : List LoopState
  remediations : List String := []
  gaveUp : Option GiveUp := none
  deriving DecidableEq, Repr, Inhabited

/-- The end of a stage with its first attempt. -/
def StageEnd.atOnce (stage : Stage) (result : ToolResult) (gaveUp : Option GiveUp) : StageEnd :=
  { result, states := [.attempting stage], gaveUp }

/-- The end of a stage where a failed attempt, and the rules that fired after it, came before. -/
def StageEnd.afterRetry (stage : Stage) (applied : List String) (later : StageEnd) : StageEnd :=
  { later with
    retries := later.retries + 1
    states := .attempting stage :: later.states
    remediations := applied ++ later.remediations }

def attempts {σ : Type} (stage : Stage) (attempt : Action σ ToolResult) (policy : Repair.Policy)
    (file : Path) : (spare : Nat) → Action σ StageEnd
  | 0 => do
    let result ← attempt
    return .atOnce stage result (if result.success then none else some .noAttemptsLeft)
  | spare + 1 => do
    let result ← attempt
    if result.success then return .atOnce stage result none
    let outcome ← repairFile file result.errorText policy
    if outcome.fixed then
      return .afterRetry stage outcome.applied (← attempts stage attempt policy file spare)
    else return .atOnce stage result (some .unknownFailure)

/-- The states behind the attempts of a stage. -/
def Stage.closing (stage : Stage) : Option GiveUp → List LoopState
  | none => [.passed stage]
  | some .noAttemptsLeft => [.usedUp stage, .aborted]
  | some .unknownFailure => [.aborted]

def StageEnd.trace (e : StageEnd) (stage : Stage) : List LoopState :=
  e.states ++ stage.closing e.gaveUp

/-! ## The loop -/

/-- A loop: the tool, the most attempts of a stage, the rules, and the module of test files whose path
names none. -/
structure Loop (σ : Type) where
  tool : BuildTool σ
  budget : Nat
  budget_pos : 0 < budget
  compileRules : Repair.Policy := Repair.compileRules
  executionRules : Repair.Policy := Repair.executionRules
  fallbackModule : String := "app"

/-- A loop with a number of attempts, which must be positive. -/
def Loop.ofBudget {σ : Type} (tool : BuildTool σ) (budget : Int) (fallbackModule : String := "app")
    (compileRules : Repair.Policy := Repair.compileRules)
    (executionRules : Repair.Policy := Repair.executionRules) : Except Failure (Loop σ) :=
  if h : 0 < budget then
    .ok { tool, budget := budget.toNat, budget_pos := by omega, compileRules, executionRules,
          fallbackModule }
  else .error (.noAttempts budget)

/-- What came of a run of the loop. -/
structure LoopOutcome where
  state : LoopState
  module : String
  failure : Option Stage := none
  reason : Option GiveUp := none
  trace : List LoopState
  passed : Int
  failed : Int
  deriving DecidableEq, Repr, Inhabited

/-- The run was successful: compiled and run without failures. -/
def LoopOutcome.success (o : LoopOutcome) : Bool := o.state = .passed .execute

namespace Loop

variable {σ : Type}

def rules (l : Loop σ) : Stage → Repair.Policy
  | .compile => l.compileRules
  | .execute => l.executionRules

/-- What the step of a stage that passed reports. -/
def passedResult (stage : Stage) (e : StageEnd) : Json :=
  match stage with
  | .compile =>
    .obj [("retries", .int e.retries), ("message", .str "Compilation succeeded"),
      ("remediations", Json.ofTexts e.remediations)]
  | .execute =>
    .obj [("retries", .int e.retries), ("passed_tests", .int e.result.passed),
      ("failed_tests", .int e.result.failed)]

/-- What the step of a stage that gave up reports. -/
def gaveUpResult (stage : Stage) (e : StageEnd) : Json :=
  .obj [("retries", .int e.retries), ("failure", .str stage.failureName),
    ("remediations", Json.ofTexts e.remediations)]

/-- Runs a stage as a step of the report. -/
def runStage (l : Loop σ) (stage : Stage) (c : Call) (file : Path) : Action σ StageEnd := do
  let step ← Action.startStep stage.stepName stage.message
  let ended ← attempts stage (Action.call l.tool c) (l.rules stage) file (l.budget - 1)
  match ended.gaveUp with
  | none => Action.finishStep (·.complete step (some (passedResult stage ended)))
  | some reason =>
    Action.finishStep (·.fail step ended.result.errorText (some reason.name)
      (some (gaveUpResult stage ended)))
  return ended

/-- The outcome of a run that ended with a stage, after the states of the stages before. -/
def outcome (module : String) (before : List LoopState) (stage : Stage) (e : StageEnd) :
    LoopOutcome :=
  { state := if e.gaveUp.isNone then .passed stage else .aborted
    module
    failure := if e.gaveUp.isNone then none else some stage
    reason := e.gaveUp
    trace := before ++ e.trace stage
    passed := e.result.passed
    failed := e.result.failed }

/-- Validates the test file at a path inside a project. -/
def run (l : Loop σ) (root : Path) (testPath : String) : Action σ LoopOutcome := do
  let file := root / testPath
  let present ← Action.isFile file
  if !present then throw (.noTestFile file.text)
  let module := Layout.moduleOf testPath l.fallbackModule
  let compiled ← l.runStage .compile (.compile module testPath) file
  if compiled.gaveUp.isSome then return outcome module [] .compile compiled
  let executed ← l.runStage .execute (.run module (Layout.className testPath)) file
  return outcome module (compiled.trace .compile) .execute executed

end Loop

end Testsmith
