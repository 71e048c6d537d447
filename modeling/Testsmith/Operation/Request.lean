import Testsmith.Path.Basic
import Testsmith.Schema.Checked

/-!
# Requests

What callers ask of an operation, read from the arguments of a call. Arguments that are not known are
ignored.
-/

namespace Testsmith

/-- Asks for the description of a service. -/
structure AnalyzeRequest where
  root : Path
  servicePath : String
  symbols : Option Json := none
  deriving Repr, Inhabited

/-- Asks for the scaffold of a service. -/
structure GenerateRequest where
  root : Path
  servicePath : String
  symbols : Option Json := none
  testPath : Option String := none
  validates : Bool := true
  maxRetries : Option Nat := none
  deriving Repr, Inhabited

/-- Asks for the validation of a test file. -/
structure ValidateRequest where
  root : Path
  testPath : String
  maxRetries : Option Nat := none
  wantsCoverage : Bool := false
  deriving Repr, Inhabited

namespace Request

open Schema

def path : Reader Path
  | .str s => .ok (Path.ofText s)
  | _ => .fail .notPath

/-- Symbol data: an object or a list. Anything else has the issues of both. -/
def symbolData : Reader Json
  | .obj fields => .ok (.obj fields)
  | .arr items => .ok (.arr items)
  | _ => .failed
    [⟨[.key "dict[str,any]"], .notObject⟩, ⟨[.key "list[any]"], .notList⟩]

def readAnalyze : Reader AnalyzeRequest := record "AnalyzeRequest" fun fields =>
  AnalyzeRequest.mk
    <$> required fields "project_root" path
    <*> required fields "service_path" text
    <*> withDefault fields "serena_analysis" none (optional symbolData)

def readGenerate : Reader GenerateRequest := record "GenerateRequest" fun fields =>
  GenerateRequest.mk
    <$> required fields "project_root" path
    <*> required fields "service_path" text
    <*> withDefault fields "serena_analysis" none (optional symbolData)
    <*> withDefault fields "test_path" none (optional text)
    <*> withDefault fields "validate" true boolean ["run_validation"]
    <*> withDefault fields "max_retries" none (optional (natural 1))

def readValidate : Reader ValidateRequest := record "ValidateRequest" fun fields =>
  ValidateRequest.mk
    <$> required fields "project_root" path
    <*> required fields "test_path" text
    <*> withDefault fields "max_retries" none (optional (natural 1))
    <*> withDefault fields "check_coverage" false boolean

end Request

end Testsmith
