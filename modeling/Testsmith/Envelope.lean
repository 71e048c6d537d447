import Testsmith.Descriptor
import Testsmith.Json.Writer
import Testsmith.Report
import Testsmith.Schema.Checked

/-!
# Envelopes

What an operation answers. The text of an envelope is laid out JSON with the fields in their declared
order, and fields without a value are left out; nulls inside an analysis or a result stay.

Every envelope has a text here. Its strings are made of whole characters, and its values may be nested to
any depth; a writer that is given halves of surrogate pairs, or that bounds the nesting, can refuse what
is written here.
-/

namespace Testsmith

/-- What became of a coverage report. -/
structure Coverage where
  success : Bool
  reportPath : Option String := none
  error : Option String := none
  deriving DecidableEq, Repr, Inhabited

/-- The answer of an operation. -/
structure Envelope where
  success : Bool
  durationMs : Int := 0
  message : Option String := none
  servicePath : Option String := none
  testPath : Option String := none
  fidelity : Option Fidelity := none
  standardsLoaded : Option Bool := none
  analysis : Option Json := none
  steps : Option (List Step) := none
  coverage : Option Coverage := none
  error : Option String := none
  stack : Option String := none
  deriving Repr, Inhabited

/-! ## As JSON -/

/-- The entries that have a value. -/
def Json.written (entries : List (String × Option Json)) : Json.Fields :=
  entries.filterMap fun (key, value) => value.map (key, ·)

def Step.entries (s : Step) : List (String × Option Json) :=
  [("step", some (.int s.number)),
    ("name", some (.str s.name)),
    ("status", some (.str s.status.name)),
    ("message", some (.str s.message)),
    ("result", s.result),
    ("error", s.error.map .str),
    ("reason", s.reason.map .str)]

def Step.toJson (s : Step) : Json := .obj (Json.written s.entries)

def Coverage.entries (c : Coverage) : List (String × Option Json) :=
  [("success", some (.bool c.success)),
    ("report_path", c.reportPath.map .str),
    ("error", c.error.map .str)]

def Coverage.toJson (c : Coverage) : Json := .obj (Json.written c.entries)

namespace Envelope

def entries (e : Envelope) : List (String × Option Json) :=
  [("success", some (.bool e.success)),
    ("duration_ms", some (.int e.durationMs)),
    ("message", e.message.map .str),
    ("service_path", e.servicePath.map .str),
    ("test_path", e.testPath.map .str),
    ("fidelity", e.fidelity.map fun f => .str f.name),
    ("standards_loaded", e.standardsLoaded.map .bool),
    ("analysis", e.analysis),
    ("steps", e.steps.map fun steps => .arr (steps.map Step.toJson)),
    ("coverage", e.coverage.map Coverage.toJson),
    ("error", e.error.map .str),
    ("stack", e.stack.map .str)]

def toJson (e : Envelope) : Json := .obj (Json.written e.entries)

def text (e : Envelope) : String := e.toJson.pretty

end Envelope

/-! ## Reading -/

open Schema

def Step.read : Reader Step := record "RunStep" fun fields =>
  Step.mk
    <$> required fields "step" integer
    <*> required fields "name" Schema.text
    <*> withDefault fields "status" .inProgress
      (oneOf ([Status.inProgress, .completed, .failed].map fun s => (s.name, s)))
    <*> withDefault fields "message" "" Schema.text
    <*> withDefault fields "result" none (optional anyObject)
    <*> withDefault fields "error" none (optional Schema.text)
    <*> withDefault fields "reason" none (optional Schema.text)

def Coverage.read : Reader Coverage := record "CoverageResult" fun fields =>
  Coverage.mk
    <$> required fields "success" boolean
    <*> withDefault fields "report_path" none (optional Schema.text)
    <*> withDefault fields "error" none (optional Schema.text)

def Envelope.read : Reader Envelope := record "OperationEnvelope" fun fields =>
  Envelope.mk
    <$> required fields "success" boolean
    <*> withDefault fields "duration_ms" 0 integer
    <*> withDefault fields "message" none (optional Schema.text)
    <*> withDefault fields "service_path" none (optional Schema.text)
    <*> withDefault fields "test_path" none (optional Schema.text)
    <*> withDefault fields "fidelity" none
      (optional (oneOf ([Fidelity.structured, .regex].map fun f => (f.name, f))))
    <*> withDefault fields "standards_loaded" none (optional boolean)
    <*> withDefault fields "analysis" none (optional anyObject)
    <*> withDefault fields "steps" none (optional (list Step.read))
    <*> withDefault fields "coverage" none (optional Coverage.read)
    <*> withDefault fields "error" none (optional Schema.text)
    <*> withDefault fields "stack" none (optional Schema.text)

end Testsmith
