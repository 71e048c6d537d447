import Testsmith.Operation.Basic
import Testsmith.Operation.Service

/-!
# Dispatch

Operations by their names. A call with a name that no operation has, or with arguments that do not
read as a request, is answered with an error, as is a call that fails before its operation could
start: a dispatched call always has an answer.
-/

namespace Testsmith

namespace Service

variable {σ : Type}

def request {α : Type} (record_ : String) (checked : Schema.Checked α) : Except Failure α :=
  match checked with
  | .ok r => .ok r
  | .failed issues => .error (.invalid record_ issues)

def perform (svc : Service σ) (arguments : Json) : Operation → Action σ Reply
  | .generate flavor => do
    svc.generate flavor (← Action.ofExcept (request "GenerateRequest" (Request.readGenerate arguments)))
  | .validate => do
    svc.validate (← Action.ofExcept (request "ValidateRequest" (Request.readValidate arguments)))
  | .analyze => do
    svc.analyze (← Action.ofExcept (request "AnalyzeRequest" (Request.readAnalyze arguments)))

def dispatch (svc : Service σ) (name : String) (arguments : Json) (s : Session σ) :
    Reply × Session σ :=
  let action : Action σ Reply :=
    match Operation.ofName? name with
    | some op => svc.perform arguments op
    | none => throw (.unknownOperation name)
  match action s with
  | .ok reply s => (reply, s)
  | .error failure s => (.ofFailure failure { success := false }, s)

end Service

end Testsmith
