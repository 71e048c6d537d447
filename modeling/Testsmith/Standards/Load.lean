import Testsmith.Session

/-!
# Reading standards

A document is read when it is first asked for, and kept. A document whose file cannot be opened is
kept as the empty text; one that is no text is a failure, and nothing is kept.
-/

namespace Testsmith.Standards

variable {σ : Type}

def fetch (shelf : Shelf) (d : Document) : Action σ String := do
  match shelf with
  | .builtIn => return d.builtIn
  | .directory path =>
    match ← Action.attempt (Action.readText (path / d.fileName)) with
    | .ok text => return text
    | .error (.system _ _) => return ""
    | .error failure => throw failure

def document (shelf : Shelf) (d : Document) : Action σ String := do
  match (← get).standards.get? d with
  | some text => return text
  | none =>
    let text ← fetch shelf d
    modify fun s => { s with standards := s.standards.put d text }
    return text

/-- Both documents have a content. The second one is not asked for where the first one has none. -/
def ensureLoaded (shelf : Shelf) : Action σ Bool := do
  if (← document shelf .testStandards) = "" then return false
  return (← document shelf .validationLoop) ≠ ""

end Testsmith.Standards
