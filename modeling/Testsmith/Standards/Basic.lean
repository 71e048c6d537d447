import Testsmith.Path.Basic

/-!
# Standards documents

The two documents about how tests are written, where they come from, and what is already known of
them. A document is read once: what was found, or the empty text where nothing was, is kept.
-/

namespace Testsmith.Standards

inductive Document where
  | testStandards
  | validationLoop
  deriving DecidableEq, Repr, Inhabited

def Document.fileName : Document → String
  | .testStandards => "TEST_STANDARDS.md"
  | .validationLoop => "VALIDATION_LOOP.md"

/-- Where documents come from. -/
inductive Shelf where
  | builtIn
  | directory (path : Path)
  deriving DecidableEq, Repr, Inhabited

/-- The text of a document that is built in. -/
def Document.builtIn : Document → String
  | .testStandards =>
    "# Service Test Standards\n" ++
    "\n" ++
    "- One test class per service, named `<Service>Test`, in the mirrored test source tree.\n" ++
    "- Constructor dependencies are replaced by MockK doubles (`mockk()`); the service under test " ++
    "is a `spyk` over the real class.\n" ++
    "- Every public method gets at least a success case (`<method>_success`) and an error case " ++
    "(`<method>_error`).\n" ++
    "- Test bodies follow Given / When / Then sections.\n" ++
    "- `@Description` carries a short human-readable summary of each case.\n" ++
    "- `unmockkAll()` runs after every test.\n"
  | .validationLoop =>
    "# Validation Loop\n" ++
    "\n" ++
    "1. Compile the module's test sources. On failure apply a known deterministic fix and retry, " ++
    "up to `max_retries` attempts.\n" ++
    "2. Run the generated test class. Any failed test counts as a failed run, whatever the exit " ++
    "status.\n" ++
    "3. Stop as soon as a failure has no known fix. Report every attempted step with its status.\n" ++
    "\n" ++
    "Known compile fixes:\n" ++
    "\n" ++
    "| Failure contains | Rewrite |\n" ++
    "|---|---|\n" ++
    "| `Unit but Long` | `returns Unit` -> `returns 1L` |\n" ++
    "| `String but Boolean` | `\"Y\"` -> `true`, `\"N\"` -> `false` |\n" ++
    "\n" ++
    "No automatic fixes exist for failing test runs.\n"

/-- What is known of the documents. -/
structure Cache where
  testStandards : Option String := none
  validationLoop : Option String := none
  deriving DecidableEq, Repr, Inhabited

def Cache.get? (c : Cache) : Document → Option String
  | .testStandards => c.testStandards
  | .validationLoop => c.validationLoop

def Cache.put (c : Cache) (d : Document) (text : String) : Cache :=
  match d with
  | .testStandards => { c with testStandards := some text }
  | .validationLoop => { c with validationLoop := some text }

theorem Cache.get?_put_self (c : Cache) (d : Document) (text : String) :
    (c.put d text).get? d = some text := by
  cases d <;> rfl

theorem Cache.get?_put_of_ne (c : Cache) {d e : Document} (h : e ≠ d) (text : String) :
    (c.put d text).get? e = c.get? e := by
  cases d <;> cases e <;> simp_all [put, get?]

end Testsmith.Standards
