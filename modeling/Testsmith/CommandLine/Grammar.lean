import Testsmith.Operation.Basic

/-!
# The words of the command line

The program and each of its commands read arguments at a level of their own, with its own switches.
A switch has one or more spellings, the short one with a single hyphen first; no switch with a single
hyphen takes a value (`takesValue_eq_false_of_short`).
-/

namespace Testsmith.CommandLine

inductive Switch where
  | help
  | version
  | start
  | verbose
  | projectRoot
  | analysis
  | testPath
  | noValidate
  | maxRetries
  | coverage
  deriving DecidableEq, Repr, Inhabited

namespace Switch

def spellings : Switch → List String
  | .help => ["-h", "--help"]
  | .version => ["--version"]
  | .start => ["--init"]
  | .verbose => ["-v", "--verbose"]
  | .projectRoot => ["--project-root"]
  | .analysis => ["--analysis"]
  | .testPath => ["--test-path"]
  | .noValidate => ["--no-validate"]
  | .maxRetries => ["--max-retries"]
  | .coverage => ["--coverage"]

def label (s : Switch) : String := String.intercalate "/" s.spellings

def takesValue : Switch → Bool
  | .projectRoot | .analysis | .testPath | .maxRetries => true
  | _ => false

end Switch

/-- A switch with a short spelling, which comes first, takes no value. -/
theorem takesValue_eq_false_of_short {s : Switch} (h : s.spellings.length = 2) :
    s.takesValue = false := by
  cases s <;> first | rfl | cases h

/-- Who reads arguments: the program, or one of its commands. -/
inductive Level where
  | program
  | command (op : Operation)
  deriving DecidableEq, Repr, Inhabited

namespace Level

/-- The switches of a level, in the order of its help. -/
def switches : Level → List Switch
  | .program => [.help, .version, .start, .verbose, .projectRoot]
  | .command .analyze => [.help, .analysis]
  | .command (.generate _) => [.help, .analysis, .testPath, .noValidate, .maxRetries]
  | .command .validate => [.help, .maxRetries, .coverage]

def spellings (l : Level) : List (String × Switch) :=
  l.switches.flatMap fun s => s.spellings.map (·, s)

def switch? (l : Level) (spelling : String) : Option Switch := l.spellings.lookup spelling

/-- The name of the argument that a level needs. -/
def operand : Level → String
  | .program => "command"
  | .command .validate => "test_path"
  | .command _ => "service_path"

def title : Level → String
  | .program => "testloop"
  | .command op => "testloop " ++ op.command

end Level

end Testsmith.CommandLine
