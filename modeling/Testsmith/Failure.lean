import Testsmith.Schema.Issue
import Testsmith.Text.Quoted
import Testsmith.Number.Numeral

/-!
# Failures

Why something could not be done, as causes. Their texts are in one place, `Failure.message`. The long
reports of the value, settings and encoding checks are not spelled out: a tag stands for each, and the
cause itself holds what is wrong.
-/

namespace Testsmith

/-- What the system says of a path it cannot use. -/
inductive Trouble where
  | notFound
  | alreadyExists
  | notDirectory
  | isDirectory
  | nameTooLong
  | permissionDenied
  deriving DecidableEq, Repr, Inhabited

def Trouble.number : Trouble → Nat
  | .notFound => 2
  | .alreadyExists => 17
  | .notDirectory => 20
  | .isDirectory => 21
  | .nameTooLong => 36
  | .permissionDenied => 13

def Trouble.text : Trouble → String
  | .notFound => "No such file or directory"
  | .alreadyExists => "File exists"
  | .notDirectory => "Not a directory"
  | .isDirectory => "Is a directory"
  | .nameTooLong => "File name too long"
  | .permissionDenied => "Permission denied"

/-- Kinds of values that a settings file cannot hold. -/
inductive ValueKind where
  | null
  | float
  | table
  deriving DecidableEq, Repr, Inhabited

/-- A cause of failure. -/
inductive Failure where
  | system (trouble : Trouble) (path : String)
  /-- A process cannot enter the directory it is to run in. -/
  | cannotEnter (trouble : Trouble) (directory : String)
  | nullInPath
  | notText
  /-- A value does not have the shape of a record. -/
  | invalid (record_ : String) (issues : List Schema.Issue)
  | unreadableSettings
  /-- A numeral has too many digits to be converted. -/
  | tooManyDigits (count : Nat)
  | beyondDouble
  /-- A path has no last part that could be replaced. -/
  | noName (path : String)
  | symbolFileBlank
  | noTestFile (path : String)
  | noAttempts (budget : Int)
  | unknownOperation (name : String)
  | unknownFlavor (name : String)
  | stepFinished (message : String)
  | unwritable (kind : ValueKind)
  /-- The build tool, or the process that runs it, broke down. -/
  | toolBroke (kind message : String)
  deriving DecidableEq, Repr, Inhabited

/-- How the system tells of a trouble with something. -/
def Trouble.report (trouble : Trouble) (what : String) : String :=
  s!"[Errno {trouble.number}] {trouble.text}: {what}"

def Failure.message : Failure → String
  | .system trouble path => trouble.report (Text.quoted path)
  | .cannotEnter trouble directory => trouble.report s!"PosixPath({Text.quoted directory})"
  | .nullInPath => "embedded null byte"
  | .notText => "<UnicodeDecodeError>"
  | .invalid _ _ => "<ValidationError>"
  | .unreadableSettings => "<TOMLDecodeError>"
  | .tooManyDigits count =>
    s!"Exceeds the limit ({Numeral.maxDigits} digits) for integer string conversion: " ++
      s!"value has {count} digits; use sys.set_int_max_str_digits() to increase the limit"
  | .beyondDouble => "int too large to convert to float"
  | .noName path => s!"PurePosixPath({Text.quoted path}) has an empty name"
  | .symbolFileBlank => "'list' object has no attribute 'read_text'"
  | .noTestFile path => s!"Test file not found: {path}"
  | .noAttempts budget => s!"max_retries must be at least 1, got {budget}"
  | .unknownOperation name => s!"Unknown tool: {name}"
  | .unknownFlavor name => s!"{Text.quoted name} is not a valid TemplateFlavor"
  | .stepFinished message => message
  | .unwritable kind =>
    let name := match kind with
      | .null => "NoneType"
      | .float => "float"
      | .table => "dict"
    s!"Cannot write {name} value to TOML"
  | .toolBroke _ message => message

end Testsmith
