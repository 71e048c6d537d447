import Testsmith.CommandLine.Help
import Testsmith.Text.Quoted

/-!
# Stops

Why the reading of arguments ends before anything is done: help or the version was asked for, or the
arguments are refused. A refusal is told by the level that complains, behind its usage.
-/

namespace Testsmith.CommandLine

/-- What is wrong with arguments. -/
inductive Complaint where
  | ambiguous (argument : String) (candidates : List String)
  | valueIgnored (s : Switch) (value : String)
  | valueExpected (s : Switch)
  | notInteger (s : Switch) (value : String)
  | unknownCommand (name : String)
  | operandMissing
  | unrecognized (arguments : List String)
  deriving DecidableEq, Repr, Inhabited

def Complaint.text (l : Level) : Complaint → String
  | .ambiguous argument candidates =>
    s!"ambiguous option: {argument} could match " ++ String.intercalate ", " candidates
  | .valueIgnored s value =>
    s!"argument {s.label}: ignored explicit argument {Text.quoted value}"
  | .valueExpected s => s!"argument {s.label}: expected one argument"
  | .notInteger s value => s!"argument {s.label}: invalid int value: {Text.quoted value}"
  | .unknownCommand name =>
    s!"argument {l.operand}: invalid choice: {Text.quoted name} (choose from " ++
      String.intercalate ", " (Operation.all.map fun op => Text.quoted op.command) ++ ")"
  | .operandMissing => s!"the following arguments are required: {l.operand}"
  | .unrecognized arguments => "unrecognized arguments: " ++ String.intercalate " " arguments

/-- Why the reading of arguments ends. -/
inductive Stop where
  | helped (l : Level)
  | versioned
  | refused (l : Level) (complaint : Complaint)
  deriving DecidableEq, Repr, Inhabited

end Testsmith.CommandLine
