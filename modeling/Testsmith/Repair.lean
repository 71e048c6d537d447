import Testsmith.Text.Scan
import Testsmith.Text.Word

/-!
# Repair

Fixes for failures of a test file. A rule fires where its signature occurs in the failure message, and
patches the text. A policy applies every rule that fires, in order, each to the text that the one
before left. A message that fires no rule is not fixed.
-/

namespace Testsmith.Repair

/-- A patch: what it makes of a text. -/
structure Patch where
  apply : List Char → List Char
  deriving Inhabited

/-- A word ends here: no word character follows. -/
def wordEnds : List Char → Bool
  | c :: _ => !Text.isWord c
  | [] => true

/-- A stub that returns nothing returns a number instead. -/
def Patch.unitToLong : Patch where
  apply := Text.replaceAll "returns Unit".toList "returns 1L".toList wordEnds

def Patch.flagToBool : Patch where
  apply text :=
    let anywhere : List Char → Bool := fun _ => true
    Text.replaceAll "\"N\"".toList "false".toList anywhere
      (Text.replaceAll "\"Y\"".toList "true".toList anywhere text)

/-- A patch for the failures that hold a signature. -/
structure Rule where
  name : String
  signature : String
  patch : Patch
  deriving Inhabited

def Rule.fires (rule : Rule) (message : String) : Bool :=
  Text.occursIn rule.signature.toList message.toList

/-- Rules in the order in which they are tried. -/
abbrev Policy := List Rule

def compileRules : Policy :=
  [⟨"unit_to_long", "Unit but Long", .unitToLong⟩,
    ⟨"yn_string_to_boolean", "String but Boolean", .flagToBool⟩]

/-- The fixes for failures of test runs: none is known. -/
def executionRules : Policy := []

/-- What came of a repair: the text, and the names of the rules that fired. -/
structure Outcome where
  text : String
  applied : List String
  deriving DecidableEq, Repr, Inhabited

def Outcome.fixed (o : Outcome) : Bool := !o.applied.isEmpty

/-- The rules of a policy that fire on a message. -/
def Policy.firing (policy : Policy) (message : String) : List Rule :=
  policy.filter (·.fires message)

def Policy.attempt (policy : Policy) (text message : String) : Outcome :=
  let rules := policy.firing message
  { text := String.ofList (rules.foldl (fun text rule => rule.patch.apply text) text.toList)
    applied := rules.map (·.name) }

example : (compileRules.attempt "returns Unit; returns Units" "Unit but Long").text =
    "returns 1L; returns Units" := by decide

end Testsmith.Repair
