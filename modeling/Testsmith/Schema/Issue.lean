/-!
# Issues

What is wrong with a value that does not have the shape a reader asks for: the problem, and the place
where it shows, as keys and indexes from the outside in.
-/

namespace Testsmith.Schema

/-- A step into a value. -/
inductive Place where
  | key (name : String)
  | index (i : Nat)
  deriving DecidableEq, Repr, Inhabited

inductive Problem where
  | missing
  | notText
  | notInteger
  | notFinite
  | hasFraction
  | unreadableInteger
  | integerTooLarge
  | lessThan (least : Nat)
  | notBool
  | unreadableBool
  | notList
  | notObject
  | notRecord (name : String)
  | notPath
  | notOneOf (names : List String)
  deriving DecidableEq, Repr, Inhabited

def Problem.kind : Problem → String
  | .missing => "missing"
  | .notText => "string_type"
  | .notInteger => "int_type"
  | .notFinite => "finite_number"
  | .hasFraction => "int_from_float"
  | .unreadableInteger => "int_parsing"
  | .integerTooLarge => "int_parsing_size"
  | .lessThan _ => "greater_than_equal"
  | .notBool => "bool_type"
  | .unreadableBool => "bool_parsing"
  | .notList => "list_type"
  | .notObject => "dict_type"
  | .notRecord _ => "model_type"
  | .notPath => "path_type"
  | .notOneOf _ => "enum"

/-- Names between quotes, with an "or" before the last. -/
def alternatives : List String → String
  | [] => ""
  | [name] => s!"'{name}'"
  | [first, last] => s!"'{first}' or '{last}'"
  | name :: rest => s!"'{name}', {alternatives rest}"

def Problem.message : Problem → String
  | .missing => "Field required"
  | .notText => "Input should be a valid string"
  | .notInteger => "Input should be a valid integer"
  | .notFinite => "Input should be a finite number"
  | .hasFraction => "Input should be a valid integer, got a number with a fractional part"
  | .unreadableInteger => "Input should be a valid integer, unable to parse string as an integer"
  | .integerTooLarge => "Unable to parse input string as an integer, exceeded maximum size"
  | .lessThan least => s!"Input should be greater than or equal to {least}"
  | .notBool => "Input should be a valid boolean"
  | .unreadableBool => "Input should be a valid boolean, unable to interpret input"
  | .notList => "Input should be a valid list"
  | .notObject => "Input should be a valid dictionary"
  | .notRecord name => s!"Input should be a valid dictionary or instance of {name}"
  | .notPath => "Input is not a valid path for <class 'pathlib.Path'>"
  | .notOneOf names => s!"Input should be {alternatives names}"

/-- A problem at a place. -/
structure Issue where
  place : List Place
  problem : Problem
  deriving DecidableEq, Repr, Inhabited

def Issue.inside (step : Place) (issue : Issue) : Issue := { issue with place := step :: issue.place }

end Testsmith.Schema
