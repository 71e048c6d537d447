import Testsmith.Scaffold

/-!
# Operations by name

The operations of the service, and the names under which tools and people call them.
-/

namespace Testsmith

inductive Operation where
  | generate (flavor : Flavor)
  | validate
  | analyze
  deriving DecidableEq, Repr, Inhabited

namespace Operation

def name : Operation → String
  | .generate .unit => "generate_unit_test"
  | .generate .integration => "generate_integration_test"
  | .validate => "validate_test"
  | .analyze => "analyze_service"

/-- The name of an operation on the command line. -/
def command : Operation → String
  | .generate .unit => "generate-unit"
  | .generate .integration => "generate-integration"
  | .validate => "validate"
  | .analyze => "analyze"

/-- All operations, in the order in which the command line offers them. -/
def all : List Operation := [.analyze, .generate .unit, .generate .integration, .validate]

def ofName? (s : String) : Option Operation := all.find? (·.name == s)

def ofCommand? (s : String) : Option Operation := all.find? (·.command == s)

theorem mem_all (op : Operation) : op ∈ all := by
  rcases op with (_ | _) | _ | _ <;> decide

theorem ofName?_name (op : Operation) : ofName? op.name = some op := by
  rcases op with (_ | _) | _ | _ <;> decide

theorem ofCommand?_command (op : Operation) : ofCommand? op.command = some op := by
  rcases op with (_ | _) | _ | _ <;> decide

end Operation

end Testsmith
