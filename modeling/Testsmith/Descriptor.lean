/-!
# Service descriptors

What is known of a service class: its package and name, the dependencies its constructor takes, its
methods, and the imports of its source.
-/

namespace Testsmith

/-- A named and typed parameter of a method or, as a dependency, of the constructor. -/
structure Parameter where
  name : String
  type : String
  deriving DecidableEq, Repr, Inhabited

/-- The signature of a method. -/
structure Method where
  name : String
  returnType : String
  parameters : List Parameter := []
  isPrivate : Bool := false
  deriving DecidableEq, Repr, Inhabited

structure Descriptor where
  package : String := ""
  className : String := ""
  dependencies : List Parameter := []
  methods : List Method := []
  imports : List String := []
  deriving DecidableEq, Repr, Inhabited

def Descriptor.publicMethods (d : Descriptor) : List Method := d.methods.filter (!·.isPrivate)

/-- How surely a descriptor is known: read from a symbol tree, or from the patterns of a source. -/
inductive Fidelity where
  | structured
  | regex
  deriving DecidableEq, Repr, Inhabited

def Fidelity.name : Fidelity → String
  | .structured => "structured"
  | .regex => "regex"

end Testsmith
