import Testsmith.Path.Layout
import Testsmith.Settings.Basic
import Testsmith.Signature.Parse
import Testsmith.Symbol

/-!
# Descriptors from symbols

What a symbol tree says of a class: its methods with the signatures in their details, and the
dependencies of its constructors. The package comes from the place of the source file. A method is
private where its name starts with an underscore or its detail with the word `private`.
-/

namespace Testsmith.Symbol

open Signature

def isPrivate (s : Symbol) : Bool :=
  Text.startsWith "_" (s.name.getD "").toList ||
    Text.startsWith "private " (Text.trimStart (s.detail.getD "").toList)

def method (s : Symbol) : Method :=
  let signature := s.detail.getD ""
  { name := s.name.getD ""
    returnType := returnType signature
    parameters := parameters signature
    isPrivate := s.isPrivate }

/-- The descriptor of the class that a symbol describes. -/
def descriptor (settings : GenerationSettings) (sourcePath : String) (data : Symbol) : Descriptor :=
  let s := data.classSymbol
  { package := Layout.packageOf sourcePath settings.sourceRootMarker settings.fallbackPackage
    className := match s.name with
      | none | some "" => Layout.className sourcePath
      | some name => name
    dependencies := (s.children.filter isConstructor).flatMap fun c =>
      dependencies (c.detail.getD "")
    methods := (s.children.filter isMethod).map method
    imports := [] }

end Testsmith.Symbol
