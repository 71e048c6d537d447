import Testsmith.Extraction.Source
import Testsmith.Extraction.Symbols

/-!
# Extraction

The descriptor of a service, from symbol data where there is any and from the source text else, with
the fidelity of the way that was taken.
-/

namespace Testsmith

def extract (settings : GenerationSettings) (sourcePath : String) (symbols : Option Json)
    (source : String) : Descriptor × Fidelity :=
  match symbols with
  | some data => ((Symbol.ofData data).descriptor settings sourcePath, .structured)
  | none => (Source.descriptor source, .regex)

namespace Descriptor

def parameterJson (p : Parameter) : Json := .obj [("name", .str p.name), ("type", .str p.type)]

def methodJson (m : Method) : Json :=
  .obj [("name", .str m.name), ("returnType", .str m.returnType),
    ("parameters", .arr (m.parameters.map parameterJson)), ("isPrivate", .bool m.isPrivate)]

/-- The descriptor as JSON, with no more than some imports. -/
def summary (d : Descriptor) (maxImports : Nat) : Json :=
  .obj [("packageName", .str d.package), ("className", .str d.className),
    ("dependencies", .arr (d.dependencies.map parameterJson)),
    ("methods", .arr (d.methods.map methodJson)),
    ("imports", Json.ofTexts (d.imports.take maxImports))]

/-! ## Reading -/

open Schema

/-- A parameter or dependency, by the name of its record. -/
def readParameter (record_ : String) : Reader Parameter := record record_ fun fields =>
  Parameter.mk <$> required fields "name" text <*> required fields "type" text

def readMethod : Reader Method := record "MethodSignature" fun fields =>
  Method.mk
    <$> required fields "name" text
    <*> required fields "returnType" text ["return_type"]
    <*> withDefault fields "parameters" [] (list (readParameter "Parameter"))
    <*> withDefault fields "isPrivate" false boolean ["is_private"]

/-- A descriptor. The keys are those of `summary`; the names with underscores are read, too. -/
def read : Reader Descriptor := record "ServiceDescriptor" fun fields =>
  Descriptor.mk
    <$> withDefault fields "packageName" "" text ["package_name"]
    <*> withDefault fields "className" "" text ["class_name"]
    <*> withDefault fields "dependencies" [] (list (readParameter "Dependency"))
    <*> withDefault fields "methods" [] (list readMethod)
    <*> withDefault fields "imports" [] (list text)

end Descriptor

end Testsmith
