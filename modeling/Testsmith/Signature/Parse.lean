import Testsmith.Descriptor
import Testsmith.Signature.Split
import Testsmith.Text.Blank
import Testsmith.Text.Word

/-!
# Reading signatures

A signature such as `(id: Id, all: Boolean = false): List<Item>` gives parameters and a return type.
A parameter's type ends before a default value. Missing pieces have names of their own: a parameter
without a name is called `param` (a dependency, `dependency`), one without a type has type `Any`,
and a method without a return type returns `Unit`.

The parameters of a constructor carry qualifiers: annotations, then modifiers, then `val` or `var`,
each followed by blanks. They are dropped together or, where one of the three is malformed, not at all.
-/

namespace Testsmith.Signature

open Text (trim trimStart isBlank isWord skip1? after? span1?)

/-- The type of what has none. -/
def anyType : String := "Any"

/-- The return type of what has none. -/
def unitType : String := "Unit"

/-- A text, or another one where it is empty. -/
def orElse (text : List Char) (other : String) : String :=
  if text = [] then other else String.ofList text

/-! ## Parameters -/

/-- The parameters inside the first group of a signature, trimmed; empty ones are left out. -/
def parameterTexts (signature : List Char) : List (List Char) :=
  match group? signature with
  | none => []
  | some (inside, _) => ((splitTopLevel (· = ',') inside).map trim).filter (· ≠ [])

/-- The name before the first colon and the type after it, without a default value. -/
def parameterOf (defaultName : String) (text : List Char) : Parameter :=
  let (name, typed) := Text.cutAt ':' text
  { name := orElse (trim name) defaultName
    type := orElse (trim (beforeTopLevel (· = '=') typed)) anyType }

def parameters (signature : String) : List Parameter :=
  (parameterTexts signature.toList).map (parameterOf "param")

/-! ## Qualifiers -/

def modifiers : List String := ["private", "protected", "internal", "public", "override"]

/-- What follows the arguments of an annotation, if there are any, up to the first closing bracket. -/
def afterArguments : List Char → List Char
  | '(' :: rest =>
    match rest.dropWhile (· != ')') with
    | [] => '(' :: rest
    | _ :: rest => rest
  | text => text

/-- What follows an annotation and the blanks behind it. -/
def afterAnnotation? : List Char → Option (List Char)
  | '@' :: rest => do
    let rest ← skip1? isWord rest
    skip1? isBlank (afterArguments rest)
  | _ => none

/-- What follows one of some words and the blanks behind it. -/
def afterWord? (words : List String) (text : List Char) : Option (List Char) :=
  words.findSome? fun word => (after? word text).bind (skip1? isBlank)

/-- What follows as many steps as can be taken. The number bounds them by the length of the text, of
which every step takes some. -/
def afterEach (step : List Char → Option (List Char)) : Nat → List Char → List Char
  | 0, text => text
  | bound + 1, text =>
    match step text with
    | some rest => afterEach step bound rest
    | none => text

def dropQualifiers (text : List Char) : List Char :=
  let plain := afterEach afterAnnotation? text.length text
  let plain := afterEach (afterWord? modifiers) plain.length plain
  (afterWord? ["val", "var"] plain).getD text

def dependencies (signature : String) : List Parameter :=
  (parameterTexts signature.toList).map fun text => parameterOf "dependency" (dropQualifiers text)

/-! ## Return types -/

def beforeBody (text : List Char) : List Char :=
  (text.takeWhile (· != '\x7b')).takeWhile (· != '=')

/-- The return type of a signature. Without brackets the signature is the type itself. -/
def returnType (signature : String) : String :=
  let text := signature.toList
  match group? text with
  | some (_, after) =>
    match trim after with
    | ':' :: typed => orElse (trim (beforeBody typed)) unitType
    | _ => unitType
  | none => if text.contains '(' then unitType else orElse (trim text) unitType

example : parameters "(a: Map<K, V>, b = 1, : T)" =
    [⟨"a", "Map<K, V>"⟩, ⟨"b = 1", "Any"⟩, ⟨"param", "T"⟩] := by decide
example : dependencies "(@Q(\"x\") private val repo: Repo = r)" = [⟨"repo", "Repo"⟩] := by decide
example : returnType "(id: Id): List<Item> \x7b \x7d" = "List<Item>" := by decide

end Testsmith.Signature
