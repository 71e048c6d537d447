import Testsmith.Signature.Parse

/-!
# Descriptors from source text

What the patterns of a source say when no symbol tree is at hand. Each pattern is looked for anywhere
in the text: the package and the class are the first ones named, the imports are those at line
starts, the dependencies come from the first class whose parameter list is followed by a colon, and a
method is a `fun` whose closing bracket is followed by a colon and a return type. Patterns do not
nest: the parameter list of a class or method ends at the first closing bracket that has the right
text behind it. Visibility is not seen, so every method counts as public.
-/

namespace Testsmith.Source

open Text

/-! ## Pieces -/

/-- A keyword, blanks, and a name of some characters behind them. -/
def named (keyword : String) (isName : Char → Bool) (text : List Char) :
    Option (List Char × List Char) := do
  span1? isName (← skip1? isBlank (← after? keyword text))

def isDotted (c : Char) : Bool := isWord c || c = '.'

/-- The characters of a return type that is recognised. -/
def isTypeChar (c : Char) : Bool := isWord c || c = '<' || c = '>' || c = '?' || c = '.'

def afterMark? (mark : Char) (text : List Char) : Option (List Char) :=
  match trimStart text with
  | c :: rest => if c = mark then some rest else none
  | [] => none

/-- The text up to the first closing bracket behind which `tail` holds, with what `tail` gives. -/
def upToBracket {α : Type} (tail : List Char → Option α) : List Char → Option (List Char × α)
  | [] => none
  | c :: rest =>
    match if c = ')' then tail rest else none with
    | some found => some ([], found)
    | none => (upToBracket tail rest).map fun (inside, found) => (c :: inside, found)

/-! ## Package, class and imports -/

def package (source : List Char) : String :=
  String.ofList ((match? (.ofReader (named "package" isDotted)) source).getD [])

def className (source : List Char) : String :=
  String.ofList ((match? (.ofReader (named "class" isWord)) source).getD [])

/-- An import, from a line start on. The blanks before and after the keyword may hold line ends. -/
def importLine : Pattern (List Char) := fun before text =>
  if before = none ∨ before = some '\n' then
    Pattern.ofReader (fun text => named "import" isDotted (trimStart text)) before text
  else none

def imports (source : List Char) : List String :=
  (allMatches importLine source).map String.ofList

/-! ## Dependencies -/

def constructorList (text : List Char) : Option (List Char × List Char) := do
  let (_, rest) ← named "class" isWord text
  upToBracket (afterMark? ':') (← afterMark? '(' rest)

/-- The type of a property, given what follows the colon: up to a default value or the end, trimmed.
There is none where nothing stands before the default value, or nothing at all. -/
def propertyType (text : List Char) : Option (List Char) :=
  match text.takeWhile (· != '=') with
  | [] => none
  | typed => some (trim typed)

/-- A property parameter at a place: `val` or `var`, not inside a word, then a name and a type. -/
def property : Pattern Parameter := fun before text =>
  if before.any isWord then none
  else
    let read (keyword : String) : Option (Parameter × List Char) := do
      let (name, rest) ← named keyword isWord text
      let type ← propertyType (← afterMark? ':' rest)
      return (⟨String.ofList name, String.ofList type⟩, [])
    ((read "val").or (read "var")).map fun (p, _) => (p, text.length)

/-- The properties among the parameters of the first class that has supertypes. -/
def dependencies (source : List Char) : List Parameter :=
  match match? (.ofReader constructorList) source with
  | none => []
  | some inside =>
    (Signature.splitTopLevel (· = ',') inside).filterMap fun part => match? property (trim part)

/-! ## Methods -/

/-- A return type behind a closing bracket, and what follows it. -/
def returnTypeAfter (text : List Char) : Option (List Char × List Char) := do
  span1? isTypeChar (trimStart (← afterMark? ':' text))

def method (text : List Char) : Option (Method × List Char) := do
  let (name, rest) ← named "fun" isWord text
  let (inside, returnType, rest) ← upToBracket returnTypeAfter (← afterMark? '(' rest)
  return (
    { name := String.ofList name
      returnType := String.ofList returnType
      parameters := Signature.parameters (String.ofList ('(' :: inside ++ [')'])) }, rest)

def methods (source : List Char) : List Method := allMatches (.ofReader method) source

/-! ## The descriptor -/

/-- The descriptor of the service that a source declares. -/
def descriptor (source : String) : Descriptor :=
  let text := source.toList
  { package := package text
    className := className text
    dependencies := dependencies text
    methods := methods text
    imports := imports text }

end Testsmith.Source
