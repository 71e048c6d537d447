import Testsmith.Schema.Checked
import Testsmith.Text.Lowercase

/-!
# Symbols

The symbol tree that a static analyser supplies. A node has a name, a kind, a signature as its detail
and child nodes, and any of them may be missing. The kind is a number of the language server
protocol or a tag such as `method`. Reading a node ignores fields it does not know, takes null for no
children, and leaves out a child that is malformed without touching its neighbours.
-/

namespace Testsmith

/-- The kind of a symbol. -/
inductive SymbolKind where
  | number (n : Int)
  | tag (name : String)
  deriving DecidableEq, Repr, Inhabited

/-- A node of a symbol tree. -/
inductive Symbol where
  | node (name : Option String) (kind : Option SymbolKind) (detail : Option String)
      (children : List Symbol)
  deriving Repr, Inhabited

namespace Symbol

def name : Symbol → Option String
  | .node name _ _ _ => name

def kind : Symbol → Option SymbolKind
  | .node _ kind _ _ => kind

def detail : Symbol → Option String
  | .node _ _ detail _ => detail

def children : Symbol → List Symbol
  | .node _ _ _ children => children

/-- A symbol of which nothing is known. -/
def blank : Symbol := .node none none none []

/-! ## Kinds -/

/-- Kinds that mean the same: a tag counts in any letter case. -/
def hasKind (numbers : List Int) (tags : List String) (s : Symbol) : Bool :=
  match s.kind with
  | some (.number n) => numbers.contains n
  | some (.tag name) => tags.contains (String.ofList (Text.lowerAll name.toList))
  | none => false

def isClass (s : Symbol) : Bool := s.hasKind [5] ["class"]

def isMethod (s : Symbol) : Bool := s.hasKind [6, 12] ["method", "function"]

def isConstructor (s : Symbol) : Bool := s.hasKind [9] ["constructor"]

/-! ## Reading -/

open Schema

/-- A kind: a number and a text stand for themselves, and what can be read as an integer is one. What
is neither has the issues of both. -/
def readKind : Reader SymbolKind
  | .int n => .ok (.number n)
  | .str s => .ok (.tag s)
  | j =>
    match integer j, text j with
    | .ok n, _ => .ok (.number n)
    | .failed _, .ok s => .ok (.tag s)
    | .failed noInt, .failed noText =>
      .failed (noInt.map (·.inside (.key "int")) ++ noText.map (·.inside (.key "str")))

mutual

def read : Json → Checked Symbol
  | .obj fields =>
    Symbol.node
      <$> withDefault fields "name" none (optional text)
      <*> withDefault fields "kind" none (optional readKind)
      <*> withDefault fields "detail" none (optional text)
      <*> (readChildrenField fields).under (.key "children")
  | _ => .fail (.notRecord "SymbolNode")

/-- The children that the fields of a symbol name. -/
def readChildrenField : List (String × Json) → Checked (List Symbol)
  | [] => .ok []
  | field :: rest =>
    if field.1 = "children" then readFieldValue field else readChildrenField rest

def readFieldValue : String × Json → Checked (List Symbol)
  | (_, j) => readChildren j

def readChildren : Json → Checked (List Symbol)
  | .null => .ok []
  | .arr items => .ok (readEach items)
  | _ => .fail .notList

def readEach : List Json → List Symbol
  | [] => []
  | item :: rest =>
    match read item with
    | .ok s => s :: readEach rest
    | .failed _ => readEach rest

end

theorem readChildrenField_eq (fields : Json.Fields) : readChildrenField fields =
    ((fields.get? "children").map readChildren).getD (.ok []) := by
  induction fields with
  | nil => rw [readChildrenField]; rfl
  | cons field fields ih =>
    obtain ⟨key, j⟩ := field
    rw [readChildrenField]
    by_cases hkey : key = "children"
    · subst hkey
      rw [if_pos rfl, readFieldValue]
      rfl
    · rw [if_neg hkey, ih, Json.Fields.get?_cons_of_ne fields (Ne.symm hkey)]

/-- The symbol that analyser data stands for: a list is a symbol with these children, and what cannot
be read is a symbol of which nothing is known. -/
def ofData (data : Json) : Symbol :=
  let data := match data with
    | .arr items => .obj [("children", .arr items)]
    | j => j
  (read data).toOption.getD blank

/-- The symbol that describes the class: the only class of an overview that has no members of its
own, else the symbol itself. -/
def classSymbol (s : Symbol) : Symbol :=
  if s.children.any fun c => c.isMethod || c.isConstructor then s
  else match s.children.filter isClass with
    | [c] => c
    | _ => s

end Symbol

end Testsmith
