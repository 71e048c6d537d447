import Testsmith.Json.Basic
import Testsmith.Number.Shortest
import Testsmith.Text.Quoted

/-!
# Writing JSON

The text of a JSON value. Strings keep every character as it is except the quote, the backslash and
the control characters below the space, which are escaped. Laid out, an array or object has each
member on a line of its own, two blanks deeper than its brackets; without members it is written
`[]` or `{}` in one piece. A number that is not finite has no JSON text and is written as null.
-/

namespace Testsmith.Json

open Text (hex)

def escape (c : Char) : List Char :=
  if c = '"' then ['\\', '"']
  else if c = '\\' then ['\\', '\\']
  else if c = '\n' then ['\\', 'n']
  else if c = '\t' then ['\\', 't']
  else if c = '\r' then ['\\', 'r']
  else if c.toNat = 8 then ['\\', 'b']
  else if c.toNat = 12 then ['\\', 'f']
  else if c.toNat < 32 then '\\' :: 'u' :: hex 4 c.toNat
  else [c]

def quote (s : String) : List Char := '"' :: (s.toList.flatMap escape ++ ['"'])

def floatText (x : Binary64) : List Char :=
  if x.isFinite then (x.textIn .compact).toList else "null".toList

def intText (i : Int) : List Char := (toString i).toList

def boolText (b : Bool) : List Char := if b then "true".toList else "false".toList

/-! ## Laid out -/

/-- A line end and the blanks in front of the next line. -/
def lineBreak (depth : Nat) : List Char := '\n' :: List.replicate (2 * depth) ' '

def block (depth : Nat) (opening closing : Char) : List (List Char) → List Char
  | [] => [opening, closing]
  | first :: rest =>
    opening :: (lineBreak (depth + 1) ++ first ++
      rest.flatMap (fun text => ',' :: (lineBreak (depth + 1) ++ text)) ++
      lineBreak depth ++ [closing])

mutual

/-- The text of a value whose first line stands at a depth. -/
def prettyAt (depth : Nat) : Json → List Char
  | .null => "null".toList
  | .bool b => boolText b
  | .int i => intText i
  | .float x => floatText x
  | .str s => quote s
  | .arr items => block depth '[' ']' (prettyItems (depth + 1) items)
  | .obj fields => block depth '\x7b' '\x7d' (prettyFields (depth + 1) fields)

def prettyItems (depth : Nat) : List Json → List (List Char)
  | [] => []
  | item :: rest => prettyAt depth item :: prettyItems depth rest

def prettyFields (depth : Nat) : List (String × Json) → List (List Char)
  | [] => []
  | field :: rest => prettyField depth field :: prettyFields depth rest

def prettyField (depth : Nat) : String × Json → List Char
  | (key, value) => quote key ++ ':' :: ' ' :: prettyAt depth value

end

def pretty (j : Json) : String := String.ofList (prettyAt 0 j)

/-! ## In one line -/

def row (opening closing : Char) (texts : List (List Char)) : List Char :=
  opening :: ((List.intersperse [','] texts).flatten ++ [closing])

mutual

def compactChars : Json → List Char
  | .null => "null".toList
  | .bool b => boolText b
  | .int i => intText i
  | .float x => floatText x
  | .str s => quote s
  | .arr items => row '[' ']' (compactItems items)
  | .obj fields => row '\x7b' '\x7d' (compactFields fields)

def compactItems : List Json → List (List Char)
  | [] => []
  | item :: rest => compactChars item :: compactItems rest

def compactFields : List (String × Json) → List (List Char)
  | [] => []
  | field :: rest => compactField field :: compactFields rest

def compactField : String × Json → List Char
  | (key, value) => quote key ++ ':' :: compactChars value

end

def compact (j : Json) : String := String.ofList (compactChars j)

example : pretty (.obj [("a", .arr [.int 1, .arr []])]) =
    "\x7b\n  \"a\": [\n    1,\n    []\n  ]\n\x7d" := by decide +kernel

end Testsmith.Json
