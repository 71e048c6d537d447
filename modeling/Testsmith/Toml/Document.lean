import Testsmith.Toml.Scalar
import Testsmith.Toml.Writer

/-!
# TOML documents

Reading a TOML document into its root table. A statement sets a key, opens a table, or opens a further
table of an array. Tables and arrays that are written as values are frozen: nothing can be added to
them. A table opens only once by its own header, and a table that dotted keys have made cannot be
opened by a later header. An array of tables is reached through its last table.

Values may be nested to any depth: how deep a reader can go before its stack is used up depends on its
caller, and is left out.
-/

namespace Testsmith.Toml

abbrev Key := List String

/-! ## Keys -/

/-- One part of a key, with the blanks behind it. -/
def keyPart (text : List Char) : Read String :=
  match Text.span1? isBareKeyChar text with
  | some (name, rest) => .ok (String.ofList name, skipBlanks rest)
  | none => (lineString text).map fun (name, rest) => (String.ofList name, skipBlanks rest)

/-- A key whose parts are separated by points. The number bounds the parts. -/
def keyFrom : Nat → List Char → Read Key
  | 0, _ => malformed
  | bound + 1, text =>
    match keyPart text with
    | .error e => .error e
    | .ok (part, '.' :: rest) =>
      match keyFrom bound (skipBlanks rest) with
      | .ok (parts, rest) => .ok (part :: parts, rest)
      | .error e => .error e
    | .ok (part, rest) => .ok ([part], rest)

def readKey (text : List Char) : Read Key := keyFrom (text.length + 1) text

/-! ## Tables -/

/-- Changes the table behind a key; tables that are missing on the way are made. A list on the way
stands for its last table where `throughLists` holds. -/
def changeAt (throughLists : Bool) (change : Json.Fields → Except ReadError Json.Fields) :
    Key → Json.Fields → Except ReadError Json.Fields
  | [], table => change table
  | part :: rest, table =>
    match Json.Fields.get? table part with
    | none => (changeAt throughLists change rest []).map fun inner => table.set part (.obj inner)
    | some (.obj inner) =>
      (changeAt throughLists change rest inner).map fun inner => table.set part (.obj inner)
    | some (.arr items) =>
      match throughLists, items.getLast? with
      | true, some (.obj inner) =>
        (changeAt throughLists change rest inner).map fun inner =>
          table.set part (.arr (items.dropLast ++ [.obj inner]))
      | _, _ => malformed
    | some _ => malformed

def addNew (name : String) (value : Json) (table : Json.Fields) : Except ReadError Json.Fields :=
  if (Json.Fields.get? table name).isSome then malformed else .ok (table.set name value)

/-- Adds an empty table to the array behind a key, or starts the array. -/
def addTable (name : String) (table : Json.Fields) : Except ReadError Json.Fields :=
  match Json.Fields.get? table name with
  | none => .ok (table.set name (.arr [.obj []]))
  | some (.arr items) => .ok (table.set name (.arr (items ++ [.obj []])))
  | some _ => malformed

/-- The key is a table or an array of values, or inside one. -/
def isFrozen (frozen : List Key) (key : Key) : Bool := frozen.any (·.isPrefixOf key)

def isNested : Json → Bool
  | .obj _ => true
  | .arr _ => true
  | _ => false

/-! ## Values -/

def keyAndEquals (text : List Char) : Read Key :=
  match readKey text with
  | .ok (key, '=' :: rest) => .ok (key, skipBlanks rest)
  | .ok _ => malformed
  | .error e => .error e

mutual

/-- A value. The number bounds the depth of the calls; twice the length of the text is enough. -/
def value : Nat → List Char → Read Json
  | 0, _ => malformed
  | fuel + 1, '[' :: rest =>
    match skipSpace false rest with
    | .error e => .error e
    | .ok (']' :: rest) => .ok (.arr [], rest)
    | .ok rest => (items fuel rest).map fun (items, rest) => (.arr items, rest)
  | fuel + 1, '\x7b' :: rest =>
    match skipBlanks rest with
    | '\x7d' :: rest => .ok (.obj [], rest)
    | rest => (pairs fuel [] [] rest).map fun (table, rest) => (.obj table, rest)
  | _ + 1, c :: rest =>
    if c = '"' || c = '\'' then (string (c :: rest)).map fun (s, rest) => (.str s, rest)
    else plainScalar (c :: rest)
  | _ + 1, [] => malformed

/-- The items of an array up to its closing bracket, at least one. A comma may stand behind the last
one. -/
def items : Nat → List Char → Read (List Json)
  | 0, _ => malformed
  | fuel + 1, text =>
    match value fuel text with
    | .error e => .error e
    | .ok (item, rest) =>
      match skipSpace false rest with
      | .error e => .error e
      | .ok (']' :: rest) => .ok ([item], rest)
      | .ok (',' :: rest) =>
        match skipSpace false rest with
        | .error e => .error e
        | .ok (']' :: rest) => .ok ([item], rest)
        | .ok rest => (items fuel rest).map fun (more, rest) => (item :: more, rest)
      | .ok _ => malformed

/-- The pairs of an inline table up to its closing brace, at least one, added to those before. -/
def pairs : Nat → List Key → Json.Fields → List Char → Read Json.Fields
  | 0, _, _, _ => malformed
  | fuel + 1, frozen, table, text =>
    match keyAndEquals text with
    | .error e => .error e
    | .ok (key, rest) =>
      match value fuel rest with
      | .error e => .error e
      | .ok (value, rest) =>
        if isFrozen frozen key then malformed
        else match changeAt false (addNew (key.getLastD "") value) key.dropLast table with
          | .error e => .error e
          | .ok table =>
            match skipBlanks rest with
            | '\x7d' :: rest => .ok (table, rest)
            | ',' :: rest =>
              pairs fuel (if isNested value then key :: frozen else frozen) table (skipBlanks rest)
            | _ => malformed

end

def readValue (text : List Char) : Read Json := value (2 * text.length + 2) text

/-! ## Statements -/

/-- What was read of a document. -/
structure State where
  root : Json.Fields := []
  /-- The table that keys are set in. -/
  header : Key := []
  /-- The tables that no header may open any more. -/
  opened : List Key := []
  /-- The tables that dotted keys of this section have made: the next header closes them. -/
  dotted : List Key := []
  /-- The tables and arrays that were written as values. -/
  frozen : List Key := []

/-- Sets a key in the table of the last header. -/
def setKey (s : State) (key : Key) (value : Json) : Except ReadError State := do
  let between := (List.range (key.length - 1)).map fun i => s.header ++ key.take (i + 1)
  let parent := s.header ++ key.dropLast
  if between.any s.opened.contains || isFrozen s.frozen parent then malformed
  else
    let root ← changeAt true (addNew (key.getLastD "") value) parent s.root
    return { s with
      root
      dotted := s.dotted ++ between
      frozen := if isNested value then (s.header ++ key) :: s.frozen else s.frozen }

def openTable (s : State) (key : Key) : Except ReadError State := do
  let opened := s.opened ++ s.dotted
  if opened.contains key || isFrozen s.frozen key then malformed
  else
    let root ← changeAt true .ok key s.root
    return { s with root, header := key, opened := key :: opened, dotted := [] }

/-- Opens a further table of an array. What was known of the tables in it is forgotten. -/
def openItem (s : State) (key : Key) : Except ReadError State := do
  if isFrozen s.frozen key then malformed
  else
    let root ← changeAt true (addTable (key.getLastD "")) key.dropLast s.root
    let outside := fun (k : Key) => !key.isPrefixOf k
    return {
      root
      header := key
      opened := key :: (s.opened ++ s.dotted).filter outside
      dotted := []
      frozen := s.frozen.filter outside }

def headerStatement (s : State) (text : List Char) : Except ReadError (State × List Char) :=
  match Text.after? "[[" text with
  | some rest => do
    let (key, rest) ← readKey (skipBlanks rest)
    let s ← openItem s key
    match Text.after? "]]" rest with
    | some rest => return (s, rest)
    | none => malformed
  | none => do
    let (key, rest) ← readKey (skipBlanks (text.drop 1))
    let s ← openTable s key
    match rest with
    | ']' :: rest => return (s, rest)
    | _ => malformed

/-- A key and its value in front of a text. -/
def pairStatement (s : State) (text : List Char) : Except ReadError (State × List Char) := do
  let (key, rest) ← keyAndEquals text
  let (value, rest) ← readValue rest
  let s ← setKey s key value
  return (s, rest)

/-- What starts a line other than blanks: a statement or a comment. -/
def statement (s : State) : List Char → Read State
  | [] => .ok (s, [])
  | c :: rest =>
    if isBareKeyChar c || c = '"' || c = '\'' then pairStatement s (c :: rest)
    else if c = '[' then headerStatement s (c :: rest)
    else if c = '#' then .ok (s, c :: rest)
    else malformed

/-- The lines of a document. The number bounds them. -/
def lines : Nat → State → List Char → Except ReadError State
  | 0, _, _ => malformed
  | bound + 1, s, text =>
    match skipBlanks text with
    | [] => .ok s
    | '\n' :: rest => lines bound s rest
    | text =>
      match statement s text with
      | .error e => .error e
      | .ok (s, rest) =>
        match skipComment (skipBlanks rest) with
        | .error e => .error e
        | .ok [] => .ok s
        | .ok ('\n' :: rest) => lines bound s rest
        | .ok _ => malformed

def parse (document : String) : Except ReadError Json.Fields :=
  (lines (document.length + 1) {} document.toList).map (·.root)

end Testsmith.Toml
