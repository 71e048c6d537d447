import Testsmith.Json.Basic
import Testsmith.Text.Quoted

/-!
# Writing TOML

Keys and values of a settings file. A key of ASCII letters, digits, underscores and hyphens is written
bare. Strings are written in ASCII: the quote, the backslash and five controls by letter, the other
controls and every character beyond ASCII by the code units of UTF-16. Truth
values, integers, strings and lists of these can be written.
-/

namespace Testsmith.Toml

open Text (hex)

def codeUnit (n : Nat) : List Char := '\\' :: 'u' :: hex 4 n

def escape (c : Char) : List Char :=
  let n := c.toNat
  if c = '"' then ['\\', '"']
  else if c = '\\' then ['\\', '\\']
  else if c = '\n' then ['\\', 'n']
  else if c = '\t' then ['\\', 't']
  else if c = '\r' then ['\\', 'r']
  else if n = 8 then ['\\', 'b']
  else if n = 12 then ['\\', 'f']
  else if 32 ≤ n && n < 127 then [c]
  else if n < 0x10000 then codeUnit n
  else codeUnit (0xD800 + (n - 0x10000) / 0x400) ++ codeUnit (0xDC00 + (n - 0x10000) % 0x400)

def quoteChars (s : String) : List Char := '"' :: (s.toList.flatMap escape ++ ['"'])

def quote (s : String) : String := String.ofList (quoteChars s)

/-- A character of a key that is written bare. -/
def isBareKeyChar (c : Char) : Bool := c.isAlphanum || c = '_' || c = '-'

def keyText (name : String) : String :=
  if name.toList ≠ [] ∧ name.toList.all isBareKeyChar then name else quote name

/-- The kinds of value that cannot be written. -/
inductive Unwritable where
  | null
  | float
  | table
  deriving DecidableEq, Repr, Inhabited

mutual

def valueChars : Json → Except Unwritable (List Char)
  | .bool b => .ok (if b then "true".toList else "false".toList)
  | .int i => .ok (toString i).toList
  | .str s => .ok (quoteChars s)
  | .arr items => (itemsChars items).map fun texts =>
      '[' :: ((List.intersperse [',', ' '] texts).flatten ++ [']'])
  | .null => .error .null
  | .float _ => .error .float
  | .obj _ => .error .table

def itemsChars : List Json → Except Unwritable (List (List Char))
  | [] => .ok []
  | item :: rest =>
    match valueChars item with
    | .error e => .error e
    | .ok text => (itemsChars rest).map (text :: ·)

end

def valueText (j : Json) : Except Unwritable String := (valueChars j).map String.ofList

example : quote "é\n" = "\"\\u00e9\\n\"" := by decide
example : keyText "max_retries" = "max_retries" ∧ keyText "a.b" = "\"a.b\"" := by decide

end Testsmith.Toml
