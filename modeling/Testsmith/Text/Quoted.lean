import Testsmith.Text.Printable

/-!
# Quoted text

How a message shows a text: between single quotes, or between double quotes where the text holds a
single quote and no double quote. The backslash and the quote in use are written after a backslash,
tab and line ends by letter, and whatever does not print by its code point in two, four or eight
hexadecimal digits.
-/

namespace Testsmith.Text

def hexDigit (n : Nat) : Char :=
  if n < 10 then Char.ofNat (48 + n) else Char.ofNat (87 + n)

def hex : (width : Nat) → Nat → List Char
  | 0, _ => []
  | width + 1, n => hex width (n / 16) ++ [hexDigit (n % 16)]

def quoteChar (mark c : Char) : List Char :=
  if c = '\\' || c = mark then ['\\', c]
  else if c = '\t' then ['\\', 't']
  else if c = '\n' then ['\\', 'n']
  else if c = '\r' then ['\\', 'r']
  else if isPrintable c then [c]
  else if c.toNat < 0x100 then '\\' :: 'x' :: hex 2 c.toNat
  else if c.toNat < 0x10000 then '\\' :: 'u' :: hex 4 c.toNat
  else '\\' :: 'U' :: hex 8 c.toNat

def quoteMark (text : List Char) : Char :=
  if text.contains '\'' && !text.contains '"' then '"' else '\''

def quoted (s : String) : String :=
  let mark := quoteMark s.toList
  String.ofList (mark :: s.toList.flatMap (quoteChar mark) ++ [mark])

example : quoted "a'b\n" = "\"a'b\\n\"" := by decide
example : quoted "\x00\x7f" = "'\\x00\\x7f'" := by decide

end Testsmith.Text
