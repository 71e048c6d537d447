import Testsmith.Json.Basic
import Testsmith.Number.Numeral
import Testsmith.Text.Scan

/-!
# Reading JSON

The value of a JSON text. Besides the standard grammar, the three names `NaN`, `Infinity` and
`-Infinity` are numbers; control characters may not stand in strings, and of several fields with one
key the last value counts, at the place of the first. Integers have a limit on their digits, or none. A
problem is reported where it shows: while reading, that place is measured by the number of characters
left, and turned into line and column at the end.
-/

namespace Testsmith.Json

open Text (span)

/-- What is wrong with a text. -/
inductive Problem where
  | noValue
  | noPropertyName
  | noColon
  | noComma
  | extraData
  | unterminatedString
  | controlCharacter
  | badEscape
  | badCodePoint
  | byteOrderMark
  | tooManyDigits (limit count : Nat)
  deriving DecidableEq, Repr, Inhabited

/-- A problem, with the number of characters left where it shows. -/
structure Stop where
  problem : Problem
  left : Nat
  deriving Repr

/-- A reader gives a value and what follows it, or stops. -/
abbrev Read (α : Type) := Except Stop (α × List Char)

def isSpace (c : Char) : Bool := c = ' ' || c = '\t' || c = '\n' || c = '\r'

def skipSpace (text : List Char) : List Char := text.dropWhile isSpace

/-! ## Strings -/

def hexValue? (c : Char) : Option Nat :=
  if c.isDigit then some (c.toNat - 48)
  else if 'a' ≤ c ∧ c ≤ 'f' then some (c.toNat - 87)
  else if 'A' ≤ c ∧ c ≤ 'F' then some (c.toNat - 55)
  else none

/-- The number that the first four characters write in hexadecimal. -/
def hexQuad? : List Char → Option Nat
  | a :: b :: c :: d :: _ => do
    return ((← hexValue? a) * 16 + (← hexValue? b)) * 256 + (← hexValue? c) * 16 + (← hexValue? d)
  | _ => none

/-- A character from a code point; a surrogate that stands alone is replaced. -/
def codePoint (n : Nat) : Char :=
  if 0xD800 ≤ n && n ≤ 0xDFFF then Char.ofNat 0xFFFD else Char.ofNat n

/-- The character of a code point escape, given what follows its `u`, and the number of characters it
takes. Two escapes can make one character beyond the basic plane. -/
def codePointEscape (text : List Char) : Except Stop (Char × Nat) :=
  if text.length < 5 then .error ⟨.badCodePoint, text.length + 1⟩
  else match hexQuad? text with
    | none => .error ⟨.badCodePoint, text.length + 1⟩
    | some high =>
      if 0xD800 ≤ high ∧ high < 0xDC00 ∧ 10 < text.length ∧ (text.drop 4).take 2 = ['\\', 'u'] then
        match hexQuad? (text.drop 6) with
        | none => .error ⟨.badCodePoint, text.length - 5⟩
        | some low =>
          if 0xDC00 ≤ low ∧ low < 0xE000 then
            .ok (Char.ofNat (0x10000 + (high - 0xD800) * 0x400 + (low - 0xDC00)), 10)
          else .ok (codePoint high, 4)
      else .ok (codePoint high, 4)

/-- The character of an escape, given what follows its backslash, and the number of characters it
takes. `opening` is the number of characters left at the string's first quote. -/
def escapeValue (opening : Nat) : List Char → Except Stop (Char × Nat)
  | [] => .error ⟨.unterminatedString, opening⟩
  | 'u' :: rest => (codePointEscape rest).map fun (c, width) => (c, width + 1)
  | '"' :: _ => .ok ('"', 1)
  | '\\' :: _ => .ok ('\\', 1)
  | '/' :: _ => .ok ('/', 1)
  | 'b' :: _ => .ok ('\x08', 1)
  | 'f' :: _ => .ok ('\x0c', 1)
  | 'n' :: _ => .ok ('\n', 1)
  | 'r' :: _ => .ok ('\r', 1)
  | 't' :: _ => .ok ('\t', 1)
  | rest => .error ⟨.badEscape, rest.length + 1⟩

/-- Puts a character in front of what a reader gives. -/
def prepend (c : Char) : Read (List Char) → Read (List Char)
  | .ok (text, rest) => .ok (c :: text, rest)
  | .error stop => .error stop

/-- The characters of a string after its first quote. The first `covered` characters belong to the
escape before. -/
def stringBody (opening : Nat) : (covered : Nat) → List Char → Read (List Char)
  | _, [] => .error ⟨.unterminatedString, opening⟩
  | covered + 1, _ :: rest => stringBody opening covered rest
  | 0, c :: rest =>
    if c = '"' then .ok ([], rest)
    else if c = '\\' then
      match escapeValue opening rest with
      | .error stop => .error stop
      | .ok (value, width) => prepend value (stringBody opening width rest)
    else if c.toNat < 32 then .error ⟨.controlCharacter, rest.length + 1⟩
    else prepend c (stringBody opening 0 rest)

def stringAfterQuote (text : List Char) : Read String :=
  match stringBody (text.length + 1) 0 text with
  | .ok (chars, rest) => .ok (String.ofList chars, rest)
  | .error stop => .error stop

/-! ## Numbers -/

/-- The digits of an integer in front: a zero alone, or a row that starts with another digit. -/
def integerDigits : List Char → List Char × List Char
  | '0' :: rest => (['0'], rest)
  | text => span Char.isDigit text

/-- The digits after a point, where the point has a digit behind it. -/
def fractionDigits : List Char → List Char × List Char
  | '.' :: rest =>
    match span Char.isDigit rest with
    | ([], _) => ([], '.' :: rest)
    | found => found
  | text => ([], text)

def digitsValue (digits : List Char) : Nat := digits.foldl (fun n c => 10 * n + (c.toNat - 48)) 0

/-- The exponent behind a number, if there is one. -/
def exponentPart (text : List Char) : Option (Int × List Char) :=
  match text with
  | e :: rest =>
    if e = 'e' || e = 'E' then
      let (negative, rest) := Numeral.sign rest
      match span Char.isDigit rest with
      | ([], _) => none
      | (digits, rest) =>
        some (if negative then -(digitsValue digits : Int) else digitsValue digits, rest)
    else none
  | [] => none

/-- A number without its sign. An integer must not have more digits than the limit says. -/
def unsignedNumber (limit : Option Nat) (negative : Bool) (text : List Char) :
    Option (Except Stop Json × List Char) :=
  match integerDigits text with
  | ([], _) => none
  | (whole, rest) =>
    let (fraction, rest) := fractionDigits rest
    match fraction, exponentPart rest with
    | [], none =>
      match limit.filter (· < whole.length) with
      | some most => some (.error ⟨.tooManyDigits most whole.length, text.length⟩, rest)
      | none =>
        let n := digitsValue whole
        some (.ok (.int (if negative then -(n : Int) else n)), rest)
    | fraction, exponent =>
      let (power, rest) := exponent.getD (0, rest)
      let digits := whole ++ fraction
      some (.ok (.float (Binary64.ofDecimal negative (digitsValue digits) digits.length
        (power - fraction.length))), rest)

def number (limit : Option Nat) : List Char → Option (Except Stop Json × List Char)
  | '-' :: rest => unsignedNumber limit true rest
  | text => unsignedNumber limit false text

def names : List (String × Json) :=
  [("null", .null), ("true", .bool true), ("false", .bool false), ("NaN", .float .nan),
    ("Infinity", .float (.infinite false)), ("-Infinity", .float (.infinite true))]

/-- The name in front, with what it stands for and what follows it. -/
def named (text : List Char) : Option (Json × List Char) :=
  names.findSome? fun (name, value) => (Text.after? name text).map (value, ·)

def scalar (limit : Option Nat) (text : List Char) : Read Json :=
  match named text with
  | some found => .ok found
  | none =>
    match number limit text with
    | some (.ok value, rest) => .ok (value, rest)
    | some (.error stop, _) => .error stop
    | none => .error ⟨.noValue, text.length⟩

/-! ## Values -/

mutual

/-- A value. The number bounds the depth of the calls; twice the length of the text is enough. -/
def value (limit : Option Nat) : Nat → List Char → Read Json
  | 0, text => .error ⟨.noValue, text.length⟩
  | _ + 1, '"' :: rest =>
    match stringAfterQuote rest with
    | .ok (s, rest) => .ok (.str s, rest)
    | .error stop => .error stop
  | fuel + 1, '[' :: rest =>
    match skipSpace rest with
    | ']' :: rest => .ok (.arr [], rest)
    | rest =>
      match items limit fuel rest with
      | .ok (items, rest) => .ok (.arr items, rest)
      | .error stop => .error stop
  | fuel + 1, '\x7b' :: rest =>
    match skipSpace rest with
    | '\x7d' :: rest => .ok (.obj [], rest)
    | rest =>
      match fields limit fuel [] rest with
      | .ok (fields, rest) => .ok (.obj fields, rest)
      | .error stop => .error stop
  | _ + 1, text => scalar limit text

/-- The items of an array up to its closing bracket, at least one. -/
def items (limit : Option Nat) : Nat → List Char → Read (List Json)
  | 0, text => .error ⟨.noValue, text.length⟩
  | fuel + 1, text =>
    match value limit fuel text with
    | .error stop => .error stop
    | .ok (item, rest) =>
      match skipSpace rest with
      | ']' :: rest => .ok ([item], rest)
      | ',' :: rest =>
        match items limit fuel (skipSpace rest) with
        | .ok (more, rest) => .ok (item :: more, rest)
        | .error stop => .error stop
      | rest => .error ⟨.noComma, rest.length⟩

/-- The fields of an object up to its closing brace, at least one, set on those read before. -/
def fields (limit : Option Nat) : Nat → Fields → List Char → Read Fields
  | 0, _, text => .error ⟨.noValue, text.length⟩
  | fuel + 1, before, '"' :: rest =>
    match stringAfterQuote rest with
    | .error stop => .error stop
    | .ok (key, rest) =>
      match skipSpace rest with
      | ':' :: rest =>
        match value limit fuel (skipSpace rest) with
        | .error stop => .error stop
        | .ok (value, rest) =>
          let known := Fields.set before key value
          match skipSpace rest with
          | '\x7d' :: rest => .ok (known, rest)
          | ',' :: rest => fields limit fuel known (skipSpace rest)
          | rest => .error ⟨.noComma, rest.length⟩
      | rest => .error ⟨.noColon, rest.length⟩
  | _ + 1, _, text => .error ⟨.noPropertyName, text.length⟩

end

def document (limit : Option Nat) (text : List Char) : Except Stop Json :=
  if text.head? = some (Char.ofNat 0xFEFF) then .error ⟨.byteOrderMark, text.length⟩
  else match value limit (2 * text.length + 2) (skipSpace text) with
    | .error stop => .error stop
    | .ok (value, rest) =>
      match skipSpace rest with
      | [] => .ok value
      | rest => .error ⟨.extraData, rest.length⟩

/-! ## Problems -/

/-- A problem at a place of a text: line and column count from one, the offset from zero. -/
structure ReadError where
  problem : Problem
  line : Nat
  column : Nat
  offset : Nat
  deriving Repr

/-- The value of a text, or what is wrong with it and where. -/
def parse (s : String) (limit : Option Nat := some Numeral.maxDigits) : Except ReadError Json :=
  match document limit s.toList with
  | .ok value => .ok value
  | .error ⟨problem, left⟩ =>
    let before := s.toList.take (s.toList.length - left)
    .error {
      problem
      line := before.count '\n' + 1
      column := (before.reverse.takeWhile (· != '\n')).length + 1
      offset := before.length }

def Problem.text : Problem → String
  | .noValue => "Expecting value"
  | .noPropertyName => "Expecting property name enclosed in double quotes"
  | .noColon => "Expecting ':' delimiter"
  | .noComma => "Expecting ',' delimiter"
  | .extraData => "Extra data"
  | .unterminatedString => "Unterminated string starting at"
  | .controlCharacter => "Invalid control character at"
  | .badEscape => "Invalid \\escape"
  | .badCodePoint => "Invalid \\uXXXX escape"
  | .byteOrderMark => "Unexpected UTF-8 BOM (decode using utf-8-sig)"
  | .tooManyDigits limit count =>
    s!"Exceeds the limit ({limit} digits) for integer string conversion: " ++
      s!"value has {count} digits; use sys.set_int_max_str_digits() to increase the limit"

/-- The message about a text. The limit on digits is told without a place. -/
def ReadError.message (e : ReadError) : String :=
  match e.problem with
  | .tooManyDigits .. => e.problem.text
  | problem => s!"{problem.text}: line {e.line} column {e.column} (char {e.offset})"

end Testsmith.Json
