import Testsmith.Json.Basic
import Testsmith.Json.Reader

/-!
# TOML scalars

Strings, numbers, dates and times of a TOML document. A reader takes what stands in front of a text and
gives its value and what follows. Line ends are line feeds. No setting is a date or a time, so these
are checked and then read as null, which no setting accepts either.
-/

namespace Testsmith.Toml

/-- Why a document cannot be read. -/
inductive ReadError where
  | malformed
  /-- A decimal integer has too many digits to be converted. -/
  | tooManyDigits (count : Nat)
  deriving DecidableEq, Repr, Inhabited

/-- A reader gives a value and what follows it. -/
abbrev Read (α : Type) := Except ReadError (α × List Char)

def malformed {α : Type} : Except ReadError α := .error .malformed

/-! ## Blanks and comments -/

def isBlank (c : Char) : Bool := c = ' ' || c = '\t'

def skipBlanks (text : List Char) : List Char := text.dropWhile isBlank

/-- A character that may not stand in a comment or a string of one line. -/
def isIllegal (c : Char) : Bool := (c.toNat < 32 && c ≠ '\t') || c.toNat = 127

/-- What follows a comment: the line end, or nothing. -/
def skipComment : List Char → Except ReadError (List Char)
  | '#' :: rest =>
    if (rest.takeWhile (· != '\n')).any isIllegal then malformed
    else .ok (rest.dropWhile (· != '\n'))
  | text => .ok text

/-- What follows the blanks, line ends and comments between the items of an array. -/
def skipSpace : (inComment : Bool) → List Char → Except ReadError (List Char)
  | _, [] => .ok []
  | true, c :: rest =>
    if c = '\n' then skipSpace false rest
    else if isIllegal c then malformed
    else skipSpace true rest
  | false, c :: rest =>
    if isBlank c || c = '\n' then skipSpace false rest
    else if c = '#' then skipSpace true rest
    else .ok (c :: rest)

/-! ## Strings -/

/-- The character that hexadecimal digits write, with the width of its escape. -/
def codePoint (width : Nat) (text : List Char) : Except ReadError (List Char × Nat) :=
  match (text.take width).mapM Json.hexValue? with
  | none => malformed
  | some digits =>
    let n := digits.foldl (fun n d => 16 * n + d) 0
    if digits.length = width ∧ n.isValidChar then .ok ([Char.ofNat n], width + 1) else malformed

/-- The width of a line continuation, given what follows its backslash: blanks, a line end, and all
blanks and line ends behind it. At the end of the text the line end may be missing. -/
def continuation (text : List Char) : Except ReadError (List Char × Nat) :=
  match text.dropWhile isBlank with
  | [] => .ok ([], text.length)
  | '\n' :: rest =>
    .ok ([], text.length - (rest.dropWhile fun c => isBlank c || c = '\n').length)
  | _ => malformed

/-- The characters of an escape, given what follows its backslash, and the width behind it. -/
def escapeValue (multiline : Bool) (text : List Char) : Except ReadError (List Char × Nat) :=
  match text with
  | [] => malformed
  | c :: rest =>
    if multiline && (isBlank c || c = '\n') then continuation text
    else if c = 'u' then codePoint 4 rest
    else if c = 'U' then codePoint 8 rest
    else match c with
      | 'b' => .ok (['\x08'], 1)
      | 't' => .ok (['\t'], 1)
      | 'n' => .ok (['\n'], 1)
      | 'f' => .ok (['\x0c'], 1)
      | 'r' => .ok (['\r'], 1)
      | '"' => .ok (['"'], 1)
      | '\\' => .ok (['\\'], 1)
      | _ => malformed

/-- Puts characters in front of what a reader gives. -/
def prepend (chars : List Char) : Read (List Char) → Read (List Char)
  | .ok (text, rest) => .ok (chars ++ text, rest)
  | .error e => .error e

/-- The characters of a string with escapes, after its first quotes. The first `covered` characters
belong to the escape before. -/
def basicBody (multiline : Bool) : (covered : Nat) → List Char → Read (List Char)
  | _, [] => malformed
  | covered + 1, _ :: rest => basicBody multiline covered rest
  | 0, c :: rest =>
    if c = '"' then
      if !multiline then .ok ([], rest)
      else if Text.startsWith "\"\"" rest then .ok ([], rest.drop 2)
      else prepend ['"'] (basicBody multiline 0 rest)
    else if c = '\\' then
      match escapeValue multiline rest with
      | .error e => .error e
      | .ok (chars, width) => prepend chars (basicBody multiline width rest)
    else if isIllegal c && !(multiline && c = '\n') then malformed
    else prepend [c] (basicBody multiline 0 rest)

/-- The characters of a string without escapes, after its first quotes and up to some others. -/
def literalBody (closing : String) (mayBreak : Bool) : List Char → Read (List Char)
  | [] => malformed
  | c :: rest =>
    match Text.after? closing (c :: rest) with
    | some rest => .ok ([], rest)
    | none =>
      if isIllegal c && !(mayBreak && c = '\n') then malformed
      else prepend [c] (literalBody closing mayBreak rest)

/-- A line end right after the opening quotes does not count. -/
def skipFirstLineEnd : List Char → List Char
  | '\n' :: rest => rest
  | text => text

/-- Up to two further quotes behind a string of several lines belong to it. -/
def withExtraQuotes (mark : Char) : Read (List Char) → Read (List Char)
  | .error e => .error e
  | .ok (text, rest) =>
    let extra := (rest.take 2).takeWhile (· == mark)
    .ok (text ++ extra, rest.drop extra.length)

def lineString : List Char → Read (List Char)
  | '"' :: rest => basicBody false 0 rest
  | '\'' :: rest => literalBody "'" false rest
  | _ => malformed

def string (text : List Char) : Read String :=
  let found :=
    match Text.after? "\"\"\"" text, Text.after? "'''" text with
    | some rest, _ => withExtraQuotes '"' (basicBody true 0 (skipFirstLineEnd rest))
    | none, some rest => withExtraQuotes '\'' (literalBody "'''" true (skipFirstLineEnd rest))
    | none, none => lineString text
  found.map fun (chars, rest) => (String.ofList chars, rest)

/-! ## Numbers -/

/-- The digits of a row, in which single underscores may stand, and what follows it. -/
def moreDigits (isDigit : Char → Bool) : List Char → List Char × List Char
  | [] => ([], [])
  | '_' :: d :: rest =>
    if isDigit d then
      let (digits, rest) := moreDigits isDigit rest
      (d :: digits, rest)
    else ([], '_' :: d :: rest)
  | c :: rest =>
    if isDigit c then
      let (digits, rest) := moreDigits isDigit rest
      (c :: digits, rest)
    else ([], c :: rest)

def digits? (isDigit : Char → Bool) : List Char → Option (List Char × List Char)
  | c :: rest =>
    if isDigit c then
      let (digits, rest) := moreDigits isDigit rest
      some (c :: digits, rest)
    else none
  | [] => none

def basedInteger? (text : List Char) : Option (Int × List Char) :=
  let read (mark : String) (base : Nat) : Option (Int × List Char) := do
    let isDigit (c : Char) : Bool := (Json.hexValue? c).any (· < base)
    let (digits, rest) ← digits? isDigit (← Text.after? mark text)
    let n := (digits.filterMap Json.hexValue?).foldl (fun n d => base * n + d) 0
    return ((n : Int), rest)
  ((read "0x" 16).or (read "0b" 2)).or (read "0o" 8)

/-- The digits in front of a point: a zero alone, or a row that starts with another digit. -/
def wholeDigits? : List Char → Option (List Char × List Char)
  | '0' :: rest => some (['0'], rest)
  | text => digits? Char.isDigit text

def fractionDigits (text : List Char) : List Char × List Char :=
  match text with
  | '.' :: rest => (digits? Char.isDigit rest).getD ([], text)
  | _ => ([], text)

def exponent? (text : List Char) : Option (Int × List Char) :=
  match text with
  | [] => none
  | c :: rest =>
    if c = 'e' || c = 'E' then do
      let (negative, rest) := Numeral.sign rest
      let (digits, rest) ← digits? Char.isDigit rest
      let n : Int := Json.digitsValue digits
      return (if negative then -n else n, rest)
    else none

/-- A decimal number: an integer, or a float where it has a fraction or an exponent. -/
def decimal? (text : List Char) : Option (Read Json) := do
  let (negative, unsigned) := Numeral.sign text
  let (whole, rest) ← wholeDigits? unsigned
  let (fraction, rest) := fractionDigits rest
  match fraction, exponent? rest with
  | [], none =>
    if Numeral.maxDigits < whole.length then return .error (.tooManyDigits whole.length)
    else
      let n : Int := Json.digitsValue whole
      return .ok (.int (if negative then -n else n), rest)
  | fraction, power =>
    let (power, rest) := power.getD (0, rest)
    let digits := whole ++ fraction
    return .ok (.float (Binary64.ofDecimal negative (Json.digitsValue digits) digits.length
      (power - fraction.length)), rest)

def floatNames : List (String × Binary64) :=
  [("inf", .infinite false), ("nan", .nan), ("+inf", .infinite false), ("-inf", .infinite true),
    ("+nan", .nan), ("-nan", .nan)]

/-! ## Dates and times -/

def fixedNumber? (width least greatest : Nat) (text : List Char) : Option (Nat × List Char) :=
  let digits := text.take width
  let n := Json.digitsValue digits
  if digits.length = width ∧ digits.all Char.isDigit ∧ least ≤ n ∧ n ≤ greatest then
    some (n, text.drop width)
  else none

def afterChar? (mark : Char) : List Char → Option (List Char)
  | c :: rest => if c = mark then some rest else none
  | [] => none

/-- What follows a time of day with seconds, of which fractions may be given. -/
def afterTime? (text : List Char) : Option (List Char) := do
  let (_, rest) ← fixedNumber? 2 0 23 text
  let (_, rest) ← fixedNumber? 2 0 59 (← afterChar? ':' rest)
  let (_, rest) ← fixedNumber? 2 0 59 (← afterChar? ':' rest)
  match rest with
  | '.' :: d :: more => return if d.isDigit then more.dropWhile Char.isDigit else rest
  | _ => return rest

/-- What follows the offset of a time, if there is one. -/
def afterOffset (text : List Char) : List Char :=
  match text with
  | [] => []
  | c :: rest =>
    if c = 'Z' || c = 'z' then rest
    else if c = '+' || c = '-' then
      let offset : Option (List Char) := do
        let (_, rest) ← fixedNumber? 2 0 23 rest
        let (_, rest) ← fixedNumber? 2 0 59 (← afterChar? ':' rest)
        return rest
      offset.getD text
    else text

def daysIn (year month : Nat) : Nat :=
  if month = 2 then
    if year % 4 = 0 ∧ (year % 100 ≠ 0 ∨ year % 400 = 0) then 29 else 28
  else if month = 4 ∨ month = 6 ∨ month = 9 ∨ month = 11 then 30
  else 31

/-- A date, which a time may follow: whether there is such a day, and what follows. -/
def date? (text : List Char) : Option (Bool × List Char) := do
  let (year, rest) ← fixedNumber? 4 0 9999 text
  let (month, rest) ← fixedNumber? 2 1 12 (← afterChar? '-' rest)
  let (day, rest) ← fixedNumber? 2 1 31 (← afterChar? '-' rest)
  let exists_ := decide (1 ≤ year ∧ day ≤ daysIn year month)
  let timed : Option (List Char) :=
    match rest with
    | c :: more => if c = 'T' || c = 't' || c = ' ' then (afterTime? more).map afterOffset else none
    | [] => none
  return (exists_, timed.getD rest)

/-! ## Any scalar -/

def plainScalar (text : List Char) : Read Json :=
  match Text.after? "true" text, Text.after? "false" text with
  | some rest, _ => .ok (.bool true, rest)
  | none, some rest => .ok (.bool false, rest)
  | none, none =>
    match date? text, afterTime? text with
    | some (exists_, rest), _ => if exists_ then .ok (.null, rest) else malformed
    | none, some rest => .ok (.null, rest)
    | none, none =>
      match basedInteger? text, decimal? text with
      | some (n, rest), _ => .ok (.int n, rest)
      | none, some found => found
      | none, none =>
        match floatNames.findSome? fun (name, x) => (Text.after? name text).map (x, ·) with
        | some (x, rest) => .ok (.float x, rest)
        | none => malformed

end Testsmith.Toml
