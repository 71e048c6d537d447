import Testsmith.Number.Numeral

/-!
# Loosely written integers

An integer is written strictly as a hyphen, if it is negative, and then either a single zero or digits
that do not start with one. A strict text of more than `Numeral.maxDigits` digits is too long; the hyphen
is not counted. A text that is not strict is tidied once and read again; where it is too long only then,
it is unreadable like any other. What tidying drops is, in this order: the blanks around the text, a
plus in front, leading zeros, a fraction of zeros, and single underscores between two other characters.
-/

namespace Testsmith.Numeral

/-- What a text says as an integer. -/
inductive Reading where
  | value (n : Int)
  | tooLong
  | unreadable
  deriving DecidableEq, Repr, Inhabited

/-! ## Strict texts -/

/-- The reading of digits. Whether they are too long is decided by the digits in front, before it is
known that nothing but digits follows them. -/
def ofDigitChars (negative : Bool) (text : List Char) : Reading :=
  let digits := text.takeWhile Char.isDigit
  if maxDigits < digits.length then .tooLong
  else match plain? asciiDigit? text with
    | none => .unreadable
    | some digits => .value (if negative then -(ofDigits digits : Int) else ofDigits digits)

/-- The reading of a strict text without its hyphen. -/
def strictMagnitude (negative : Bool) : List Char → Reading
  | ['0'] => .value 0
  | '0' :: _ => .unreadable
  | text => ofDigitChars negative text

def strict : List Char → Reading
  | '-' :: text => strictMagnitude true text
  | text => strictMagnitude false text

/-! ## Tidying -/

/-- What leading zeros and the underscores among them leave: everything from the first other character
on. Where that is a point or nothing is left, the last of them stays. -/
def behindZeros (last : Char) : List Char → List Char
  | [] => [last]
  | c :: rest =>
    if c = '0' ∨ c = '_' then behindZeros c rest
    else if c = '.' then last :: c :: rest
    else c :: rest

/-- A text that starts with a digit, without leading zeros. -/
def withoutLeadingZeros? : List Char → Option (List Char)
  | [] => none
  | c :: rest =>
    if c = '0' then some (behindZeros c rest)
    else if c.isDigit then some (c :: rest)
    else none

/-- The text in front of a point that only zeros follow, at least one; else the whole text. -/
def withoutZeroFraction (text : List Char) : List Char :=
  match text.dropWhile (· != '.') with
  | _ :: '0' :: zeros => if zeros.all (· == '0') then text.takeWhile (· != '.') else text
  | _ => text

/-- No two underscores stand side by side, and none stands at the end. -/
def separatesOnly : List Char → Bool
  | [] => true
  | ['_'] => false
  | '_' :: '_' :: _ => false
  | _ :: rest => separatesOnly rest

/-- A text without underscores, where each of them separates two other characters; else the text. -/
def withoutSeparators (text : List Char) : List Char :=
  if text.head? ≠ some '_' ∧ separatesOnly text then text.filter (· ≠ '_') else text

/-- A text made strict, if it has a digit where the number starts. -/
def tidied? (text : List Char) : Option (List Char) :=
  let (negative, numeral) := sign (withoutMargins text)
  (withoutLeadingZeros? numeral).map fun numeral =>
    let tidy := withoutSeparators (withoutZeroFraction numeral)
    if negative then '-' :: tidy else tidy

def loose (text : List Char) : Reading :=
  match strict text with
  | .unreadable =>
    match (tidied? text).map strict with
    | some (.value n) => .value n
    | _ => .unreadable
  | reading => reading

example : loose " +007_5.00\n".toList = .value 75 := by decide +kernel
example : loose "-0_1".toList = .value (-1) := by decide +kernel
example : loose "0_-1".toList = .value (-1) := by decide +kernel
example : loose "1__0".toList = .unreadable := by decide +kernel
example : loose "1.".toList = .unreadable := by decide +kernel

end Testsmith.Numeral
