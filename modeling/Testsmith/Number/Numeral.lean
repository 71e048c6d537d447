import Testsmith.Text.Digit

/-!
# Numerals

Integers as texts. A numeral is a row of decimal digits, in some formats with single underscores
between them and blanks around it. A numeral with more than `maxDigits` digits is not converted: the
limit counts digits, leading zeros among them, and neither a sign nor underscores.
-/

namespace Testsmith.Numeral

/-- The most digits of a numeral that is converted. -/
def maxDigits : Nat := 4300

def asciiDigit? (c : Char) : Option Nat :=
  if c.isDigit then some (c.toNat - 48) else none

/-- The blanks that may stand around a numeral: white space without the separators below the space. -/
def isMargin (c : Char) : Bool :=
  let n := c.toNat
  (9 ≤ n && n ≤ 13) || n == 32 || n == 0x85 || n == 0xA0 || n == 0x1680 ||
    (0x2000 ≤ n && n ≤ 0x200A) || n == 0x2028 || n == 0x2029 || n == 0x202F || n == 0x205F ||
    n == 0x3000

def withoutMargins (text : List Char) : List Char :=
  ((text.dropWhile isMargin).reverse.dropWhile isMargin).reverse

/-- The natural that digits stand for, the most significant one first. -/
def ofDigits (digits : List Nat) : Nat := digits.foldl (fun n d => 10 * n + d) 0

/-- The digits of a row in which single underscores may stand between two of them. -/
def grouped? (digit? : Char → Option Nat) : List Char → Option (List Nat)
  | [] => none
  | [c] => (digit? c).map ([·])
  | c :: d :: rest =>
    match digit? c with
    | none => none
    | some value =>
      if d = '_' then (grouped? digit? rest).map (value :: ·)
      else (grouped? digit? (d :: rest)).map (value :: ·)

/-- The digits of a row without anything between them. -/
def plain? (digit? : Char → Option Nat) (text : List Char) : Option (List Nat) :=
  if text = [] then none else text.mapM digit?

/-- A sign in front, if there is one, and what follows it. -/
def sign : List Char → Bool × List Char
  | '-' :: rest => (true, rest)
  | '+' :: rest => (false, rest)
  | text => (false, text)

/-- An integer from its sign and its digits: none beyond the limit on digits. -/
def signed? (negative : Bool) (digits : List Nat) : Option Int :=
  if maxDigits < digits.length then none
  else some (if negative then -(ofDigits digits : Int) else ofDigits digits)

end Testsmith.Numeral
