import Testsmith.Failure
import Testsmith.Text.Scan

/-!
# Test counts

How many tests passed and failed, as a test runner's output tells: the first number that is followed by
one space and the word `passed` or `failed`. Letters count in either case; the long s and the two
dotted and dotless forms of i count as the letters they fold to. Digits of every script count.
-/

namespace Testsmith.Counts

open Text (Pattern match? span1? isDecimal digitValue?)

/-- The characters that count as a lower case letter. -/
def spellings (letter : Char) : List Char :=
  if letter = 's' then ['s', 'S', Char.ofNat 0x17F]
  else if letter = 'i' then ['i', 'I', Char.ofNat 0x130, Char.ofNat 0x131]
  else [letter, letter.toUpper]

/-- A word of lower case letters stands in front, in any case. -/
def spells : List Char → List Char → Bool
  | [], _ => true
  | _, [] => false
  | letter :: word, c :: rest => (spellings letter).contains c && spells word rest

/-- Digits in front of a space and a word. -/
def numberBefore (word : String) : Pattern (List Char) := fun _ text =>
  match span1? isDecimal text with
  | some (digits, ' ' :: rest) =>
    if spells word.toList rest then some (digits, digits.length) else none
  | _ => none

def valueOf (digits : List Char) : Except Failure Nat :=
  if Numeral.maxDigits < digits.length then .error (.tooManyDigits digits.length)
  else .ok (Numeral.ofDigits (digits.filterMap digitValue?))

/-- The number in front of the first such word; zero where there is none. -/
def count (word output : String) : Except Failure Nat :=
  match match? (numberBefore word) output.toList with
  | some digits => valueOf digits
  | none => .ok 0

def ofOutput (output : String) : Except Failure (Nat × Nat) := do
  let passed ← count "passed" output
  let failed ← count "failed" output
  return (passed, failed)

end Testsmith.Counts
