import Testsmith.Text.Scan

/-!
# Nesting

How a signature is cut without tearing brackets apart. One depth counts all four kinds of bracket and
never falls below zero; the `>` of an arrow `->` closes nothing. A separator counts only at depth
zero. `group?` finds the first parenthesised group, for which only round brackets count.
-/

namespace Testsmith.Signature

/-! ## Splitting -/

def isOpener (c : Char) : Bool := c = '(' || c = '<' || c = '[' || c = '\x7b'

def isCloser (c : Char) : Bool := c = ')' || c = '>' || c = ']' || c = '\x7d'

/-- The depth after a character, given the character before it. -/
def depthAfter (before : Option Char) (depth : Nat) (c : Char) : Nat :=
  if isOpener c then depth + 1
  else if isCloser c && !(c = '>' && before = some '-') then depth - 1
  else depth

/-- Puts a character in front of the first part. -/
def consFirst (c : Char) : List (List Char) → List (List Char)
  | [] => [[c]]
  | part :: parts => (c :: part) :: parts

/-- The parts of a text that starts at a depth, after a character. -/
def splitFrom (isSep : Char → Bool) (before : Option Char) (depth : Nat) :
    List Char → List (List Char)
  | [] => [[]]
  | c :: rest =>
    let inner := depthAfter before depth c
    if isSep c && inner = 0 then [] :: splitFrom isSep (some c) inner rest
    else consFirst c (splitFrom isSep (some c) inner rest)

/-- The parts of a text between the separators outside all brackets. -/
def splitTopLevel (isSep : Char → Bool) (text : List Char) : List (List Char) :=
  splitFrom isSep none 0 text

/-- What stands before the first separator outside all brackets. -/
def beforeTopLevel (isSep : Char → Bool) (text : List Char) : List Char :=
  (splitTopLevel isSep text).headD []

theorem splitFrom_ne_nil (isSep : Char → Bool) (before : Option Char) (depth : Nat)
    (text : List Char) : splitFrom isSep before depth text ≠ [] := by
  cases text with
  | nil => simp [splitFrom]
  | cons c rest =>
    simp only [splitFrom]
    split
    · simp
    · cases splitFrom isSep (some c) (depthAfter before depth c) rest <;> simp [consFirst]

/-! ## The first group -/

/-- What stands inside and after a group whose opening bracket lies behind, with `inner` further ones
open. -/
def groupFrom (inner : Nat) : List Char → Option (List Char × List Char)
  | [] => none
  | c :: rest =>
    let more (inner : Nat) := (groupFrom inner rest).map fun (inside, after) => (c :: inside, after)
    if c = '(' then more (inner + 1)
    else if c = ')' then
      match inner with
      | 0 => some ([], rest)
      | inner + 1 => more inner
    else more inner

/-- What stands inside and after the first parenthesised group. -/
def group? (text : List Char) : Option (List Char × List Char) :=
  match text.dropWhile (· != '(') with
  | [] => none
  | _ :: rest => groupFrom 0 rest

example : splitTopLevel (· = ',') "a: M<K, V>, b: (I) -> U".toList =
    ["a: M<K, V>".toList, " b: (I) -> U".toList] := by decide
example : group? "f(a(b)c) : R".toList = some ("a(b)c".toList, " : R".toList) := by decide

end Testsmith.Signature
