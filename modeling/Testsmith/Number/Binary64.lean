/-!
# Binary64 numbers

The double precision numbers of the data formats, as exact values: a sign and `significand · 2^exponent`,
an infinity, or no number. A canonical finite value has a significand below `2^53`, at least `2^52`
unless its exponent is the least one, so that a value has one form for each sign. Ratios of naturals
and decimals are rounded to the nearest such value, a tie going to the even significand.
-/

namespace Testsmith

/-- A double precision number. -/
inductive Binary64 where
  /-- `± significand · 2^exponent` -/
  | finite (negative : Bool) (significand : Nat) (exponent : Int)
  | infinite (negative : Bool)
  | nan
  deriving DecidableEq, Repr, Inhabited

namespace Binary64

/-- The exponent of the least positive value. -/
def minExponent : Int := -1074

def maxExponent : Int := 971

/-- The nearest natural to `num / den`, a tie going to the even one. -/
def roundHalfEven (num den : Nat) : Nat :=
  let q := num / den
  let twice := 2 * (num % den)
  if twice < den || (twice == den && q % 2 == 0) then q else q + 1

/-- `num / den` in units of `2^e`, as a ratio. -/
def inUnits (num den : Nat) (e : Int) : Nat × Nat :=
  if 0 ≤ e then (num, den * Nat.pow 2 e.toNat) else (num * Nat.pow 2 (-e).toNat, den)

/-- The nearest double to the positive ratio `num / den`. -/
def ofRatio (negative : Bool) (num den : Nat) : Binary64 :=
  let guess := max ((num.log2 : Int) - den.log2 - 52) minExponent
  let (n, d) := inUnits num den guess
  let e := if n / d < Nat.pow 2 52 then max (guess - 1) minExponent else guess
  let (n, d) := inUnits num den e
  let m := roundHalfEven n d
  let (m, e) := if m = Nat.pow 2 53 then (Nat.pow 2 52, e + 1) else (m, e)
  if maxExponent < e then .infinite negative else .finite negative m e

def zero (negative : Bool) : Binary64 := .finite negative 0 minExponent

/-- The nearest double to `± digits · 10^exponent`, where `count` bounds the number of digits. Exponents
far outside the range of doubles are decided without computing the power. -/
def ofDecimal (negative : Bool) (digits count : Nat) (exponent : Int) : Binary64 :=
  if digits = 0 then zero negative
  else if 400 < exponent then .infinite negative
  else if exponent + count < -400 then zero negative
  else if 0 ≤ exponent then ofRatio negative (digits * Nat.pow 10 exponent.toNat) 1
  else ofRatio negative digits (Nat.pow 10 (-exponent).toNat)

/-- The nearest double to an integer: none where only an infinity is near. -/
def ofInt? (i : Int) : Option Binary64 :=
  if i = 0 then some (zero false)
  else match ofRatio (i < 0) i.natAbs 1 with
    | .infinite _ => none
    | x => some x

/-- The value as an integer, where it is one. -/
def toInt? : Binary64 → Option Int
  | .finite negative m e =>
    let magnitude : Option Nat :=
      if 0 ≤ e then some (m * Nat.pow 2 e.toNat)
      else if m % Nat.pow 2 (-e).toNat = 0 then some (m / Nat.pow 2 (-e).toNat)
      else none
    magnitude.map fun n => if negative then -(n : Int) else n
  | _ => none

def isFinite : Binary64 → Bool
  | .finite .. => true
  | _ => false

example : ofDecimal false 25 2 (-1) = .finite false (5 * 2 ^ 50) (-51) := by decide
example : ofInt? (2 ^ 53 + 1) = some (.finite false (2 ^ 52) 1) := by decide

end Binary64

end Testsmith
