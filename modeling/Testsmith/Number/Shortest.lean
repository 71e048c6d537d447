import Testsmith.Number.Binary64

/-!
# Shortest decimals

The text of a double: the fewest decimal digits that read back as the same value and, of those, the
nearest to it. For one, two and up to seventeen digits, the two neighbours of the value on the grid
of decimals with that many digits are tried; the first grid with a neighbour inside the interval of
reals that round to the value gives the digits. Where the point or an exponent is written is
decided by a layout.
-/

namespace Testsmith.Binary64

/-- The reals that round to a finite value are those between two ratios; the ends belong to them where
the significand is even. -/
structure Interval where
  /-- Everything is measured in units of a quarter of the value's spacing: `scale` of them make one. -/
  low : Nat
  value : Nat
  high : Nat
  closed : Bool

/-- The interval of `significand · 2^exponent`, in quarters of `2^exponent`. Below a power of two the
spacing halves. -/
def interval (m : Nat) (e : Int) : Interval :=
  { low := if m = Nat.pow 2 52 ∧ minExponent < e then 4 * m - 1 else 4 * m - 2
    value := 4 * m
    high := 4 * m + 2
    closed := m % 2 == 0 }

/-- `digits · 10^k` in quarters of `2^e`, as a ratio. -/
def decimalInQuarters (digits : Nat) (k e : Int) : Nat × Nat :=
  let (n, d) := if 0 ≤ k then (digits * Nat.pow 10 k.toNat, 1) else (digits, Nat.pow 10 (-k).toNat)
  inUnits n d (e - 2)

def Interval.contains (i : Interval) (n d : Nat) : Bool :=
  if i.closed then i.low * d ≤ n && n ≤ i.high * d else i.low * d < n && n < i.high * d

/-- The decimal exponent of the first digit of `m · 2^e`, for a positive `m`: the greatest `k` with
`10^k` not above the value, found from an estimate by the binary logarithm. -/
def leadingExponent (m : Nat) (e : Int) : Int :=
  let reaches (k : Int) : Bool :=
    let (n, d) := decimalInQuarters 1 k e
    n ≤ 4 * m * d
  let estimate : Int := ((m.log2 : Int) + e) * 30103 / 100000
  if reaches (estimate + 1) then estimate + 1
  else if reaches estimate then estimate
  else estimate - 1

/-- The decimal of `count` digits nearest to the value that reads back as it, if there is one. -/
def onGrid? (e lead : Int) (i : Interval) (count : Nat) : Option (Nat × Int) :=
  let k := lead - count + 1
  let (n, d) := decimalInQuarters 1 k e
  let below := i.value * d / n
  let candidate (digits : Nat) : Option Nat :=
    let (n, d) := decimalInQuarters digits k e
    if i.contains n d then some digits else none
  match candidate below, candidate (below + 1) with
  | some a, some b =>
    let twice := 2 * (i.value * d % n)
    if twice < n || (twice == n && a % 2 == 0) then some (a, k) else some (b, k)
  | some a, none => some (a, k)
  | none, some b => some (b, k)
  | none, none => none

def decimalDigits (n : Nat) : List Char := (toString n).toList

/-- The shortest digits of a positive value, with the exponent of the first one. -/
def shortest (m : Nat) (e : Int) : List Char × Int :=
  let lead := leadingExponent m e
  let found := (List.range 17).findSome? fun count => onGrid? e lead (interval m e) (count + 1)
  let (digits, k) := found.getD (m, 0)
  let text := decimalDigits digits
  let lead := k + text.length - 1
  let kept := (text.reverse.dropWhile (· == '0')).reverse
  (kept, lead)

/-- How a format lays digits out. -/
structure Layout where
  /-- The exponents of the first digit that are written with a point and no exponent. -/
  leastPositional : Int
  greatestPositional : Int
  /-- The least number of digits of the exponent. -/
  exponentDigits : Nat

/-- Positional from `0.0001` up to sixteen digits before the point, then `1e+16` and `1e-05`. -/
def Layout.plain : Layout := ⟨-4, 15, 2⟩

/-- Positional from `0.00001` up to sixteen digits before the point, then `1e+16` and `1e-6`. -/
def Layout.compact : Layout := ⟨-5, 15, 1⟩

/-- Digits with the point after the digit of exponent zero. -/
def positional (digits : List Char) (lead : Int) : List Char :=
  if lead < 0 then
    '0' :: '.' :: List.replicate (-lead - 1).toNat '0' ++ digits
  else
    let whole := lead.toNat + 1
    let front := digits.take whole
    let back := digits.drop whole
    front ++ List.replicate (whole - front.length) '0' ++ '.' :: (if back = [] then ['0'] else back)

/-- Digits with the point after the first and the exponent behind. -/
def scientific (layout : Layout) (digits : List Char) (lead : Int) : List Char :=
  let mantissa := digits.take 1 ++ if digits.length ≤ 1 then [] else '.' :: digits.drop 1
  let sign := if lead < 0 then '-' else '+'
  let exponent := decimalDigits lead.natAbs
  mantissa ++ 'e' :: sign :: List.replicate (layout.exponentDigits - exponent.length) '0' ++ exponent

def textIn (layout : Layout) : Binary64 → String
  | .nan => "nan"
  | .infinite negative => if negative then "-inf" else "inf"
  | .finite negative m e =>
    let sign := if negative then ['-'] else []
    let body :=
      if m = 0 then ['0', '.', '0']
      else
        let (digits, lead) := shortest m e
        if layout.leastPositional ≤ lead && lead ≤ layout.greatestPositional then
          positional digits lead
        else scientific layout digits lead
    String.ofList (sign ++ body)

/-- The text of a double as messages show it. -/
def text (x : Binary64) : String := x.textIn .plain

end Testsmith.Binary64
