import SnippetGrader.Number.Dyadic

/-!
# Decimal digits of fractions

Three ways to write a positive fraction in decimal: with a given number of significant digits,
with a given number of places after the point, and with the fewest digits that still name one
given floating point number. Rounding is to the nearest decimal, a tie going to the even digit.
-/

namespace SnippetGrader.Number

/-- Decimal digits without trailing zeros, and the position of the point: `point` digits stand
before it. Zero has the single digit `0`. -/
structure Decimal where
  digits : List Char
  point : Int
deriving DecidableEq, Repr

def digitsOf (n : Nat) : List Char := Nat.toDigits 10 n

def Decimal.ofScaled (n : Nat) (scale : Int) : Decimal :=
  if n == 0 then ⟨['0'], 1⟩
  else
    let all := digitsOf n
    ⟨(all.reverse.dropWhile (· == '0')).reverse, all.length + scale⟩

def tenPowLe (k : Int) (num den : Nat) : Bool :=
  den * tenPow k.toNat ≤ num * tenPow (-k).toNat

/-- The exponent of the leading decimal digit of a positive fraction: the largest `k` with
`10 ^ k ≤ num / den`. -/
def magnitude (num den : Nat) : Int :=
  let guess := (((Nat.log2 num : Int) - Nat.log2 den) * 30103).fdiv 100000
  if tenPowLe (guess + 1) num den then guess + 1
  else if tenPowLe guess num den then guess
  else guess - 1

/-- `num / den` in units of `10 ^ k`, as a numerator and a denominator. -/
def inTens (num den : Nat) (k : Int) : Nat × Nat :=
  (num * tenPow (-k).toNat, den * tenPow k.toNat)

/-- A positive fraction rounded to units of `10 ^ k`. -/
def roundToTens (num den : Nat) (k : Int) : Nat :=
  let (n, d) := inTens num den k
  divNearest n d

/-- A fraction rounded to `count` significant digits. -/
def significant (count num den : Nat) : Decimal :=
  if num == 0 then ⟨['0'], 1⟩
  else
    let k := magnitude num den - (count - 1 : Nat)
    Decimal.ofScaled (roundToTens num den k) k

def placesAfterPoint (places num den : Nat) : Decimal :=
  Decimal.ofScaled (roundToTens num den (-(places : Int))) (-(places : Int))

/-- The fractions that round to one floating point number: those between `low / den` and
`high / den`, the ends included if `closed`. The number itself is `value / den`. -/
structure Neighbourhood where
  low : Nat
  value : Nat
  high : Nat
  den : Nat
  closed : Bool

/-- The neighbourhood of `mantissa * 2 ^ exponent`. Below a power of two the numbers lie twice as
close. -/
def Dyadic.neighbourhood (d : Dyadic) : Neighbourhood :=
  let unit := twoPow (d.exponent - 2).toNat
  let m := d.mantissa
  let low := if m == twoPow 52 && d.exponent > -1074 then 4 * m - 1 else 4 * m - 2
  ⟨low * unit, 4 * m * unit, (4 * m + 2) * unit, twoPow (2 - d.exponent).toNat, m % 2 == 0⟩

/-- Whether the fraction `n / d` belongs to a neighbourhood. -/
def Neighbourhood.holds (r : Neighbourhood) (n d : Nat) : Bool :=
  if r.closed then r.low * d ≤ n * r.den && n * r.den ≤ r.high * d
  else r.low * d < n * r.den && n * r.den < r.high * d

/-- The multiple of `10 ^ k` in a neighbourhood that is nearest to its number, if one of the
number's two neighbours on that grid belongs to it. -/
def Neighbourhood.onGrid? (r : Neighbourhood) (k : Int) : Option Nat :=
  let (n, d) := inTens r.value r.den k
  let below := n / d
  let inside := fun c => r.holds (c * tenPow k.toNat) (tenPow (-k).toNat)
  match inside below, inside (below + 1) with
  | true, true => some (divNearest n d)
  | true, false => some below
  | false, true => some (below + 1)
  | false, false => none

/-- The decimal with the fewest digits in a neighbourhood, tried for `tries` grids from `10 ^ k`
downward. -/
def Neighbourhood.shortestFrom (r : Neighbourhood) (k : Int) : (tries : Nat) → Decimal
  | 0 => Decimal.ofScaled (r.value / r.den) 0
  | tries + 1 =>
    match r.onGrid? k with
    | some c => Decimal.ofScaled c k
    | none => r.shortestFrom (k - 1) tries

/-- The decimal with the fewest digits that reads back as the given number; of several, the one
nearest to it. Seventeen digits always suffice. -/
def shortest (d : Dyadic) : Decimal :=
  if d.mantissa == 0 then ⟨['0'], 1⟩
  else
    let r := d.neighbourhood
    r.shortestFrom (magnitude r.value r.den) 18

end SnippetGrader.Number
