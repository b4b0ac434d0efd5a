import SnippetGrader.Number.Power

/-!
# Floating point numbers as exact fractions

A finite floating point number is a sign, a whole mantissa and a power of two. `Dyadic.ofFloat?`
takes a number apart and `nearest` goes the other way: it gives the floating point number nearest
to a fraction, a tie going to the even mantissa, and infinity beyond the largest finite number.
-/

namespace SnippetGrader.Number

/-- The number `± mantissa * 2 ^ exponent`. -/
structure Dyadic where
  negative : Bool
  mantissa : Nat
  exponent : Int
deriving DecidableEq, Repr

/-- The parts of the number with these 64 bits; infinities and NaN have none. -/
def Dyadic.ofBits? (bits : Nat) : Option Dyadic :=
  let fraction : Nat := bits % twoPow 52
  let biased : Nat := bits / twoPow 52 % twoPow 11
  let negative := bits / twoPow 63 % 2 == 1
  if biased == 2047 then none
  else if biased == 0 then some ⟨negative, fraction, -1074⟩
  else some ⟨negative, twoPow 52 + fraction, (biased : Int) - 1075⟩

/-- The parts of a finite floating point number. -/
def Dyadic.ofFloat? (x : Float) : Option Dyadic := Dyadic.ofBits? x.toBits.toNat

/-- The numerator of the absolute value over `Dyadic.den`. -/
def Dyadic.num (d : Dyadic) : Nat := d.mantissa * twoPow d.exponent.toNat

/-- The denominator of the absolute value. -/
def Dyadic.den (d : Dyadic) : Nat := twoPow (-d.exponent).toNat

/-- Whether a floating point number carries a minus sign, zero and NaN included. -/
def isNegative (x : Float) : Bool := x.toBits.toNat / twoPow 63 == 1

/-- The quotient rounded to the nearest whole number, a tie to the even one. -/
def divNearest (num den : Nat) : Nat :=
  let q := num / den
  let r := num % den
  if 2 * r > den || (2 * r == den && q % 2 == 1) then q + 1 else q

/-- `num / den` in units of `2 ^ e`, as a numerator and a denominator. -/
def inUnits (num den : Nat) (e : Int) : Nat × Nat :=
  (num * twoPow (-e).toNat, den * twoPow e.toNat)

/-- The exponent of the last place of the floating point number nearest to `num / den`. -/
def lastPlace (num den : Nat) : Int :=
  let guess : Int := (Nat.log2 num : Int) - Nat.log2 den - 53
  let (n, d) := inUnits num den guess
  let e := if n / d < twoPow 53 then guess else guess + 1
  if e < -1074 then -1074 else e

/-- The bits of the floating point number nearest to `num / den`, sign aside. -/
def nearestBits (num den : Nat) : Nat :=
  if num == 0 then 0
  else
    let e := lastPlace num den
    let (n, d) := inUnits num den e
    let m := divNearest n d
    let bits := if m < twoPow 52 then m else (e + 1075).toNat * twoPow 52 + (m - twoPow 52)
    if bits < 2047 * twoPow 52 then bits else 2047 * twoPow 52

def nearest (negative : Bool) (num den : Nat) : Float :=
  Float.ofBits (UInt64.ofNat (nearestBits num den + if negative then twoPow 63 else 0))

/-- Positive infinity. -/
def infinity : Float := Float.ofBits (UInt64.ofNat (2047 * twoPow 52))

def notANumber : Float := Float.ofBits (UInt64.ofNat (2047 * twoPow 52 + twoPow 51))

/-- The floating point number nearest to a whole number, which must not be so large that it
rounds to infinity. -/
def floatOfInt? (n : Int) : Option Float :=
  let x := nearest (n < 0) n.natAbs 1
  if x.isInf then none else some x

/-- The whole part of a finite floating point number, rounded toward zero. -/
def truncate? (x : Float) : Option Int :=
  (Dyadic.ofFloat? x).map fun d =>
    let n : Int := d.num / d.den
    if d.negative then -n else n

/-- The largest whole number that is not above a finite floating point number. -/
def floor? (x : Float) : Option Int :=
  (Dyadic.ofFloat? x).map fun d =>
    if d.negative then -(((d.num + d.den - 1) / d.den : Nat) : Int) else (d.num / d.den : Nat)

/-- The smallest whole number that is not below a finite floating point number. -/
def ceil? (x : Float) : Option Int :=
  (Dyadic.ofFloat? x).map fun d =>
    if d.negative then -((d.num / d.den : Nat) : Int) else ((d.num + d.den - 1) / d.den : Nat)

/-- The whole number nearest to a finite floating point number, a tie to the even one. -/
def roundHalfEven? (x : Float) : Option Int :=
  (Dyadic.ofFloat? x).map fun d =>
    let n : Int := divNearest d.num d.den
    if d.negative then -n else n

end SnippetGrader.Number
