import SnippetGrader.Number.Decimal

/-!
# Arithmetic of mixed whole and floating point numbers

The parts of arithmetic that neither whole nor floating point numbers have built in: exact
comparison of the two kinds, division that rounds to the floor, powers, and rounding to decimal
places. Division of whole numbers and rounding are exact up to the last step, which takes the
nearest floating point number.
-/

namespace SnippetGrader.Number

/-- The order of a floating point number and a whole number, compared exactly; NaN has none. -/
def compareFloatInt? (x : Float) (n : Int) : Option Ordering :=
  match Dyadic.ofFloat? x with
  | some d =>
    let num : Int := if d.negative then -d.num else d.num
    some (compare num (n * d.den))
  | none => if x.isNaN then none else some (if x < 0 then .lt else .gt)

/-- The remainder of a division that rounds toward zero, exactly; it has the sign of `x`. -/
def remainder (x y : Float) : Float :=
  match Dyadic.ofFloat? x, Dyadic.ofFloat? y with
  | some a, some b =>
    if b.mantissa == 0 then notANumber
    else
      let e := min a.exponent b.exponent
      let m := a.mantissa * twoPow (a.exponent - e).toNat
      let n := b.mantissa * twoPow (b.exponent - e).toNat
      nearest a.negative (m % n * twoPow e.toNat) (twoPow (-e).toNat)
  | some _, none => if y.isNaN then notANumber else x
  | none, _ => notANumber

def zeroLike (x : Float) : Float := if isNegative x then -0.0 else 0.0

/-- The remainder of a division that rounds to the floor; it has the sign of `y`, which is not
zero. -/
def floorMod (x y : Float) : Float :=
  let r := remainder x y
  if r == 0 then zeroLike y
  else if (y < 0) != (r < 0) then r + y
  else r

/-- The quotient rounded to the floor; `y` is not zero. -/
def floorDiv (x y : Float) : Float :=
  let r := remainder x y
  let q := (x - r) / y
  let q := if r != 0 && (y < 0) != (r < 0) then q - 1 else q
  if q == 0 then zeroLike (x / y)
  else
    let f := q.floor
    if q - f > 0.5 then f + 1 else f

/-- The quotient of two whole numbers as a floating point number, if it is not too large; `b` is
not zero. -/
def divInts? (a b : Int) : Option Float :=
  let x := nearest ((a < 0) != (b < 0)) a.natAbs b.natAbs
  if x.isInf then none else some x

/-- The outcome of raising a number to a power. -/
inductive Power where
  | real (x : Float)
  | complex (re im : Float)
  /-- Zero was raised to a negative power. -/
  | zeroToNegative
  /-- The result is too large. -/
  | tooLarge
  /-- The result is complex and too large. -/
  | complexTooLarge

/-- Whether a floating point number is an odd whole number. -/
def isOdd (x : Float) : Bool := remainder x.abs 2 == 1

/-- A negative number to a power that is not whole, in polar form. -/
def complexPower (x y : Float) : Power :=
  let size := Float.pow x.abs y
  let angle := Float.atan2 0 x * y
  if size.isInf then .complexTooLarge
  else .complex (size * Float.cos angle) (size * Float.sin angle)

/-- A finite power of a floating point number. -/
def power (x y : Float) : Power :=
  if y == 0 then .real 1
  else if x.isNaN then .real x
  else if y.isNaN then .real (if x == 1 then 1 else y)
  else if y.isInf then
    if x.abs == 1 then .real 1
    else if (y > 0) == (x.abs > 1) then .real y.abs
    else .real 0
  else if x.isInf then
    if y > 0 then .real (if isOdd y then x else x.abs)
    else .real (if isOdd y then zeroLike x else 0)
  else if x == 0 then
    if y < 0 then .zeroToNegative else .real (if isOdd y then x else 0)
  else if x < 0 && y != y.floor then complexPower x y
  else
    let size := if x.abs == 1 then 1 else Float.pow x.abs y
    if size.isInf then .tooLarge
    else .real (if x < 0 && isOdd y then -size else size)

/-- The square root of a whole number, rounded down. -/
def rootFloor (n : Nat) : Nat :=
  if n == 0 then 0
  else
    let r := 2 * rootFloor (n / 4)
    if (r + 1) * (r + 1) ≤ n then r + 1 else r
termination_by n
decreasing_by simp_all; omega

/-- The floating point number nearest to the length of the vector with parts `x` and `y`; `none`
if the length is too large. -/
def vectorLength? (x y : Float) : Option Float :=
  if x.isInf || y.isInf then some infinity
  else
    match Dyadic.ofFloat? x, Dyadic.ofFloat? y with
    | some a, some b =>
      let e := min a.exponent b.exponent
      let m := a.mantissa * twoPow (a.exponent - e).toNat
      let n := b.mantissa * twoPow (b.exponent - e).toNat
      let square := (m * m + n * n) * twoPow 128
      let root := rootFloor square
      let root := 2 * root + if root * root == square then 0 else 1
      let z := nearest false (root * twoPow e.toNat) (twoPow 65 * twoPow (-e).toNat)
      if z.isInf then none else some z
    | _, _ => some notANumber

/-- A whole number rounded to a multiple of `10 ^ places`, a tie to the even multiple. -/
def roundInt (n : Int) (places : Nat) : Int :=
  if tenPow (min places (Nat.log2 n.natAbs + 2)) > 2 * n.natAbs then 0
  else
    let unit := tenPow places
    let m : Int := divNearest n.natAbs unit * unit
    if n < 0 then -m else m

/-- A finite floating point number rounded to `places` decimal places, which may be negative;
`none` if the result is too large. -/
def roundFloat? (x : Float) (places : Int) : Option Float :=
  match Dyadic.ofFloat? x with
  | none => some x
  | some d =>
    if places > 323 then some x
    else if places < -308 then some (zeroLike x)
    else
      let m := roundToTens d.num d.den (-places)
      let y := nearest d.negative (m * tenPow (-places).toNat) (tenPow places.toNat)
      if y.isInf then none else some y

end SnippetGrader.Number
