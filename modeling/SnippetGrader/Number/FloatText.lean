import SnippetGrader.Number.Decimal

/-!
# Floating point numbers as text

`floatText` is the plain form of a number: the fewest digits that read back, positional from
`0.0001` up to sixteen digits before the point, with an exponent otherwise. `Layout.render`
writes a number in one of the explicit notations: fixed places, an exponent, or whichever of the
two suits its size.
-/

namespace SnippetGrader.Number

/-- The digits of `d` at the positions from `start` on, `count` of them; positions outside the
digits hold zeros. -/
def Decimal.window (d : Decimal) (start : Int) (count : Nat) : List Char :=
  let lead := min (-start).toNat count
  let rest := (d.digits.drop start.toNat).take (count - lead)
  List.replicate lead '0' ++ rest ++ List.replicate (count - lead - rest.length) '0'

/-- Positional notation with the digits up to position `stop`; the point is kept without digits
after it only if `keepPoint`. -/
def Decimal.positional (d : Decimal) (stop : Int) (keepPoint : Bool) : List Char :=
  let start := if d.point ≤ 0 then d.point - 1 else 0
  let whole := d.window start (d.point - start).toNat
  let fraction := d.window d.point (stop - d.point).toNat
  if fraction.isEmpty && !keepPoint then whole else whole ++ '.' :: fraction

def exponentText (e : Int) : List Char :=
  let digits := digitsOf e.natAbs
  'e' :: (if e < 0 then '-' else '+') :: (if digits.length < 2 then '0' :: digits else digits)

def Decimal.withExponent (d : Decimal) (digits : Int) (keepPoint : Bool) : List Char :=
  ({ d with point := 1 } : Decimal).positional digits keepPoint ++ exponentText (d.point - 1)

def Decimal.length (d : Decimal) : Int := d.digits.length

/-- How a finite number is laid out. -/
inductive Layout where
  /-- A fixed number of places after the point. -/
  | fixed (places : Nat)
  /-- One digit, the point, this many digits and an exponent. -/
  | scientific (places : Nat)
  /-- At most this many significant digits, with an exponent for large and small numbers. With
  `fraction`, a number without exponent has a digit after the point. -/
  | general (digits : Nat) (fraction : Bool)
  /-- The fewest digits that read back. With `fraction`, a number without exponent has a digit
  after the point. -/
  | shortest (fraction : Bool)
deriving DecidableEq, Repr

/-- The text of a non-negative number. With `full`, the point is always written, and the general
layout keeps trailing zeros. -/
def Layout.unsigned (l : Layout) (full : Bool) (x : Dyadic) : List Char :=
  match l with
  | .fixed places =>
    let d := placesAfterPoint places x.num x.den
    d.positional (d.point + places) full
  | .scientific places =>
    (significant (places + 1) x.num x.den).withExponent (places + 1) full
  | .general digits fraction =>
    let digits := max digits 1
    let d := significant digits x.num x.den
    let stop : Int := if full then digits else d.length
    let limit : Int := if fraction then digits - 1 else digits
    if d.point ≤ -4 || d.point > limit then d.withExponent (max stop 1) full
    else d.positional (max stop (if fraction then d.point + 1 else d.point)) full
  | .shortest fraction =>
    let d := Number.shortest x
    if d.point ≤ -4 || d.point > 16 then d.withExponent d.length full
    else d.positional (max d.length (if fraction then d.point + 1 else d.point)) full

/-- The text of a number. Infinities and NaN are words, NaN without a sign. With `plainZero`, a
result that shows only zeros has no minus sign. -/
def Layout.render (l : Layout) (full plainZero : Bool) (x : Float) : List Char :=
  match Dyadic.ofFloat? x with
  | some d =>
    let body := l.unsigned full d
    let zero := body.takeWhile (· != 'e') |>.all fun c => c == '0' || c == '.'
    if d.negative && !(plainZero && zero) then '-' :: body else body
  | none =>
    if x.isNaN then "nan".toList else if x < 0 then "-inf".toList else "inf".toList

/-- The plain text of a number. -/
def floatText (x : Float) : String :=
  String.ofList ((Layout.shortest true).render false false x)

/-- The plain text of the complex number `re + im * i`. A real part of positive zero is not
written. -/
def complexText (re im : Float) : String :=
  let part := fun x => String.ofList ((Layout.shortest false).render false false x)
  if re == 0 && !isNegative re then part im ++ "j"
  else
    let sign := if im.isNaN || !isNegative im then "+" else ""
    "(" ++ part re ++ sign ++ part im ++ "j)"

end SnippetGrader.Number
