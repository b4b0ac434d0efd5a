import SnippetGrader.Number.Dyadic
import SnippetGrader.Text.Blank
import SnippetGrader.Text.Digit

/-!
# Reading numbers from text

Whole numbers in bases up to 36 and floating point numbers. Decimal digits of every script are
read as digits, blanks at the ends are passed over, and a single underscore may stand between two
digits. A whole number of more than `maxDigits` digits is refused, except in a base that is a
power of two.
-/

namespace SnippetGrader.Number

open Text

/-- The largest number of decimal digits that is converted between whole numbers and text. -/
def maxDigits : Nat := 4300

/-- A blank at the end of a number: ASCII white space, or a blank beyond ASCII. -/
def isNumberBlank (c : Char) : Bool :=
  (9 ≤ c.toNat && c.toNat ≤ 13) || c == ' ' || (c.toNat ≥ 128 && isBlank c)

/-- A digit of any script as an ASCII digit; other characters as they are. -/
def plainDigit (c : Char) : Char :=
  match digitValue? c with
  | some v => Char.ofNat ('0'.toNat + v)
  | none => c

/-- A text without the blanks around it and with ASCII digits. -/
def plainNumeral (text : List Char) : List Char := (trimBy isNumberBlank text).map plainDigit

/-- The value of a digit or of a letter used as a digit. -/
def digitOf? (c : Char) : Option Nat :=
  if '0' ≤ c && c ≤ '9' then some (c.toNat - '0'.toNat)
  else if 'a' ≤ c && c ≤ 'z' then some (c.toNat - 'a'.toNat + 10)
  else if 'A' ≤ c && c ≤ 'Z' then some (c.toNat - 'A'.toNat + 10)
  else none

def isDigitIn (base : Nat) (c : Char) : Bool := (digitOf? c).any (· < base)

/-- The whole number that digits of a base name, after `acc`. -/
def valueOf (base acc : Nat) : List Char → Nat
  | [] => acc
  | c :: rest => valueOf base (acc * base + (digitOf? c).getD 0) rest

/-- Why a text is no whole number. -/
inductive IntError where
  | malformed
  | tooLong (digits : Nat)
deriving DecidableEq, Repr

def splitSign : List Char → Bool × List Char
  | '-' :: rest => (true, rest)
  | '+' :: rest => (false, rest)
  | text => (false, text)

/-- The base that a mark such as `0x` announces. -/
def markedBase? : List Char → Option Nat
  | '0' :: c :: _ =>
    if c == 'x' || c == 'X' then some 16
    else if c == 'o' || c == 'O' then some 8
    else if c == 'b' || c == 'B' then some 2
    else none
  | _ => none

def underscoresFit (isDigit : Char → Bool) (before : Bool) : List Char → Bool
  | [] => true
  | '_' :: rest => before && rest.head?.any isDigit && underscoresFit isDigit false rest
  | c :: rest => underscoresFit isDigit (isDigit c) rest

def readDigits (base : Nat) (text : List Char) : Except IntError Nat :=
  let run := text.takeWhile fun c => isDigitIn base c || c == '_'
  let digits := run.filter (· != '_')
  if digits.isEmpty || !underscoresFit (isDigitIn base) false run then .error .malformed
  else if digits.length > maxDigits && base != twoPow (Nat.log2 base) then
    .error (.tooLong digits.length)
  else if run.length < text.length then .error .malformed
  else .ok (valueOf base 0 digits)

/-- Reads a whole number. In base zero a mark gives the base, which is ten without one; a number
without mark then has no leading zeros. -/
def intOfText (base : Nat) (text : List Char) : Except IntError Int :=
  let (negative, body) := splitSign (plainNumeral text)
  let marked := markedBase? body
  let actual := if base == 0 then marked.getD 10 else base
  let body' :=
    if marked == some actual then
      match body.drop 2 with
      | '_' :: rest => rest
      | rest => rest
    else body
  match readDigits actual body' with
  | .error e => .error e
  | .ok n =>
    if base == 0 && marked.isNone && body.head? == some '0' && n != 0 then .error .malformed
    else .ok (if negative then -n else n)

/-- The floating point number nearest to `digits * 10 ^ exponent`, where `length` is the number of
its digits, leading zeros aside. Sizes far outside the range of floating point numbers are decided
by the length alone. -/
def floatOfDecimal (negative : Bool) (digits length : Nat) (exponent : Int) : Float :=
  if digits == 0 then nearest negative 0 1
  else if exponent + length > 400 then nearest negative (tenPow 400) 1
  else if exponent + length < -400 then nearest negative 0 1
  else nearest negative (digits * tenPow exponent.toNat) (tenPow (-exponent).toNat)

/-- Reads an optional exponent that makes up the whole text. -/
def readExponent? : List Char → Option Int
  | [] => some 0
  | c :: rest =>
    if c == 'e' || c == 'E' then
      let (negative, digits) := splitSign rest
      if digits.isEmpty || !digits.all (isDigitIn 10) then none
      else
        let n : Int := valueOf 10 0 digits
        some (if negative then -n else n)
    else none

/-- Reads an unsigned decimal with optional point and exponent. -/
def readDecimal? (negative : Bool) (text : List Char) : Option Float :=
  let (whole, rest) := text.span (isDigitIn 10)
  let (fraction, rest) := match rest with
    | '.' :: more => more.span (isDigitIn 10)
    | other => ([], other)
  if whole.isEmpty && fraction.isEmpty then none
  else
    (readExponent? rest).map fun e =>
      let digits := (whole ++ fraction).dropWhile (· == '0')
      floatOfDecimal negative (valueOf 10 0 digits) digits.length (e - fraction.length)

/-- Reads a floating point number; infinities and NaN are words in any letter case. -/
def floatOfText? (text : List Char) : Option Float :=
  let body := plainNumeral text
  if !underscoresFit (isDigitIn 10) false body then none
  else
    let (negative, body) := splitSign (body.filter (· != '_'))
    let word := String.ofList (body.map Char.toLower)
    if word == "inf" || word == "infinity" then some (if negative then -infinity else infinity)
    else if word == "nan" then some notANumber
    else readDecimal? negative body

end SnippetGrader.Number
