import SnippetGrader.Value.FormatSpec
import SnippetGrader.Value.Numeric
import SnippetGrader.Value.Text

/-!
# Formatted values

`Value.format` writes a value by a format specification. Texts can be cut and padded; whole
numbers are written in several bases, with digits in groups; floating point numbers have the
fixed, the scientific and the general layout; other values take no specification at all.
-/

namespace SnippetGrader

open Number

/-- The parts of a written number. -/
structure Numeral where
  negative : Bool := false
  /-- The mark of the base. -/
  mark : List Char := []
  /-- The digits that are grouped. -/
  digits : List Char := []
  /-- What follows them: point, fraction, exponent. -/
  tail : List Char := []

namespace Numeral

/-- The digits, last first, in groups of `size` with `sep` between groups. Zeros are added at the
front until there are `least` characters; `fuel` bounds the number of groups. -/
def groupReversed (sep : Char) (size : Nat) : (fuel : Nat) → (least : Int) → List Char → List Char
  | 0, _, digits => digits
  | fuel + 1, least, digits =>
    let count := min size (max (max digits.length least.toNat) 1)
    let group := digits.take count
    let group := group ++ List.replicate (count - group.length) '0'
    let rest := digits.drop count
    let least := least - count
    if rest.isEmpty && least ≤ 0 then group
    else group ++ sep :: groupReversed sep size fuel (least - 1) rest

/-- The digits in groups, with zeros in front up to `least` characters. -/
def grouped (n : Numeral) (sep : Option Char) (size : Nat) (least : Int) : List Char :=
  if n.digits.isEmpty then []
  else
    match sep with
    | none => List.replicate (least.toNat - n.digits.length) '0' ++ n.digits
    | some c => (groupReversed c size (n.digits.length + least.toNat) least n.digits.reverse).reverse

def signText (n : Numeral) (sign : Option Char) : List Char :=
  if n.negative then ['-']
  else
    match sign with
    | some '+' => ['+']
    | some ' ' => [' ']
    | _ => []

def layOut (n : Numeral) (spec : FormatSpec) (groupSize : Nat) : List Char :=
  let sign := n.signText spec.sign
  let fixed := sign.length + n.mark.length + n.tail.length
  let least : Int :=
    if spec.fill == '0' && spec.align == '=' then (spec.width.getD 0 : Int) - fixed else 0
  let digits := n.grouped spec.grouping groupSize least
  if spec.align == '=' then
    let free := spec.width.getD 0 - (fixed + digits.length)
    sign ++ n.mark ++ List.replicate free spec.fill ++ digits ++ n.tail
  else spec.pad (sign ++ n.mark ++ digits ++ n.tail)

/-- The parts of a number that is written with sign, digits and rest. -/
def ofText (text : List Char) : Numeral :=
  let negative := text.head? == some '-'
  let body := if negative then text.tail else text
  let (digits, tail) := body.span fun c => '0' ≤ c && c ≤ '9'
  { negative, digits, tail }

end Numeral

def upperAscii (text : List Char) : List Char := text.map Char.toUpper

namespace FormatSpec

def layout (spec : FormatSpec) : Layout :=
  let places := spec.precision.getD 6
  match spec.type with
  | none =>
    match spec.precision with
    | none => .shortest true
    | some p => .general p true
  | some t =>
    if t == 'e' || t == 'E' then .scientific places
    else if t == 'f' || t == 'F' || t == '%' then .fixed places
    else .general places false

/-- The text of a floating point number before it is put into its field. -/
def floatDigits (spec : FormatSpec) (layout : Layout) (x : Float) : List Char :=
  let text := layout.render spec.alternate spec.plainZero x
  if spec.type.any fun t => t == 'E' || t == 'F' || t == 'G' then upperAscii text else text

def formatFloat (spec : FormatSpec) (x : Float) : Except Failure (List Char) :=
  if spec.precision.any (· > 2147483647) then .error (.value "precision too big")
  else
    let percent := spec.type == some '%'
    let text := spec.floatDigits spec.layout (if percent then x * 100 else x)
    .ok ((Numeral.ofText (if percent then text ++ ['%'] else text)).layOut spec 3)

/-- The digits of a whole number in a base, and the mark of the base. -/
def intDigits (type : Char) (n : Nat) : Except Failure (List Char × List Char) :=
  if type == 'b' then .ok (Nat.toDigits 2 n, ['0', 'b'])
  else if type == 'o' then .ok (Nat.toDigits 8 n, ['0', 'o'])
  else if type == 'x' then .ok (Nat.toDigits 16 n, ['0', 'x'])
  else if type == 'X' then .ok (upperAscii (Nat.toDigits 16 n), ['0', 'X'])
  else do return ((← intText n).toList, [])

def formatCharacter (spec : FormatSpec) (n : Int) : Except Failure (List Char) :=
  if spec.sign.isSome then .error (.value "Sign not allowed with integer format specifier 'c'")
  else if spec.alternate then
    .error (.value "Alternate form (#) not allowed with integer format specifier 'c'")
  else if !(-(twoPow 63) ≤ n && n < twoPow 63) then
    .error (.overflow "Python int too large to convert to C long")
  else if n < 0 || n > 0x10ffff then .error (.overflow "%c arg not in range(0x110000)")
  else if !n.toNat.isValidChar then .error .surrogate
  else .ok (({ tail := [Char.ofNat n.toNat] } : Numeral).layOut spec 3)

def formatInt (spec : FormatSpec) (type : Char) (n : Int) : Except Failure (List Char) :=
  if spec.precision.isSome then
    .error (.value "Precision not allowed in integer format specifier")
  else if spec.plainZero then
    .error (.value "Negative zero coercion (z) not allowed in integer format specifier")
  else if type == 'c' then formatCharacter spec n
  else do
    let (digits, mark) ← intDigits type n.natAbs
    let numeral : Numeral :=
      { negative := n < 0, digits, mark := if spec.alternate then mark else [] }
    return numeral.layOut spec (if mark.isEmpty then 3 else 4)

def formatText (spec : FormatSpec) (text : List Char) : Except Failure (List Char) :=
  if spec.sign == some ' ' then .error (.value "Space not allowed in string format specifier")
  else if spec.sign.isSome then .error (.value "Sign not allowed in string format specifier")
  else if spec.plainZero then
    .error (.value "Negative zero coercion (z) not allowed in string format specifier")
  else if spec.alternate then
    .error (.value "Alternate form (#) not allowed in string format specifier")
  else if spec.align == '=' then
    .error (.value "'=' alignment not allowed in string format specifier")
  else .ok (spec.pad (match spec.precision with | some p => text.take p | none => text))

def formatComplex (spec : FormatSpec) (re im : Float) : Except Failure (List Char) :=
  if spec.fill == '0' then
    .error (.value "Zero padding is not allowed in complex format specifier")
  else if spec.align == '=' then
    .error (.value "'=' alignment flag is not allowed in complex format specifier")
  else
    let layout := match spec.layout with
      | .shortest _ => .shortest false
      | .general p _ => .general p false
      | l => l
    let bare := { spec with width := none, align := '<' }
    let part := fun x sign =>
      (Numeral.ofText (spec.floatDigits layout x)).layOut { bare with sign } 3
    let alone := spec.type.isNone && re == 0 && !isNegative re
    let body :=
      if alone then part im spec.sign ++ ['j']
      else part re spec.sign ++ part im (some '+') ++ ['j']
    .ok (spec.pad (if spec.type.isNone && !alone then '(' :: body ++ [')'] else body))

end FormatSpec

namespace Value

/-- A whole number by a specification, which may ask for the layouts of floating point numbers. -/
def formatIntBy (n : Int) (typeName : String) (spec : FormatSpec) : Except Failure (List Char) :=
  let type := spec.type.getD 'd'
  if "bcdoxXn".toList.contains type then spec.formatInt type n
  else if "eEfFgG%".toList.contains type then do spec.formatFloat (← (Num.int n).toFloat)
  else .error (FormatSpec.unknownType type typeName)

def formatFloatBy (x : Float) (spec : FormatSpec) : Except Failure (List Char) :=
  if spec.type.all fun t => "eEfFgGn%".toList.contains t then spec.formatFloat x
  else .error (FormatSpec.unknownType (spec.type.getD ' ') "float")

def formatBy (v : Value) (text : List Char) : Except Failure (List Char) :=
  match v with
  | str t => do
    let spec ← FormatSpec.parse false "str" text
    match spec.type with
    | Option.none | some 's' => spec.formatText t.toList
    | some c => .error (FormatSpec.unknownType c "str")
  | int n => do formatIntBy n "int" (← FormatSpec.parse true "int" text)
  | bool b => do
    formatIntBy (if b then 1 else 0) "bool" (← FormatSpec.parse true "bool" text)
  | float x => do formatFloatBy x (← FormatSpec.parse true "float" text)
  | nan _ => do formatFloatBy Number.notANumber (← FormatSpec.parse true "float" text)
  | complex re im => do
    let spec ← FormatSpec.parse true "complex" text
    if spec.type.all fun t => "eEfFgGn".toList.contains t then spec.formatComplex re im
    else .error (FormatSpec.unknownType (spec.type.getD ' ') "complex")
  | v => .error (.type ("unsupported format string passed to " ++ v.baseType ++ ".__format__"))

/-- A value by a specification; an empty one gives the printed form. -/
def format (s : Store) (v : Value) (spec : List Char) : Except Stop String :=
  if spec.isEmpty then v.displayText s
  else ((v.formatBy spec).map String.ofList).mapError .failed

end Value

end SnippetGrader
