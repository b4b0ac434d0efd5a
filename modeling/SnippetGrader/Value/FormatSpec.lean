import SnippetGrader.Machine.Failure
import SnippetGrader.Number.Power
import SnippetGrader.Text.Digit

/-!
# Format specifications

The text after the colon of a replacement field: fill and alignment, sign, coercion of negative
zero, alternate form, zero padding, width, grouping, precision and presentation type, in this
order and each of them optional.
-/

namespace SnippetGrader

open Text

/-- How a value is laid out in a field. -/
structure FormatSpec where
  fill : Char := ' '
  align : Char
  sign : Option Char := none
  plainZero : Bool := false
  alternate : Bool := false
  width : Option Nat := none
  grouping : Option Char := none
  precision : Option Nat := none
  type : Option Char := none
deriving Repr

namespace FormatSpec

/-- A sign of alignment. -/
def isAlign (c : Char) : Bool := c == '<' || c == '>' || c == '=' || c == '^'

def isSign (c : Char) : Bool := c == ' ' || c == '+' || c == '-'

/-- The number at the start of a text, if it starts with one, and what follows. -/
def readNumber (text : List Char) : Except Failure (Option Nat × List Char) :=
  let (digits, rest) := text.span isDecimalDigit
  if digits.isEmpty then .ok (none, text)
  else
    let n := digits.foldl (fun acc c => acc * 10 + (digitValue? c).getD 0) 0
    if n < Number.twoPow 63 then .ok (some n, rest)
    else .error (.value "Too many decimal digits in format string")

/-- A character of a message, as its code if it is no visible ASCII character. -/
def shown (c : Char) : String :=
  if 32 < c.toNat && c.toNat < 128 then c.toString
  else "\\x" ++ String.ofList (Nat.toDigits 16 c.toNat)

/-- A presentation type that a kind of value does not have. -/
def unknownType (c : Char) (typeName : String) : Failure :=
  .value ("Unknown format code '" ++ shown c ++ "' for object of type '" ++ typeName ++ "'")

/-- Refuses grouping for the types that do not group; `usual` is the type of a specification that
names none. -/
def checkGrouping (usual : Option Char) (spec : FormatSpec) : Except Failure FormatSpec :=
  match spec.grouping, spec.type <|> usual with
  | none, _ => .ok spec
  | some _, none => .ok spec
  | some g, some t =>
    if "defgEG%F".toList.contains t then .ok spec
    else if "boxX".toList.contains t && g == '_' then .ok spec
    else .error (.value ("Cannot specify '" ++ g.toString ++ "' with '" ++ shown t ++ "'."))

/-- Splits off fill and alignment: the fill, the alignment and what follows. -/
def splitAlign (text : List Char) : Option Char × Option Char × List Char :=
  match text with
  | f :: a :: rest =>
    if isAlign a then (some f, some a, rest)
    else if isAlign f then (none, some f, a :: rest)
    else (none, none, text)
  | [a] => if isAlign a then (none, some a, []) else (none, none, text)
  | [] => (none, none, [])

def splitIf (p : Char → Bool) (text : List Char) : Option Char × List Char :=
  match text with
  | c :: rest => if p c then (some c, rest) else (none, text)
  | [] => (none, [])

def splitGrouping (text : List Char) : Except Failure (Option Char × List Char) :=
  let both : Failure := .value "Cannot specify both ',' and '_'."
  match text with
  | ',' :: '_' :: _ => .error both
  | '_' :: ',' :: _ => .error both
  | ',' :: rest => .ok (some ',', rest)
  | '_' :: rest => .ok (some '_', rest)
  | _ => .ok (none, text)

def splitPrecision (text : List Char) : Except Failure (Option Nat × List Char) :=
  match text with
  | '.' :: rest => do
    match ← readNumber rest with
    | (none, _) => .error (.value "Format specifier missing precision")
    | found => return found
  | _ => .ok (none, text)

/-- Reads a format specification for a value of type `typeName`. Values of numeric type are
aligned to the right, and zero padding goes between their sign and digits. -/
def parse (numeric : Bool) (typeName : String) (text : List Char) : Except Failure FormatSpec := do
  let (fill, align, rest) := splitAlign text
  let (sign, rest) := splitIf isSign rest
  let (plainZero, rest) := splitIf (· == 'z') rest
  let (alternate, rest) := splitIf (· == '#') rest
  let (zero, rest) := if fill.isNone then splitIf (· == '0') rest else (none, rest)
  let (width, rest) ← readNumber rest
  let (grouping, rest) ← splitGrouping rest
  let (precision, rest) ← splitPrecision rest
  match rest with
  | _ :: _ :: _ =>
    .error (.value ("Invalid format specifier '" ++ String.ofList text ++ "' for object of type '" ++
      typeName ++ "'"))
  | _ =>
    checkGrouping (if numeric then none else some 's') {
      fill := fill.getD (if zero.isSome then '0' else ' ')
      align := align.getD (if !numeric then '<' else if zero.isSome then '=' else '>')
      sign, grouping, width, precision
      plainZero := plainZero.isSome
      alternate := alternate.isSome
      type := rest.head? }

/-- The padding before and after a text of `length` characters. -/
def padding (spec : FormatSpec) (length : Nat) : Nat × Nat :=
  let free := spec.width.getD 0 - length
  if spec.align == '>' then (free, 0)
  else if spec.align == '^' then (free / 2, free - free / 2)
  else (0, free)

/-- A text with fill characters up to the width. -/
def pad (spec : FormatSpec) (text : List Char) : List Char :=
  let (left, right) := spec.padding text.length
  List.replicate left spec.fill ++ text ++ List.replicate right spec.fill

end FormatSpec

end SnippetGrader
