import SnippetGrader.Builtin.Signature
import SnippetGrader.Number.Arithmetic

/-!
# Conversions

The functions that make a text, a number, a truth value or a list of another value, and those
between characters and their numbers. Each takes a value that is already bound to its parameter.
-/

namespace SnippetGrader.Convert

open Number

/-- The quoted form of a text, of which at most 200 characters are shown. -/
def excerpt (text : String) : String := String.ofList ((Text.quote text.toList).take 200)

/-- A text that is no whole number in a base. -/
def notInt (base : Int) (text : String) : IntError → Failure
  | .malformed =>
    .value ("invalid literal for int() with base " ++ toString base ++ ": " ++ excerpt text)
  | .tooLong n =>
    .value ("Exceeds the limit (4300 digits) for integer string conversion: value has " ++
      toString n ++ " digits; use sys.set_int_max_str_digits() to increase the limit")

/-- The whole number that a text names in a base. -/
def intOfString (base : Nat) (text : String) : Except Failure Int :=
  (intOfText base text.toList).mapError (notInt base text)

def intOfFloat (part : Float → Option Int) (x : Float) : Except Failure Int :=
  match part x with
  | some n => .ok n
  | none =>
    if x.isNaN then .error (.value "cannot convert float NaN to integer")
    else .error (.overflow "cannot convert float infinity to integer")

/-- A value of a type that converts to no whole number. -/
def noInt (type : String) : Failure :=
  .type ("int() argument must be a string, a bytes-like object or a real number, not '" ++ type ++
    "'")

/-- A value of a type that converts to no floating point number. -/
def noFloat (type : String) : Failure :=
  .type ("float() argument must be a string or a real number, not '" ++ type ++ "'")

/-- The whole number that a value converts to. Texts are read as they are. -/
def toInt : Value → Except Failure Int
  | .str t => intOfString 10 t
  | v =>
    match Num.ofValue? v with
    | some (.int n) => .ok n
    | some (.float x) => intOfFloat truncate? x
    | none => .error (noInt v.baseType)

/-- The whole number that a value names in a base. -/
def toIntInBase (v base : Value) : Except Failure Int := do
  let b ← asIndex base
  if b != 0 && (b < 2 || b > 36) then
    throw (.value "int() base must be >= 2 and <= 36, or 0")
  match v with
  | .str t => intOfString b.toNat t
  | _ => throw (.type "int() can't convert non-string with explicit base")

/-- The whole number that a program gets for a value: blanks around a text do not count. -/
def int (v base : Value) : Except Failure Value :=
  match base, v with
  | .none, .str t => .int <$> intOfString 10 (String.ofList (Text.trim t.toList))
  | .none, v => .int <$> toInt v
  | base, v => .int <$> toIntInBase v base

/-- The floating point number that a value converts to. -/
def toFloat : Value → Except Failure Float
  | .str t =>
    match floatOfText? t.toList with
    | some x => .ok x
    | none =>
      .error (.value ("could not convert string to float: " ++
        String.ofList (Text.quote t.toList)))
  | v =>
    match Num.ofValue? v with
    | some n => n.toFloat
    | none => .error (noFloat v.baseType)

/-- The floating point number that a program gets for a value; one that is there already stays the
same thing. -/
def float (v : Value) : Run Value :=
  match v with
  | .nan _ => return v
  | v => Run.computed (Value.float <$> toFloat v)

/-- The floating point number of a value that must be a number. -/
def realOf (v : Value) : Except Failure Float :=
  match Num.ofValue? v with
  | some n => n.toFloat
  | none => .error (.type ("must be real number, not " ++ v.baseType))

/-- The list that a value converts to: the items of a sequence, and otherwise the value alone. -/
def list (v : Value) : Run Value := do
  match v with
  | .none => Run.newList #[]
  | v =>
    match ← Run.sequence? v with
    | some xs => Run.newList xs.toArray
    | none => Run.newList #[v]

/-- The number of a character. -/
def ord : Value → Except Failure Value
  | .str t =>
    match t.toList with
    | [c] => .ok (.int c.toNat)
    | cs =>
      .error (.type ("ord() expected a character, but string of length " ++ toString cs.length ++
        " found"))
  | v => .error (.type ("ord() expected string of length 1, but " ++ v.baseType ++ " found"))

/-- The character with a number. Half of a surrogate pair is refused. -/
def chr (v : Value) : Except Failure Value := do
  let n ← asSmall v
  if n < 0 || n ≥ 0x110000 then throw (.value "chr() arg not in range(0x110000)")
  if !n.toNat.isValidChar then throw .surrogate
  return .str (Char.ofNat n.toNat).toString

/-- The size of a number without its sign. -/
def abs : Value → Except Failure Value
  | .complex re im =>
    match vectorLength? re im with
    | some x => .ok (.float x)
    | none => .error (.overflow "absolute value too large")
  | v =>
    match Num.ofValue? v with
    | some (.int n) => .ok (.int n.natAbs)
    | some (.float x) => .ok (.float x.abs)
    | none => .error (.type ("bad operand type for abs(): '" ++ v.baseType ++ "'"))

def roundFloat (x : Float) (places : Int) : Except Failure Value :=
  match roundFloat? x places with
  | some y => .ok (.float y)
  | none => .error (.overflow "rounded value too large to represent")

/-- A number rounded to decimal places, or to a whole number if `places` is none. -/
def round (v places : Value) : Except Failure Value :=
  match Num.ofValue? v, places with
  | none, _ => .error (.type ("type " ++ v.baseType ++ " doesn't define __round__ method"))
  | some (.int n), .none => .ok (.int n)
  | some (.float x), .none => .int <$> intOfFloat roundHalfEven? x
  | some (.int n), places => do
    let p ← asIndex places
    return .int (if p < 0 then roundInt n p.natAbs else n)
  | some (.float x), places => do roundFloat x (← asIndex places)

end SnippetGrader.Convert
