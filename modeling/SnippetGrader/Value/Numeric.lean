import SnippetGrader.Machine.Failure
import SnippetGrader.Number.Arithmetic
import SnippetGrader.Value.Basic

/-!
# Numbers among the values

Truth values count as the whole numbers zero and one. `Num` is a real number, `Num.ofValue?` reads
a value as one. The arithmetic operations take the nearest floating point number of a whole number
as soon as one operand is a floating point number.
-/

namespace SnippetGrader

open Number

/-- A whole or a floating point number. -/
inductive Num where
  | int (n : Int)
  | float (x : Float)

namespace Num

def ofValue? : Value → Option Num
  | .bool b => some (.int (if b then 1 else 0))
  | .int n => some (.int n)
  | .float x => some (.float x)
  | .nan _ => some (.float notANumber)
  | _ => none

def toValue : Num → Value
  | int n => .int n
  | float x => .float x

def toFloat : Num → Except Failure Float
  | int n =>
    match floatOfInt? n with
    | some x => .ok x
    | none => .error (.overflow "int too large to convert to float")
  | float x => .ok x

/-- The order of two floating point numbers; NaN has none. -/
def compareFloats? (x y : Float) : Option Ordering :=
  if x < y then some .lt else if x == y then some .eq else if x > y then some .gt else none

/-- The order of two numbers, compared exactly; NaN has none. -/
def compare? : Num → Num → Option Ordering
  | int m, int n => some (Ord.compare m n)
  | int m, float y => (compareFloatInt? y m).map Ordering.swap
  | float x, int n => compareFloatInt? x n
  | float x, float y => compareFloats? x y

def negate : Num → Num
  | int n => int (-n)
  | float x => float (-x)

/-- Whether the absolute value of a number is above `bound`. -/
def sizeAbove (bound : Nat) : Num → Bool
  | int n => n.natAbs > bound
  | float x => x.abs > bound.toFloat

/-- An operation on two whole numbers or on two floating point numbers. -/
def combine (onInts : Int → Int → Except Failure Value)
    (onFloats : Float → Float → Except Failure Value) : Num → Num → Except Failure Value
  | int m, int n => onInts m n
  | a, b => do onFloats (← a.toFloat) (← b.toFloat)

def add : Num → Num → Except Failure Value :=
  combine (fun m n => .ok (.int (m + n))) (fun x y => .ok (.float (x + y)))

/-- The difference. -/
def sub : Num → Num → Except Failure Value :=
  combine (fun m n => .ok (.int (m - n))) (fun x y => .ok (.float (x - y)))

/-- The product. -/
def mul : Num → Num → Except Failure Value :=
  combine (fun m n => .ok (.int (m * n))) (fun x y => .ok (.float (x * y)))

/-- The quotient, which is always a floating point number. -/
def div : Num → Num → Except Failure Value :=
  combine
    (fun m n =>
      if n == 0 then .error (.zeroDivision "division by zero")
      else
        match divInts? m n with
        | some x => .ok (.float x)
        | none => .error (.overflow "integer division result too large for a float"))
    (fun x y =>
      if y == 0 then .error (.zeroDivision "float division by zero") else .ok (.float (x / y)))

def floorDiv : Num → Num → Except Failure Value :=
  combine
    (fun m n =>
      if n == 0 then .error (.zeroDivision "integer division or modulo by zero")
      else .ok (.int (m.fdiv n)))
    (fun x y =>
      if y == 0 then .error (.zeroDivision "float floor division by zero")
      else .ok (.float (Number.floorDiv x y)))

/-- The remainder of the division rounded to the floor. -/
def mod : Num → Num → Except Failure Value :=
  combine
    (fun m n =>
      if n == 0 then .error (.zeroDivision "integer modulo by zero") else .ok (.int (m.fmod n)))
    (fun x y =>
      if y == 0 then .error (.zeroDivision "float modulo") else .ok (.float (floorMod x y)))

def powFloats (x y : Float) : Except Failure Value :=
  match power x y with
  | .real z => .ok (.float z)
  | .complex re im => .ok (.complex re im)
  | .zeroToNegative => .error (.zeroDivision "0.0 cannot be raised to a negative power")
  | .tooLarge => .error (.overflow "(34, 'Numerical result out of range')")
  | .complexTooLarge => .error (.overflow "complex exponentiation")

def pow : Num → Num → Except Failure Value
  | int m, int n =>
    if 0 ≤ n then .ok (.int (Int.pow m n.toNat))
    else do powFloats (← (int m).toFloat) (← (int n).toFloat)
  | a, b => do powFloats (← a.toFloat) (← b.toFloat)

end Num

end SnippetGrader
