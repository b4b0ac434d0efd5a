import SnippetGrader.Value.Order

/-!
# Operators

`Operator.apply` is an operator of the language. A text on the left of `+` takes up the printed
form of anything, texts and lists can be repeated, and everything else is arithmetic of numbers,
where a text that reads as a number counts as one. `plainAdd` and `plainSub` are the stricter
operations that objects and sums use, which never read texts as numbers.
-/

namespace SnippetGrader

open Number

/-- An arithmetic operator. -/
inductive Operator where
  | add | sub | mul | div | floorDiv | mod | pow
  /-- A symbol that is no operator of the language. -/
  | other (text : String)
deriving DecidableEq, Repr

namespace Operator

/-- How an operator is written. -/
def text : Operator → String
  | add => "+" | sub => "-" | mul => "*" | div => "/" | floorDiv => "//" | mod => "%"
  | pow => "**" | other t => t

def ofText : String → Operator
  | "+" => add | "-" => sub | "*" => mul | "/" => div | "//" => floorDiv | "%" => mod
  | "**" => pow | t => other t

end Operator

def maxExponent : Nat := 64

/-- The largest number of items or characters that one step may build. -/
def maxSequence : Nat := 100000

/-- Whether a whole number can count items. -/
def fitsIndex (n : Int) : Bool := -(twoPow 63) ≤ n && n < twoPow 63

def numberOfText? (text : List Char) : Option Num :=
  let text := Text.trim text
  match intOfText 10 text with
  | .ok n => some (.int n)
  | .error _ => (floatOfText? text).map .float

def operand (s : Store) (op : String) (v : Value) : Except Failure Num :=
  let found := match v with
    | .str t => numberOfText? t.toList
    | v => Num.ofValue? v
  match found with
  | some n => .ok n
  | none => .error (.type ("unsupported operand type(s) for " ++ op ++ ": '" ++ v.typeName s ++ "'"))

def Operator.onNumbers (op : Operator) (a b : Num) : Except Failure Value :=
  match op with
  | .add => a.add b
  | .sub => a.sub b
  | .mul => a.mul b
  | .div => a.div b
  | .floorDiv => a.floorDiv b
  | .mod => a.mod b
  | .pow =>
    if b.sizeAbove maxExponent then .error (.overflow "Exponent too large; max 64") else a.pow b
  | .other t => .error (.form ("Unsupported operator " ++ t))

/-- How often a sequence of `length` items is repeated. -/
def repetitions (length : Nat) (count : Int) : Except Failure Nat :=
  if length * count.toNat > maxSequence then .error .tooLarge
  else if !fitsIndex count then .error (.overflow "cannot fit 'int' into an index-sized integer")
  else .ok count.toNat

def repeatItems (xs : Array Value) : (count : Nat) → Array Value
  | 0 => #[]
  | count + 1 => repeatItems xs count ++ xs

namespace Run

def repeatSequence (v : Value) (count : Int) : Run Value := do
  match v with
  | .list ref =>
    let xs ← items ref
    newList (repeatItems xs (← ofExcept (repetitions xs.size count)))
  | .str t =>
    let n ← ofExcept (repetitions t.length count)
    return .str (String.join (List.replicate n t))
  | v => return v

/-- Whether a value is a list or a text. -/
def isSequence : Value → Bool
  | .list _ | .str _ => true
  | _ => false

/-- An operator on two values. -/
def operate (op : Operator) (v w : Value) : Run Value := do
  let arithmetic : Run Value := do
    let s ← store
    let a ← ofExcept (operand s op.text v)
    let b ← ofExcept (operand s op.text w)
    computed (op.onNumbers a b)
  match op, v, w with
  | .add, .str a, w =>
    let b ← display w
    if a.length + b.length > maxSequence then fail .tooLarge
    return .str (a ++ b)
  | .add, .list a, .list b =>
    let xs ← items a
    let ys ← items b
    if xs.size + ys.size > maxSequence then fail .tooLarge
    newList (xs ++ ys)
  | .mul, v, .int n => if isSequence v then repeatSequence v n else arithmetic
  | .mul, .int n, w => if isSequence w then repeatSequence w n else arithmetic
  | _, _, _ => arithmetic

def complexParts? : Value → Option (Except Failure (Float × Float))
  | .complex re im => some (.ok (re, im))
  | v => (Num.ofValue? v).map fun n => (·, 0) <$> n.toFloat

def unsupported (op : String) (v w : Value) : Failure :=
  .type ("unsupported operand type(s) for " ++ op ++ ": '" ++ v.baseType ++ "' and '" ++
    w.baseType ++ "'")

/-- A sum or difference of numbers, complex ones included. -/
def plainNumeric (op : String) (onReal : Num → Num → Except Failure Value)
    (onPart : Float → Float → Float) (v w : Value) : Except Failure Value :=
  match Num.ofValue? v, Num.ofValue? w with
  | some a, some b => onReal a b
  | _, _ =>
    match complexParts? v, complexParts? w with
    | some a, some b => do
      let (re, im) ← a
      let (re', im') ← b
      return .complex (onPart re re') (onPart im im')
    | _, _ => .error (unsupported op v w)

/-- The sum of two numbers, two texts or two lists. -/
def plainAdd (v w : Value) : Run Value := do
  match v, w with
  | .str a, .str b => return .str (a ++ b)
  | .str _, w =>
    fail (.type ("can only concatenate str (not \"" ++ w.baseType ++ "\") to str"))
  | .list a, .list b => newList ((← items a) ++ (← items b))
  | .list _, w =>
    fail (.type ("can only concatenate list (not \"" ++ w.baseType ++ "\") to list"))
  | v, w => computed (plainNumeric "+" Num.add (· + ·) v w)

def plainSub (v w : Value) : Run Value :=
  computed (plainNumeric "-" Num.sub (· - ·) v w)

def compareBy (c : Value.Comparison) (v w : Value) : Run Bool := do
  ofExcept (v.compareBy (← store) c w)

end Run

end SnippetGrader
