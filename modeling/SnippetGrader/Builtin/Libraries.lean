import SnippetGrader.Builtin.Convert
import SnippetGrader.Text.Base64

/-!
# The functions of the libraries

Base 64, locks, time and mathematics. Nothing here waits: sleeping returns at once and locks never
block.
-/

namespace SnippetGrader.Native

open Run Number

def decodeFailure : Text.Base64.DecodeError → Failure
  | .padding => { kind := "Error", message := "Incorrect padding" }
  | .lonelyDigit n =>
    { kind := "Error"
      message := "Invalid base64-encoded string: number of data characters (" ++ toString n ++
        ") cannot be 1 more than a multiple of 4" }

/-- The bytes that a text in base 64 stands for. -/
def decodeBytes : Value → Except Failure (List Nat)
  | .str t =>
    if t.toList.any fun c => c.toNat ≥ 128 then
      .error (.value "string argument should contain only ASCII characters")
    else (Text.Base64.decode t.toList).mapError decodeFailure
  | v =>
    .error (.type ("argument should be a bytes-like object or ASCII string, not '" ++
      v.baseType ++ "'"))

def byteOf (v : Value) : Except Failure Nat := do
  let n ← asIndex v
  if 0 ≤ n && n < 256 then return n.toNat
  else throw (.value "bytes must be in range(0, 256)")

def zeroBytes (memory : Nat) (n : Int) : Except Failure (List Nat) :=
  if !fitsIndex n then .error (.overflow "cannot fit 'int' into an index-sized integer")
  else if n < 0 then .error (.value "negative count")
  else if n.toNat > memory then .error { kind := "MemoryError", message := "" }
  else .ok (List.replicate n.toNat 0)

/-- The bytes that a value stands for: those of a text, those that a list names, or as many zeros
as a number says. -/
def bytesOf (s : Store) : Value → Except Failure (List Nat)
  | .str t => .ok (t.toUTF8.toList.map UInt8.toNat)
  | .list ref => (s.items ref).toList.mapM byteOf
  | .int n => zeroBytes s.host.memory n
  | .bool b => zeroBytes s.host.memory (if b then 1 else 0)
  | v => .error (.type ("cannot convert '" ++ v.baseType ++ "' object to bytes"))

def squareRoot (v : Value) : Except Failure Value := do
  let x ← Convert.realOf v
  if x < 0 then throw (.value "math domain error")
  return .float x.sqrt

/-- A number rounded to a whole number by `part`. -/
def rounded (part : Float → Option Int) (v : Value) : Except Failure Value :=
  match Num.ofValue? v with
  | some (.int n) => .ok (.int n)
  | _ => do return .int (← Convert.intOfFloat part (← Convert.realOf v))

def commonDivisor (args : List Value) : Except Failure Value := do
  let ns ← args.mapM asIndex
  let d : Nat := ns.foldl (fun d n => d.gcd n.natAbs) 0
  return .int d

/-- The first parameter's argument in a call of a function with named parameters. -/
def onlyArgument (sig : Signature) (args : List Value) (keywords : Keywords) : Except Failure Value := do
  let (bound, _) ← sig.bind args keywords
  return argumentAt bound 0 (.int 0)

def invoke (f : Native) (args : List Value) (keywords : Keywords) : Run Value := do
  match f with
  | decode64 =>
    let v ← ofExcept (onlyArgument { name := "_b64decode", required := ["data"] } args keywords)
    let bytes ← ofExcept (decodeBytes v)
    newList (bytes.map fun (n : Nat) => Value.int n).toArray
  | encode64 =>
    let v ← ofExcept (onlyArgument { name := "_b64encode", required := ["data"] } args keywords)
    let bytes ← ofExcept (bytesOf (← store) v)
    return .str (String.ofList (Text.Base64.encode bytes))
  | makeLock =>
    if args.isEmpty && keywords.isEmpty then newLock
    else fail (.type "LockObject() takes no arguments")
  | sleep =>
    let _ ← ofExcept (onlyArgument { name := "_sleep", optional := ["seconds"] } args keywords)
    return .none
  | now =>
    ofExcept (noArguments "time.time" args keywords)
    lookAtClock
  | sqrt => computed (do squareRoot (← exactlyOne "math.sqrt" args keywords))
  | floor => ofExcept (do rounded floor? (← exactlyOne "math.floor" args keywords))
  | ceil => ofExcept (do rounded ceil? (← exactlyOne "math.ceil" args keywords))
  | gcd =>
    ofExcept (noKeywords "math.gcd" keywords)
    ofExcept (commonDivisor args)

end SnippetGrader.Native
