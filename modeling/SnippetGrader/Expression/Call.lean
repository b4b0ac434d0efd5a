import SnippetGrader.Builtin.Invoke
import SnippetGrader.Builtin.Libraries
import SnippetGrader.Builtin.ListMethod
import SnippetGrader.Builtin.TextMethod

/-!
# Calls, attributes and subscripts

What a program can do with a value that it has: call it, call one of its methods, ask for a field,
and take an item or a slice.
-/

namespace SnippetGrader.Expression

open Run

def isCallable : Value → Bool
  | .builtin _ | .native _ | .function _ | .template _ => true
  | _ => false

def callValue (e : Engine) (v : Value) (args : List Value) (keywords : Keywords) : Run Value := do
  if isCallable v then guardCall (e.apply v args keywords)
  else fail (.type ("'" ++ (← typeName v) ++ "' object is not callable"))

/-! ## Methods -/

/-- The name and the value of the field of an object that its methods work on. -/
def mainField (s : Store) (ref : Nat) : String × Value :=
  let name := ((s.objects[ref]?.bind fun o => s.templates[o.template]?).map (·.field)).getD ""
  (name, ((s.objects[ref]?.bind fun o => o.fields.get? name)).getD (.int 0))

/-- The amount that a method of an object is called with. -/
def amountOf (name : String) (ref : Nat) (args : List Value) (keywords : Keywords) :
    Except Failure Value := do
  let sig : Signature := { name := "Instance." ++ name, required := ["self", "amount"] }
  let (bound, _) ← sig.bind (.object ref :: args) keywords
  return argumentAt bound 1 .none

/-- Adds an amount to the field of an object. -/
def deposit (ref : Nat) (args : List Value) (keywords : Keywords) : Run Value := do
  let amount ← ofExcept (amountOf "deposit" ref args keywords)
  let (name, current) := mainField (← store) ref
  setField ref name (← plainAdd current amount)
  return amount

/-- Takes an amount from the field of an object if there is enough, and gives what was taken. -/
def withdraw (ref : Nat) (args : List Value) (keywords : Keywords) : Run Value := do
  let amount ← ofExcept (amountOf "withdraw" ref args keywords)
  let (name, current) := mainField (← store) ref
  if ← compareBy (.order .le) amount current then
    setField ref name (← plainSub current amount)
    return amount
  else return .int 0

def objectMethod? (ref : Nat) : String → Option (List Value → Keywords → Run Value)
  | "deposit" => some (deposit ref)
  | "withdraw" => some (withdraw ref)
  | _ => none

/-- The method of a lock with a given name. Locks never block. -/
def lockMethod? (self : Value) : String → Option (List Value → Keywords → Run Value)
  | "acquire" => some fun args keywords => do
    let sig : Signature := { name := "LockObject.acquire", required := ["self"], variadic := true }
    let _ ← ofExcept (sig.bind (self :: args) keywords)
    return .bool true
  | "release" => some fun args keywords => do
    let sig : Signature := { name := "LockObject.release", required := ["self"] }
    let _ ← ofExcept (sig.bind (self :: args) keywords)
    return .none
  | _ => none

def method? (e : Engine) (v : Value) (name : String) : Option (List Value → Keywords → Run Value) :=
  match v with
  | .str t => TextMethod.ofName? name t
  | .list ref => ListMethod.ofName? e name ref
  | .object ref => objectMethod? ref name
  | .lock _ => lockMethod? v name
  | _ => none

def noAttribute (v : Value) (name : String) : Run Failure :=
  return .missing ("'" ++ (← typeName v) ++ "' object has no attribute '" ++ name ++ "'")

/-- Calls a method of a value or a function of a library. -/
def callMethod (e : Engine) (v : Value) (name : String) (args : List Value) (keywords : Keywords) :
    Run Value := do
  match v with
  | .library lib =>
    match lib.attribute? name with
    | some f => callValue e f args keywords
    | none => fail (.missing ("module '" ++ lib.name ++ "' has no attribute '" ++ name ++ "'"))
  | v =>
    match method? e v name with
    | some m => guardCall (m args keywords)
    | none => fail (← noAttribute v name)

/-! ## Attributes and items -/

/-- A field of an object, or what a library holds under a name. -/
def attributeOf (v : Value) (name : String) : Run Value := do
  let s ← store
  let found := match v with
    | .object ref => s.objects[ref]?.bind fun o => o.fields.get? name
    | .library lib => lib.attribute? name
    | _ => none
  match found with
  | some w => return w
  | none => fail (← noAttribute v name)

/-- The items of a list or of a text at a slice. -/
def slice (v start stop step : Value) : Run Value := do
  let sl ← ofExcept (Slice.ofValues start stop step)
  match v with
  | .list ref => newList (sl.take (← items ref))
  | .str t => return .str (String.ofList (sl.take t.toList.toArray).toList)
  | v => return v

/-- The position that a subscript names. -/
def subscriptIndex? : Value → Option Int
  | .int n => some n
  | .bool b => some (if b then 1 else 0)
  | _ => none

/-- The item of a list or of a text at a position. -/
def item (v key : Value) : Run Value := do
  match subscriptIndex? key with
  | none =>
    fail (.type ((← typeName v) ++ " indices must be integers, not " ++ (← typeName key)))
  | some i =>
    let s ← store
    let xs := match v with
      | .list ref => s.items ref
      | .str t => (t.toList.map fun (c : Char) => Value.str c.toString).toArray
      | _ => #[]
    match (position? xs.size i).bind fun j => xs[j]? with
    | some w => return w
    | none => fail (.index ((← typeName v) ++ " index out of range"))

end SnippetGrader.Expression
