import SnippetGrader.Builtin.Sequence

/-!
# Methods of lists

What a program can do with a list in place: adding, removing, finding, counting and sorting items.
-/

namespace SnippetGrader.ListMethod

open Run

def append (ref : Nat) (args : List Value) (keywords : Keywords) : Run Value := do
  let v ← ofExcept (exactlyOne "list.append" args keywords)
  growList ref (·.push v)
  return .none

/-- Adds the items of a sequence at the end. -/
def extend (ref : Nat) (args : List Value) (keywords : Keywords) : Run Value := do
  let v ← ofExcept (exactlyOne "list.extend" args keywords)
  let more ← iteratePlain v
  if !more.isEmpty then growList ref (· ++ more.toArray)
  return .none

/-- Removes and gives the item at a position, which is the last one unless it is said. -/
def pop (ref : Nat) (args : List Value) (keywords : Keywords) : Run Value := do
  ofExcept (noKeywords "list.pop" keywords)
  ofExcept (between "pop" 0 1 args)
  let i ← ofExcept (asCount (args[0]?.getD (.int (-1))))
  let size := (← items ref).size
  if size == 0 then fail (.index "pop from empty list")
  match position? size i with
  | none => fail (.index "pop index out of range")
  | some j =>
    let v := (← items ref)[j]?.getD .none
    modifyStore fun s => { s with lists := s.lists.modify ref (·.eraseIdxIfInBounds j) }
    return v

def insert (ref : Nat) (args : List Value) (keywords : Keywords) : Run Value := do
  ofExcept (noKeywords "list.insert" keywords)
  ofExcept (between "insert" 2 2 args)
  let i ← ofExcept (asCount (args[0]?.getD .none))
  let size := (← items ref).size
  let j := clampBound size 0 size i
  growList ref (·.insertIdxIfInBounds j.toNat (args[1]?.getD .none))
  return .none

/-- A bound of a search, which cannot be left out. -/
def searchBound (v : Value) : Except Failure Int :=
  match v with
  | .int n => .ok n
  | .bool b => .ok (if b then 1 else 0)
  | _ => .error (.type "slice indices must be integers or have an __index__ method")

/-- Position of the first of some items that counts as equal to `v`, counted on from `i`. -/
def findEqual (s : Store) (v : Value) (i : Nat) : List Value → Except Failure (Option Nat)
  | [] => .ok none
  | w :: rest => do if ← Value.itemEq s w v then return some i else findEqual s v (i + 1) rest

/-- The position of an item between two bounds. -/
def index (ref : Nat) (args : List Value) (keywords : Keywords) : Run Value := do
  ofExcept (noKeywords "list.index" keywords)
  ofExcept (between "index" 1 3 args)
  let start ← ofExcept (searchBound (args[1]?.getD (.int 0)))
  let stop ← ofExcept (searchBound (args[2]?.getD (.int (Number.twoPow 63 - 1))))
  let xs ← items ref
  let n := xs.size
  let first := (clampBound n 0 n start).toNat
  let last := (clampBound n 0 n stop).toNat
  let v := args[0]?.getD .none
  match ← ofExcept (findEqual (← store) v first ((xs.toList.take last).drop first)) with
  | some i => return .int i
  | none => fail (.value ((← repr v) ++ " is not in list"))

/-- Number of items among some that count as equal to `v`, counted on from `n`. -/
def countEqual (s : Store) (v : Value) (n : Nat) : List Value → Except Failure Nat
  | [] => .ok n
  | w :: rest => do
    if ← Value.itemEq s w v then countEqual s v (n + 1) rest else countEqual s v n rest

/-- The number of items that are equal to a value. -/
def count (ref : Nat) (args : List Value) (keywords : Keywords) : Run Value := do
  let v ← ofExcept (exactlyOne "list.count" args keywords)
  return .int (← ofExcept (countEqual (← store) v 0 (← items ref).toList))

/-- Removes the first item that is equal to a value. -/
def remove (ref : Nat) (args : List Value) (keywords : Keywords) : Run Value := do
  let v ← ofExcept (exactlyOne "list.remove" args keywords)
  let xs ← items ref
  match ← ofExcept (findEqual (← store) v 0 xs.toList) with
  | some i =>
    setItems ref (xs.eraseIdxIfInBounds i)
    return .none
  | none => fail (.value "list.remove(x): x not in list")

def reverse (ref : Nat) (args : List Value) (keywords : Keywords) : Run Value := do
  ofExcept (noArguments "list.reverse" args keywords)
  setItems ref (← items ref).reverse
  return .none

def sortSlots : Slots := { name := "sort", params := ["key", "reverse"], namedOnly := true }

/-- Sorts the items. The list is empty while the keys are found; to put anything into it meanwhile
makes the sort fail in the end, and what was put is lost. -/
def sort (e : Engine) (ref : Nat) (args : List Value) (keywords : Keywords) : Run Value := do
  let bound ← ofExcept (sortSlots.bind args keywords)
  let descending ← ofExcept (asSmall (argumentAt bound 1 (.bool false)))
  let xs ← items ref
  beginSort ref
  let pairs ← try Sequence.keyed e (argumentAt bound 0 .none) xs.toList
    catch stop =>
      let _ ← endSort ref xs
      throw stop
  let o ← Sequence.sortByKey (descending != 0) pairs
  let touched ← endSort ref o.items.toArray
  match o.failure with
  | some f => fail f
  | none =>
    if touched then fail (.value "list modified during sort")
    return .none

def ofName? (e : Engine) (name : String) (ref : Nat) : Option (List Value → Keywords → Run Value) :=
  match name with
  | "append" => some (append ref)
  | "pop" => some (pop ref)
  | "insert" => some (insert ref)
  | "extend" => some (extend ref)
  | "index" => some (index ref)
  | "count" => some (count ref)
  | "remove" => some (remove ref)
  | "sort" => some (sort e ref)
  | "reverse" => some (reverse ref)
  | _ => none

end SnippetGrader.ListMethod
