import SnippetGrader.Builtin.Signature
import SnippetGrader.Sorting.Schedule
import SnippetGrader.Value.Slice

/-!
# Functions on sequences

Counting, searching, sorting and combining the items of lists and texts. Functions that are passed
as arguments are called through the engine.
-/

namespace SnippetGrader.Sequence

open Run

def len (v : Value) : Run Value := do
  match v with
  | .list ref => return .int (← items ref).size
  | .str t => return .int t.length
  | v => fail (.type ("object of type '" ++ (← typeName v) ++ "' has no len()"))

def any (v : Value) : Run Value := do
  let xs ← iterate v
  let s ← store
  return .bool (xs.any (·.truthy s))

/-- Whether all items count as true. -/
def all (v : Value) : Run Value := do
  let xs ← iterate v
  let s ← store
  return .bool (xs.all (·.truthy s))

/-- The progression that one to three arguments describe. -/
def progression : List Value → Except Failure Progression
  | [stop] => return ⟨0, ← asIndex stop, 1⟩
  | [start, stop] => return ⟨← asIndex start, ← asIndex stop, 1⟩
  | [start, stop, step] => do
    let p : Progression := ⟨← asIndex start, ← asIndex stop, ← asIndex step⟩
    if p.step == 0 then throw (.value "range() arg 3 must not be zero")
    return p
  | args =>
    .error (.type ("range expected 1 to 3 arguments, got " ++ toString args.length))

def range (args : List Value) : Run Value := do
  let p ← ofExcept (progression args)
  let n := p.size
  if n ≥ Number.twoPow 63 then fail (.overflow "Python int too large to convert to C ssize_t")
  if n > maxSequence then fail .tooLarge
  newList ((Array.range n).map fun i => .int (p.term i))

def newLists (groups : List (List Value)) : Run Value := do
  let lists ← groups.mapM fun g => newList g.toArray
  newList lists.toArray

/-- The items with their numbers, counted on from `start`. -/
def enumerate (v start : Value) : Run Value := do
  let xs ← iterate v
  let first ← ofExcept (asIndex start)
  newLists (xs.zipIdx.map fun p => [.int (first + p.2), p.1])

/-- The heads and the tails of some lists, if none is empty. -/
def heads? : List (List Value) → Option (List Value × List (List Value))
  | [] => some ([], [])
  | [] :: _ => none
  | (x :: xs) :: rest => (heads? rest).map fun p => (x :: p.1, xs :: p.2)

/-- The items at the same positions, `fuel` times at most and only as long as all lists have
one. -/
def groups : (fuel : Nat) → List (List Value) → List (List Value)
  | 0, _ => []
  | fuel + 1, lists =>
    match heads? lists with
    | some (group, rest) => group :: groups fuel rest
    | none => []

/-- The items of several sequences at the same positions. -/
def zip (args : List Value) : Run Value := do
  let lists ← args.mapM iterate
  newLists (groups ((lists.head?.map List.length).getD 0) lists)

def reversed (v : Value) : Run Value := do newList (← iterate v).reverse.toArray

def map (e : Engine) (f v : Value) : Run Value := do
  let results ← (← iterate v).mapM fun x => e.apply f [x] []
  newList results.toArray

/-- The items for which a function gives a true value; without a function, those that are true. -/
def filter (e : Engine) (f v : Value) : Run Value := do
  let kept ← (← iterate v).filterM fun x => do
    match f with
    | .none => truthy x
    | f => truthy (← e.apply f [x] [])
  newList kept.toArray

/-- The items with their keys, which a function gives; without a function, an item is its own
key. -/
def keyed (e : Engine) (key : Value) (xs : List Value) : Run (List (Value × Value)) :=
  match key with
  | .none => return xs.map fun x => (x, x)
  | key => xs.mapM fun x => return (← e.apply key [x] [], x)

def sortByKey (descending : Bool) (pairs : List (Value × Value)) : Run (Sorting.Outcome Failure Value) := do
  let s ← store
  let o := Sorting.sort (fun a b => Value.relate s .lt a.1 b.1) descending pairs
  return { items := o.items.map (·.2), failure := o.failure }

def sorted (e : Engine) (v reverse key : Value) : Run Value := do
  let xs ← iterate v
  let descending ← ofExcept (asSmall reverse)
  let o ← sortByKey (descending != 0) (← keyed e key xs)
  match o.failure with
  | some f => fail f
  | none => newList o.items.toArray

/-- The sum of the items and a start value. It is a new thing even if nothing is added. -/
def sum (v start : Value) : Run Value := do
  let xs ← iteratePlain v
  match start with
  | .str _ => fail (.type "sum() can't sum strings [use ''.join(seq) instead]")
  | start =>
    match ← xs.foldlM plainAdd start with
    | .nan _ => newNan
    | v => return v

/-- Which end of the order is looked for. -/
inductive Extreme where
  | least | greatest
deriving DecidableEq, Repr

/-- The name of the function that finds an extreme. -/
def Extreme.name : Extreme → String
  | least => "min"
  | greatest => "max"

/-- The relation of a better candidate to the best one so far. -/
def Extreme.relation : Extreme → Value.Relation
  | least => .lt
  | greatest => .gt

/-- The best of some items with their keys, after the best one so far. -/
def bestOf (s : Store) (x : Extreme) (best : Value × Value) :
    List (Value × Value) → Except Failure Value
  | [] => .ok best.2
  | p :: rest => do
    if ← Value.relate s x.relation p.1 best.1 then bestOf s x p rest else bestOf s x best rest

/-- As `bestOf`, where the key of an item is found just before it is compared. -/
def bestByKey (e : Engine) (x : Extreme) (key : Value) (best : Value × Value) :
    List Value → Run Value
  | [] => return best.2
  | v :: rest => do
    let k ← e.apply key [v] []
    if ← ofExcept (Value.relate (← store) x.relation k best.1) then bestByKey e x key (k, v) rest
    else bestByKey e x key best rest

/-- The parameters of the functions that find an extreme. -/
def Extreme.slots (x : Extreme) : Slots :=
  { name := x.name, params := ["key", "default"], namedOnly := true }

def extreme (e : Engine) (x : Extreme) (args : List Value) (keywords : Keywords) : Run Value := do
  if args.isEmpty then
    fail (.type (x.name ++ " expected at least 1 argument, got 0"))
  let bound ← ofExcept (x.slots.bind [] keywords)
  let default := bound[1]?.join
  if args.length > 1 && default.isSome then
    fail (.type ("Cannot specify a default for " ++ x.name ++
      "() with multiple positional arguments"))
  let xs ← match args with
    | [v] => iteratePlain v
    | args => pure args
  match xs, argumentAt bound 0 .none, default with
  | [], _, some v => return v
  | [], _, none => fail (.value (x.name ++ "() arg is an empty sequence"))
  | v :: rest, .none, _ => ofExcept (bestOf (← store) x (v, v) (rest.map fun w => (w, w)))
  | v :: rest, key, _ => bestByKey e x key (← e.apply key [v] [], v) rest

end SnippetGrader.Sequence
