import SnippetGrader.Sorting.Search

/-!
# Sorted stretches

`cut` takes a sorted stretch from the start of a list. A stretch that goes up is kept and one that
goes strictly down is reversed; a short one is filled up by inserting the items that follow it.
-/

namespace SnippetGrader.Sorting

variable {α ε : Type}

/-- A list whose first part is sorted, and the failure that stopped the sorting. -/
structure Cut (ε α : Type) where
  sorted : List α
  rest : List α
  failure : Option ε := none

/-- Number of items of a stretch of which `n` are known, the last of them `last`. -/
def stretchLengthFrom (less : α → α → Except ε Bool) (down : Bool) (n : Nat) (last : α) :
    List α → Except ε Nat
  | [] => .ok n
  | x :: rest => do
    if (← less x last) == down then stretchLengthFrom less down (n + 1) x rest else return n

/-- Number of items of the stretch at the start of a list, and whether it goes strictly down. -/
def stretchLength (less : α → α → Except ε Bool) : List α → Except ε (Nat × Bool)
  | x :: y :: rest => do
    let down ← less y x
    return (← stretchLengthFrom less down 2 y rest, down)
  | xs => .ok (xs.length, false)

/-- The place of `x` among sorted items: after all that are not greater. -/
def insertionPoint (less : α → α → Except ε Bool) (sorted : Array α) (x : α) : Except ε Nat :=
  let goes (i : Nat) : Except ε Bool :=
    match sorted[i]? with
    | some y => (! ·) <$> less x y
    | none => .ok false
  bisect .front goes 0 sorted.size

/-- Inserts `count` items of a list into sorted ones, one after the other. -/
def insertEach (less : α → α → Except ε Bool) (sorted : Array α) :
    (count : Nat) → List α → Cut ε α
  | count + 1, x :: rest =>
    match insertionPoint less sorted x with
    | .ok i => insertEach less (sorted.insertIdxIfInBounds i x) count rest
    | .error e => { sorted := sorted.toList, rest := x :: rest, failure := some e }
  | _, rest => { sorted := sorted.toList, rest }

/-- Takes a sorted stretch of at least `least` items from the start of a list, or all of it if it
is shorter. -/
def cut (less : α → α → Except ε Bool) (least : Nat) (xs : List α) : Cut ε α :=
  match stretchLength less xs with
  | .error e => { sorted := [], rest := xs, failure := some e }
  | .ok (n, down) =>
    let start := if down then (xs.take n).reverse else xs.take n
    insertEach less start.toArray (least - n) (xs.drop n)

/-- The least length of a stretch of a list of `n` items: the list has about a power of two times
as many. One is added if a digit that is dropped, or `odd`, is one. -/
def leastLength (n : Nat) (odd : Nat := 0) : Nat :=
  if n < 64 then n + odd else leastLength (n / 2) (max odd (n % 2))
termination_by n

end SnippetGrader.Sorting
