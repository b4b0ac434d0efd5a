import SnippetGrader.Sorting.Search

/-!
# Merging two sorted lists

Two neighbouring lists are merged into one, in which of equal items those of the left list come
first. Merging starts at the side of the shorter list. It goes item by item, until one list has
supplied so many items in a row that it pays to search ahead for the end of its next stretch;
`Merging.patience` is that number, and it changes with the success of such searches. When a
comparison fails, the items are left as they stand at that moment.
-/

namespace SnippetGrader.Sorting

variable {α ε : Type}

/-- Two lists that are being merged, both given from the side on which merging starts. The list
that lies on that side is `near` and the other one is `far`. -/
structure Merging (α : Type) where
  /-- The items whose place is found, beginning at that side. -/
  done : Array α := #[]
  near : List α
  far : List α
  /-- How many items in a row one list supplies before it is searched ahead. -/
  patience : Nat

namespace Merging

/-- Whether nothing is left to be compared. The last item of the near list is known to belong
behind the far list. -/
def isOver (m : Merging α) : Bool :=
  match m.near, m.far with
  | [], _ | [_], _ | _, [] => true
  | _, _ => false

/-- All items, in the order in which they stand. -/
def items (m : Merging α) : List α :=
  m.done.toList ++
    match m.near with
    | [x] => m.far ++ [x]
    | near => near ++ m.far

/-- Puts `n` items of the near list into their place. -/
def takeNear (n : Nat) (m : Merging α) : Merging α :=
  { m with done := m.done ++ (m.near.take n).toArray, near := m.near.drop n }

/-- Puts `n` items of the far list into their place. -/
def takeFar (n : Nat) (m : Merging α) : Merging α :=
  { m with done := m.done ++ (m.far.take n).toArray, far := m.far.drop n }

end Merging

/-- A computation on two lists that are being merged. -/
abbrev MergeM (ε α : Type) := EStateM ε (Merging α)

/-- Whether an item of the far list comes before one of the near list, seen from the side on which
merging starts. -/
def Side.farFirst (side : Side) (less : α → α → Except ε Bool) (far near : α) : Except ε Bool :=
  match side with
  | .front => less far near
  | .back => less near far

/-- How many items in a row make a search ahead a success. -/
def longStretch : Nat := 7

/-- How a merge proceeds. -/
inductive Pace where
  /-- Item by item; the numbers say how many items in a row the near and the far list supplied. -/
  | steady (near far : Nat)
  /-- By searching ahead. -/
  | ahead

/-- Compares the next two items and takes one of them. -/
def stepOnce (side : Side) (less : α → α → Except ε Bool) (near far : Nat) : MergeM ε α Pace := do
  let m ← get
  match m.near, m.far with
  | x :: _, y :: _ =>
    if ← MonadExcept.ofExcept (side.farFirst less y x) then
      set (m.takeFar 1)
      return if far + 1 ≥ m.patience then .ahead else .steady 0 (far + 1)
    else
      set (m.takeNear 1)
      return if near + 1 ≥ m.patience then .ahead else .steady (near + 1) 0
  | _, _ => return .steady near far

/-- Takes all items of the near list that come before the next one of the far list, and then that
one; gives the number of the former. -/
def searchNear (side : Side) (less : α → α → Except ε Bool) : MergeM ε α Nat := do
  let m ← get
  match m.far with
  | [] => return 0
  | y :: _ =>
    if m.isOver then return 0
    let n ← MonadExcept.ofExcept (reach side (fun x => (! ·) <$> side.farFirst less y x) m.near)
    let m := m.takeNear n
    set (if m.isOver then m else m.takeFar 1)
    return n

/-- Takes all items of the far list that come before the next one of the near list, and then that
one; gives the number of the former. -/
def searchFar (side : Side) (less : α → α → Except ε Bool) : MergeM ε α Nat := do
  let m ← get
  match m.near with
  | [] => return 0
  | x :: _ =>
    if m.isOver then return 0
    let n ← MonadExcept.ofExcept (reach side (fun y => side.farFirst less y x) m.far)
    let m := m.takeFar n
    set (if m.isOver then m else m.takeNear 1)
    return n

/-- Searches both lists ahead, the left one first. A success makes the next search come sooner, and
after a failure it comes later. -/
def stepAhead (side : Side) (less : α → α → Except ε Bool) : MergeM ε α Pace := do
  let (n, k) ← match side with
    | .front => do
      let n ← searchNear side less
      pure (n, ← searchFar side less)
    | .back => do
      let k ← searchFar side less
      pure (← searchNear side less, k)
  let m ← get
  if m.isOver then return .ahead
  if n ≥ longStretch || k ≥ longStretch then
    set { m with patience := max 1 (m.patience - 1) }
    return .ahead
  else
    set { m with patience := m.patience + 1 }
    return .steady 0 0

/-- Merges until nothing is left to be compared, in at most `fuel` steps. -/
def mergeSteps (side : Side) (less : α → α → Except ε Bool) : (fuel : Nat) → Pace → MergeM ε α Unit
  | 0, _ => return
  | fuel + 1, pace => do
    if (← get).isOver then return
    match pace with
    | .steady near far => mergeSteps side less fuel (← stepOnce side less near far)
    | .ahead => mergeSteps side less fuel (← stepAhead side less)

/-- The items after a merge, the patience for the next one, and the failure that stopped it. -/
structure Merged (ε α : Type) where
  items : List α
  patience : Nat
  failure : Option ε := none

/-- Merges two lists from one side. The first item of the far list is known to come first. -/
def mergeFrom (side : Side) (less : α → α → Except ε Bool) (patience : Nat) (near far : List α) :
    Merged ε α :=
  let start := Merging.takeFar 1 { near, far, patience }
  match mergeSteps side less (near.length + far.length) (.steady 0 0) start with
  | .ok _ m => { items := m.items, patience := m.patience }
  | .error e m => { items := m.items, patience := m.patience, failure := some e }

/-- Merges two neighbouring lists. What already stands in its place at both ends is left out of
the merge. -/
def mergeNeighbours (less : α → α → Except ε Bool) (patience : Nat) (left right : List α) :
    Merged ε α :=
  let found : Except ε (Nat × Nat) := do
    match right.head? with
    | none => return (left.length, 0)
    | some y =>
      let n ← reach .front (fun x => (! ·) <$> less y x) left
      match (left.drop n).getLast? with
      | none => return (n, 0)
      | some x =>
        let k ← reach .back (fun y => (! ·) <$> less y x) right.reverse
        return (n, right.length - k)
  match found with
  | .error e => { items := left ++ right, patience, failure := some e }
  | .ok (n, k) =>
    let near := left.drop n
    let far := right.take k
    if near.isEmpty || far.isEmpty then { items := left ++ right, patience }
    else if near.length ≤ far.length then
      let m := mergeFrom .front less patience near far
      { m with items := left.take n ++ m.items ++ right.drop k }
    else
      let m := mergeFrom .back less patience far.reverse near.reverse
      { m with items := left.take n ++ m.items.reverse ++ right.drop k }

end SnippetGrader.Sorting
