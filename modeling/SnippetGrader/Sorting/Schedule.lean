import SnippetGrader.Sorting.Merge
import SnippetGrader.Sorting.Stretch

/-!
# Sorting

A stable sort by a comparison that may fail. Sorted stretches are cut from the start of the list
one after the other, and neighbouring ones are merged as soon as it is clear that their boundary
lies lower in a balanced tree of merges than the next one: the boundary between two stretches
divides the list about as the first binary digits say in which the places of their middles differ.
When a comparison fails, the items are left as they stand at that moment, and the failure shows
which two items were compared.
-/

namespace SnippetGrader.Sorting

variable {α ε : Type}

/-- A sorted stretch of a list. -/
structure Stretch (α : Type) where
  /-- The position of its first item. -/
  start : Nat
  /-- Its number of items. -/
  size : Nat
  items : List α
  /-- The depth in the tree of merges of the boundary to the next stretch. -/
  depth : Nat := 0

/-- The number of binary digits up to the first one in which the fractions `a / size` and
`b / size` differ, where the digit before the point counts as the first. -/
def differingDigit (size a b : Nat) : Nat :=
  if a < b ∧ b - a < size ∧ a / size = b / size then
    differingDigit size (2 * a) (2 * b) + 1
  else 1
termination_by size - (b - a)

/-- The depth of the boundary between a stretch and one of `next` items after it in a list of
`size` items. -/
def Stretch.boundaryDepth (s : Stretch α) (size next : Nat) : Nat :=
  differingDigit size (2 * s.start + s.size) (2 * s.start + 2 * s.size + next)

/-- A list that is being sorted. -/
structure Progress (α : Type) where
  /-- The stretches that are not merged yet, the last one first. -/
  stretches : List (Stretch α) := []
  /-- The items after them. -/
  rest : List α
  /-- The patience of the next merge. -/
  patience : Nat := longStretch

/-- All items, in the order in which they stand. -/
def Progress.items (p : Progress α) : List α :=
  p.stretches.reverse.flatMap Stretch.items ++ p.rest

/-- A computation on a list that is being sorted. -/
abbrev SortM (ε α : Type) := EStateM ε (Progress α)

/-- Merges two neighbouring stretches, which stand between the stretches `after` and `before`. -/
def mergeStretches (less : α → α → Except ε Bool) (after : List (Stretch α))
    (right left : Stretch α) (before : List (Stretch α)) : SortM ε α Unit := do
  let p ← get
  let m := mergeNeighbours less p.patience left.items right.items
  let merged := { left with items := m.items, size := left.size + right.size }
  set { p with stretches := after ++ merged :: before, patience := m.patience }
  match m.failure with
  | some e => throw e
  | none => return

/-- Merges the last stretches as long as the boundary between them lies deeper than `depth`, at
most `fuel` times. -/
def mergeDeeper (less : α → α → Except ε Bool) (depth : Nat) : (fuel : Nat) → SortM ε α Unit
  | 0 => return
  | fuel + 1 => do
    match (← get).stretches with
    | right :: left :: before =>
      if left.depth > depth then
        mergeStretches less [] right left before
        mergeDeeper less depth fuel
    | _ => return

/-- Makes room for a stretch of `next` items in a list of `size` items: what can be merged before
it is merged. -/
def makeRoom (less : α → α → Except ε Bool) (size next : Nat) : SortM ε α Unit := do
  match (← get).stretches with
  | [] => return
  | last :: before =>
    let depth := last.boundaryDepth size next
    mergeDeeper less depth before.length
    modify fun p =>
      match p.stretches with
      | last :: before => { p with stretches := { last with depth } :: before }
      | [] => p

/-- Cuts off the next stretch of at least `least` items. -/
def cutNext (less : α → α → Except ε Bool) (size least : Nat) : SortM ε α Unit := do
  let p ← get
  let c := cut less least p.rest
  set { p with rest := c.sorted ++ c.rest }
  match c.failure with
  | some e => throw e
  | none =>
    let n := c.sorted.length
    makeRoom less size n
    modify fun p =>
      let start := (p.stretches.head?.map fun s => s.start + s.size).getD 0
      { p with stretches := { start, size := n, items := c.sorted } :: p.stretches, rest := c.rest }

/-- Cuts the list into stretches, at most `fuel` of them. -/
def cutAll (less : α → α → Except ε Bool) (size least : Nat) : (fuel : Nat) → SortM ε α Unit
  | 0 => return
  | fuel + 1 => do
    if (← get).rest.isEmpty then return
    cutNext less size least
    cutAll less size least fuel

/-- Merges the stretches that are left, at most `fuel` times: the last two, unless the one before
them is shorter than the last. -/
def mergeAll (less : α → α → Except ε Bool) : (fuel : Nat) → SortM ε α Unit
  | 0 => return
  | fuel + 1 => do
    match (← get).stretches with
    | c :: b :: a :: before =>
      if a.size < c.size then mergeStretches less [c] b a before
      else mergeStretches less [] c b (a :: before)
      mergeAll less fuel
    | [right, left] => mergeStretches less [] right left []
    | _ => return

def sortAll (less : α → α → Except ε Bool) (size : Nat) : SortM ε α Unit := do
  cutAll less size (leastLength size) size
  mergeAll less (← get).stretches.length

/-- The items after sorting, and the failure that stopped it. -/
structure Outcome (ε α : Type) where
  items : List α
  failure : Option ε := none

def ascending (less : α → α → Except ε Bool) (xs : List α) : Outcome ε α :=
  match sortAll less xs.length { rest := xs } with
  | .ok _ p => { items := p.items }
  | .error e p => { items := p.items, failure := some e }

/-- Sorts items, in reverse order if `descending`; equal items keep their order in both cases. -/
def sort (less : α → α → Except ε Bool) (descending : Bool) (xs : List α) : Outcome ε α :=
  if descending then
    let o := ascending less xs.reverse
    { o with items := o.items.reverse }
  else ascending less xs

end SnippetGrader.Sorting
