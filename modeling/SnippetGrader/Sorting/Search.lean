/-!
# Searching along a list

Some items at one end of a list go before a given item and the others do not. `reach` counts those
that go: it looks at positions that lie further and further apart, and then halves the range in
which the last one must be. Items are asked one at a time and the question may fail, so the order
of the questions is part of what is said here: with a question that contradicts itself the count
depends on it.
-/

namespace SnippetGrader.Sorting

variable {α ε : Type}

/-- The end of a list from which its positions are counted. -/
inductive Side where
  | front
  | back
deriving DecidableEq, Repr

/-- The middle of the positions from `lo` up to, not including, `hi`. Of two positions in the
middle it is the one nearer to the back of the list. -/
def Side.middle : Side → Nat → Nat → Nat
  | front, lo, hi => lo + (hi - lo) / 2
  | back, lo, hi => lo + (hi - lo - 1) / 2

/-- The first position from `lo` up to `hi` that does not go, found by halving. -/
def bisect (side : Side) (goes : Nat → Except ε Bool) (lo hi : Nat) : Except ε Nat :=
  if lo < hi then
    match goes (side.middle lo hi) with
    | .error e => .error e
    | .ok true => bisect side goes (side.middle lo hi + 1) hi
    | .ok false => bisect side goes lo (side.middle lo hi)
  else .ok lo
termination_by hi - lo
decreasing_by all_goals (cases side <;> simp only [Side.middle] <;> omega)

/-- The last position known to go and the first one known not to, which is the end of the list if
all positions that are tried go. The position `last` goes and `next` is tried. -/
def bracket (goes : α → Except ε Bool) (xs : List α) (last next : Nat) : Except ε (Nat × Nat) :=
  match h : xs[next]? with
  | none => .ok (last, xs.length)
  | some x =>
    have : next < xs.length := (List.getElem?_eq_some_iff.1 h).1
    match goes x with
    | .error e => .error e
    | .ok true => bracket goes xs next (2 * next + 1)
    | .ok false => .ok (last, next)
termination_by xs.length - next

def goesAt (goes : α → Except ε Bool) (xs : List α) (i : Nat) : Except ε Bool :=
  match xs[i]? with
  | some x => goes x
  | none => .ok false

/-- Number of items at the start of `xs` that go; `side` is the end of the whole list at which
`xs` starts. -/
def reach (side : Side) (goes : α → Except ε Bool) (xs : List α) : Except ε Nat := do
  if ← goesAt goes xs 0 then
    let (last, stop) ← bracket goes xs 0 1
    bisect side (goesAt goes xs) (last + 1) stop
  else return 0

end SnippetGrader.Sorting
