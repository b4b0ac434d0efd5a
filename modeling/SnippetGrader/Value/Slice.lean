import SnippetGrader.Machine.Failure
import SnippetGrader.Value.Basic

/-!
# Positions in a sequence

A position may be counted from the end by a negative number. `Slice` describes the positions that
a slice takes from a sequence of any length; bounds beyond the ends are moved to the ends.
-/

namespace SnippetGrader

/-- An arithmetic progression. -/
structure Progression where
  start : Int
  stop : Int
  step : Int

/-- Number of terms before the bound is reached. -/
def Progression.size (p : Progression) : Nat :=
  if p.step > 0 then ((p.stop - p.start + p.step - 1) / p.step).toNat
  else if p.step < 0 then ((p.start - p.stop - p.step - 1) / (-p.step)).toNat
  else 0

def Progression.term (p : Progression) (i : Nat) : Int := p.start + p.step * i

/-- A position of a sequence of `length` items, counted from the end if it is negative. -/
def position? (length : Nat) (i : Int) : Option Nat :=
  let j := if i < 0 then i + length else i
  if 0 ≤ j && j < length then some j.toNat else none

/-- A bound moved into the range from `low` to `high`, after a negative one has been counted from
the end. -/
def clampBound (length : Nat) (low high : Int) (i : Int) : Int :=
  let j := if i < 0 then i + length else i
  if j < low then low else if j > high then high else j

/-- The bounds and the step of a slice; a bound that is left out is an end of the sequence. -/
structure Slice where
  start : Option Int
  stop : Option Int
  step : Int

def Slice.progression (sl : Slice) (length : Nat) : Progression :=
  if sl.step > 0 then
    let clamp := clampBound length 0 length
    ⟨(sl.start.map clamp).getD 0, (sl.stop.map clamp).getD length, sl.step⟩
  else
    let clamp := clampBound length (-1) (length - 1)
    ⟨(sl.start.map clamp).getD (length - 1), (sl.stop.map clamp).getD (-1), sl.step⟩

def Slice.take {α : Type} (sl : Slice) (xs : Array α) : Array α :=
  let p := sl.progression xs.size
  (Array.range p.size).filterMap fun i => xs[(p.term i).toNat]?

namespace Slice

/-- A bound of a slice, where `none` leaves it out. -/
def bound? (v : Value) : Except Failure (Option Int) :=
  match v with
  | .none => .ok none
  | .int n => .ok (some n)
  | .bool b => .ok (some (if b then 1 else 0))
  | _ => .error (.type "slice indices must be integers or None or have an __index__ method")

def ofValues (start stop step : Value) : Except Failure Slice := do
  let step := (← bound? step).getD 1
  if step == 0 then throw (.value "slice step cannot be zero")
  let start ← bound? start
  let stop ← bound? stop
  return ⟨start, stop, step⟩

end Slice

end SnippetGrader
