import SnippetGrader.Proofs.Renaming.Trees

/-!
# Computations that no limit stops

`Outcome.Ends bad good` says how a computation ends unless it reaches a limit: it fails only if `bad`,
and it gives only what is `good`. The rules follow the operations that computations are made of.
-/

namespace SnippetGrader

theorem Failure.message_locate (f : Failure) (line : Nat) (text : String) :
    (f.locate line text).message = f.message := by
  unfold Failure.locate
  split <;> rfl

/-- A limit was reached: of statements, of time, or of the nesting of calls. That lists are nested too
deeply to be compared is a matter of the values, and no limit. -/
def Stop.IsLimit : Stop → Prop
  | failed f => Statement.isFatal f = true ∨
      f.kind = "RecursionError" ∧ f.message ≠ Value.tooNested.message
  | exhausted _ => True

namespace Outcome

variable {α β : Type}

/-- A limit stopped the computation. -/
def IsLimited (r : Outcome α) : Prop := ∃ stop m, r = .error stop m ∧ stop.IsLimit

/-- The computation failed, or stopped. -/
def Fails (r : Outcome α) : Prop := ∃ stop m, r = .error stop m

/-- How a computation ends unless it reaches a limit. -/
inductive Ends (bad : Prop) (good : α → Machine → Prop) : Outcome α → Prop
  | limited {stop : Stop} {m : Machine} (h : stop.IsLimit) : Ends bad good (.error stop m)
  | failed {stop : Stop} {m : Machine} (h : bad) : Ends bad good (.error stop m)
  | done {a : α} {m : Machine} (h : good a m) : Ends bad good (.ok a m)

namespace Ends

variable {bad bad' : Prop} {good : α → Machine → Prop} {better : β → Machine → Prop} {m : Machine}

theorem imp {good' : α → Machine → Prop} {r : Outcome α} (h : Ends bad good r) (hbad : bad → bad')
    (hgood : ∀ a m, good a m → good' a m) : Ends bad' good' r := by
  cases h with
  | limited h => exact .limited h
  | failed h => exact .failed (hbad h)
  | done h => exact .done (hgood _ _ h)

theorem bind {x : Run α} {f : α → Run β} (hx : Ends bad good (x m))
    (hf : ∀ a m', good a m' → Ends bad better (f a m')) : Ends bad better ((x >>= f) m) := by
  rw [Run.bind_eq]
  generalize x m = r at hx
  cases hx with
  | limited h => exact .limited h
  | failed h => exact .failed h
  | done h => exact hf _ _ h

/-- What is nested too deeply inside a call has reached a limit outside of it as well. -/
theorem guardCall {x : Run α} (h : Ends bad good (x m)) : Ends bad good (Run.guardCall x m) := by
  rw [Run.guardCall_eq]
  generalize x m = r at h
  cases h with
  | done h => exact .done h
  | @failed stop _ h =>
    cases stop with
    | failed f | exhausted n => exact .failed h
  | @limited stop _ h =>
    cases stop with
    | failed f => exact .limited h
    | exhausted n =>
      refine .limited (.inr ?_)
      cases n <;> exact ⟨rfl, by decide⟩

theorem onMachine {good' : α → Machine → Prop} {r : Outcome α} (h : Ends bad good r)
    (g : Machine → Machine) (hg : ∀ a m, good a m → good' a (g m)) :
    Ends bad good' (Outcome.onMachine g r) := by
  cases h with
  | limited h => exact .limited h
  | failed h => exact .failed h
  | done h => exact .done (hg _ _ h)

theorem located {r : Outcome α} (h : Ends bad good r) (line : Nat) (text : String) :
    Ends bad good (Outcome.onFailure (fun f => f.locate line text) r) := by
  cases h with
  | done h => exact .done h
  | @failed stop _ h =>
    cases stop with
    | failed f | exhausted n => exact .failed h
  | @limited stop _ h =>
    cases stop with
    | failed f =>
      refine .limited ?_
      rwa [Stop.IsLimit, Statement.isFatal, Failure.kind_locate, Failure.message_locate]
    | exhausted n => exact .limited trivial

theorem eval {n scope : Nat} {text : List Char} {good : Value → Machine → Prop}
    (h : ∀ k, n = k + 1 → Ends bad good (Expression.evaluate (Engine.level k) scope text m)) :
    Ends bad good ((Engine.level n).eval scope text m) := by
  cases n with
  | zero => exact .limited trivial
  | succ k => exact h k rfl

theorem newList (xs : Array Value) :
    Ends bad (fun v m' => m'.store.items m.store.lists.size = xs ∧ v = .list m.store.lists.size ∧
      m.Grows m') (Run.newList xs m) := by
  refine .done ⟨?_, rfl, .push m xs⟩
  rw [Store.items, Array.getElem?_push_size, Option.getD_some]

/-- A computation that no limit stops fails for the reason that is allowed, or gives what it
should. -/
theorem cases_of_not_limited {r : Outcome α} (h : Ends bad good r) (hr : ¬r.IsLimited) :
    bad ∧ r.Fails ∨ ∃ a m, r = .ok a m ∧ good a m := by
  cases h with
  | limited h => exact absurd ⟨_, _, rfl, h⟩ hr
  | failed h => exact .inl ⟨h, _, _, rfl⟩
  | done h => exact .inr ⟨_, _, rfl, h⟩

end Ends

end Outcome

end SnippetGrader
