import SnippetGrader.Machine.Failure

/-!
# Failures without a line

What is computed apart from statements may fail, but does not know on which line. Only a statement
adds the line to a failure. So one that has a line was raised by a statement that has ended, or is
raised once more.
-/

namespace SnippetGrader

/-- Every error that a result may be has a property. -/
def OnlyErrors {ε α : Type} (Q : ε → Prop) : Except ε α → Prop
  | .ok _ => True
  | .error e => Q e

section OnlyErrors

variable {ε ε' α β : Type} {Q : ε → Prop}

@[simp] theorem onlyErrors_ok (a : α) : OnlyErrors Q (.ok a) := trivial

@[simp] theorem onlyErrors_pure (a : α) : OnlyErrors Q (pure a : Except ε α) := trivial

@[simp] theorem onlyErrors_error {e : ε} : OnlyErrors (α := α) Q (.error e) ↔ Q e := .rfl

@[simp] theorem onlyErrors_throw {e : ε} : OnlyErrors Q (throw e : Except ε α) ↔ Q e := .rfl

@[simp] theorem onlyErrors_bind {x : Except ε α} {k : α → Except ε β} :
    OnlyErrors Q (x >>= k) ↔ OnlyErrors Q x ∧ ∀ a, x = .ok a → OnlyErrors Q (k a) := by
  cases x with
  | ok a => exact ⟨fun h => ⟨trivial, fun _ ha => Except.ok.inj ha ▸ h⟩, fun h => h.2 a rfl⟩
  | error e => exact ⟨fun h => ⟨h, nofun⟩, And.left⟩

@[simp] theorem onlyErrors_map {f : α → β} {x : Except ε α} :
    OnlyErrors Q (f <$> x) ↔ OnlyErrors Q x := by
  cases x <;> exact .rfl

@[simp] theorem onlyErrors_except_map {f : α → β} {x : Except ε α} :
    OnlyErrors Q (x.map f) ↔ OnlyErrors Q x := by
  cases x <;> exact .rfl

@[simp] theorem onlyErrors_mapError {f : ε' → ε} {x : Except ε' α} :
    OnlyErrors Q (x.mapError f) ↔ OnlyErrors (fun e => Q (f e)) x := by
  cases x <;> exact .rfl

@[simp] theorem onlyErrors_ite {c : Prop} [Decidable c] {x y : Except ε α} :
    OnlyErrors Q (if c then x else y) ↔ (c → OnlyErrors Q x) ∧ (¬ c → OnlyErrors Q y) := by
  split <;> simp [*]

theorem onlyErrors_mapM {f : α → Except ε β} {xs : List α} (h : ∀ x ∈ xs, OnlyErrors Q (f x)) :
    OnlyErrors Q (xs.mapM f) := by
  induction xs with
  | nil => trivial
  | cons x xs ih =>
    rw [List.mapM_cons]
    simp only [onlyErrors_bind, onlyErrors_pure, implies_true, and_true]
    exact ⟨h x List.mem_cons_self, fun _ _ => ih fun y hy => h y (List.mem_cons_of_mem _ hy)⟩

end OnlyErrors

/-- A failure on which no line has been noted. -/
def Failure.Unplaced (f : Failure) : Prop := f.line = none

/-- A stop that is no failure, or a failure on which no line has been noted. -/
def Stop.Unplaced : Stop → Prop
  | .failed f => f.Unplaced
  | .exhausted _ => True

@[simp] theorem Stop.unplaced_failed {f : Failure} : (Stop.failed f).Unplaced ↔ f.Unplaced := .rfl

@[simp] theorem Stop.unplaced_exhausted {n : Nesting} : (Stop.exhausted n).Unplaced := trivial

/-- No line has been noted on what a result fails with. -/
abbrev Unplaced {α : Type} (r : Except Failure α) : Prop := OnlyErrors Failure.Unplaced r

/-- No line has been noted on what a result stops with. -/
abbrev UnplacedStop {α : Type} (r : Except Stop α) : Prop := OnlyErrors Stop.Unplaced r

namespace Failure

@[simp] theorem unplaced_mk (kind message : String) (text : Option String) :
    (Failure.mk kind message none text).Unplaced := rfl

@[simp] theorem unplaced_type (t : String) : (type t).Unplaced := rfl

@[simp] theorem unplaced_notText (i : Nat) (t : String) : (notText i t).Unplaced := rfl

@[simp] theorem unplaced_value (t : String) : (value t).Unplaced := rfl

@[simp] theorem unplaced_overflow (t : String) : (overflow t).Unplaced := rfl

@[simp] theorem unplaced_zeroDivision (t : String) : (zeroDivision t).Unplaced := rfl

@[simp] theorem unplaced_form (t : String) : (form t).Unplaced := rfl

@[simp] theorem unplaced_surrogate : surrogate.Unplaced := rfl

@[simp] theorem unplaced_tooLarge : tooLarge.Unplaced := rfl

end Failure

end SnippetGrader
