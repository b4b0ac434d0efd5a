import SnippetGrader.Proofs.Failures.Basic
import SnippetGrader.Sorting.Schedule

/-!
# Failures of sorting

Sorting fails only where a comparison fails, and with what the comparison failed.
-/

namespace SnippetGrader.Sorting

variable {α ε : Type} {Q : ε → Prop}

/-! ## Searching -/

theorem bisect_errors {goes : Nat → Except ε Bool} (h : ∀ i, OnlyErrors Q (goes i)) (side : Side)
    (lo hi : Nat) : OnlyErrors Q (bisect side goes lo hi) := by
  fun_induction bisect side goes lo hi with
  | case1 lo hi hlt e he =>
    have := h (side.middle lo hi)
    rwa [he] at this
  | case2 lo hi hlt he ih => exact ih
  | case3 lo hi hlt he ih => exact ih
  | case4 lo hi hlt => trivial

section Goes

variable {goes : α → Except ε Bool} (h : ∀ x, OnlyErrors Q (goes x))
include h

theorem bracket_errors (xs : List α) (last next : Nat) :
    OnlyErrors Q (bracket goes xs last next) := by
  fun_induction bracket goes xs last next with
  | case1 => trivial
  | case2 last next x hx hlt e he =>
    have := h x
    rwa [he] at this
  | case3 last next x hx hlt he ih => exact ih
  | case4 => trivial

theorem goesAt_errors (xs : List α) (i : Nat) : OnlyErrors Q (goesAt goes xs i) := by
  unfold goesAt
  split
  · exact h _
  · trivial

theorem reach_errors (side : Side) (xs : List α) : OnlyErrors Q (reach side goes xs) := by
  simp only [reach, onlyErrors_bind, onlyErrors_ite, onlyErrors_pure, goesAt_errors h,
    bracket_errors h, bisect_errors (goesAt_errors h xs), implies_true, and_true]

end Goes

/-! ## Stretches -/

section Less

variable {less : α → α → Except ε Bool} (h : ∀ a b, OnlyErrors Q (less a b))
include h

theorem stretchLengthFrom_errors (down : Bool) (n : Nat) (last : α) (xs : List α) :
    OnlyErrors Q (stretchLengthFrom less down n last xs) := by
  induction xs generalizing n last with
  | nil => trivial
  | cons x xs ih => simp [stretchLengthFrom, h, ih]

theorem stretchLength_errors (xs : List α) : OnlyErrors Q (stretchLength less xs) := by
  unfold stretchLength
  split
  · simp [h, stretchLengthFrom_errors h]
  · trivial

theorem insertionPoint_errors (sorted : Array α) (x : α) :
    OnlyErrors Q (insertionPoint less sorted x) := by
  refine bisect_errors (fun i => ?_) .front 0 sorted.size
  split
  · simp [h]
  · trivial

theorem insertEach_failure (sorted : Array α) (count : Nat) (xs : List α) :
    ∀ e ∈ (insertEach less sorted count xs).failure, Q e := by
  fun_induction insertEach less sorted count xs with
  | case1 sorted count x rest i hi ih => exact ih
  | case2 sorted count x rest e he =>
    have := insertionPoint_errors h sorted x
    rw [he] at this
    rintro _ ⟨⟩
    exact this
  | case3 => nofun

theorem cut_failure (least : Nat) (xs : List α) : ∀ e ∈ (cut less least xs).failure, Q e := by
  have hlength := stretchLength_errors h xs
  unfold cut
  split
  · next e he =>
    rw [he] at hlength
    rintro _ ⟨⟩
    exact hlength
  · exact insertEach_failure h _ _ _

end Less

/-! ## Merging and sorting -/

/-- Every error with which a computation ends has a property. -/
def OnlyThrows {σ : Type} (Q : ε → Prop) (x : EStateM ε σ α) : Prop :=
  ∀ s e s', x s = .error e s' → Q e

namespace OnlyThrows

variable {σ β : Type}

theorem pure (a : α) : OnlyThrows Q (Pure.pure a : EStateM ε σ α) := nofun

theorem get : OnlyThrows Q (MonadStateOf.get : EStateM ε σ σ) := nofun

theorem set (s : σ) : OnlyThrows Q (MonadStateOf.set s : EStateM ε σ PUnit) := nofun

theorem modify (f : σ → σ) : OnlyThrows Q (modifyThe σ f : EStateM ε σ PUnit) := nofun

theorem throw {e : ε} (h : Q e) : OnlyThrows Q (MonadExcept.throw e : EStateM ε σ α) := by
  rintro _ _ _ ⟨⟩
  exact h

theorem ofExcept {r : Except ε α} (h : OnlyErrors Q r) :
    OnlyThrows Q (MonadExcept.ofExcept r : EStateM ε σ α) := by
  cases r with
  | ok a => exact pure a
  | error e => exact throw h

theorem bind {x : EStateM ε σ α} {f : α → EStateM ε σ β} (hx : OnlyThrows Q x)
    (hf : ∀ a, OnlyThrows Q (f a)) : OnlyThrows Q (x >>= f) := by
  intro s e s' hs
  change EStateM.bind x f s = _ at hs
  unfold EStateM.bind at hs
  cases hr : x s with
  | ok a t =>
    rw [hr] at hs
    exact hf a t e s' hs
  | error e' t =>
    rw [hr] at hs
    cases hs
    exact hx s e s' hr

theorem ite {c : Prop} [Decidable c] {x y : EStateM ε σ α} (hx : OnlyThrows Q x)
    (hy : OnlyThrows Q y) : OnlyThrows Q (if c then x else y) := by
  split <;> assumption

end OnlyThrows

section Less

variable {less : α → α → Except ε Bool} (h : ∀ a b, OnlyErrors Q (less a b))
include h

theorem farFirst_errors (side : Side) (far near : α) :
    OnlyErrors Q (side.farFirst less far near) := by
  cases side <;> exact h _ _

theorem stepOnce_throws (side : Side) (near far : Nat) :
    OnlyThrows Q (stepOnce side less near far) := by
  refine .bind .get fun m => ?_
  split
  · exact .bind (.ofExcept (farFirst_errors h side _ _)) fun b =>
      .ite (.bind (.set _) fun _ => .pure _) (.bind (.set _) fun _ => .pure _)
  · exact .pure _

theorem searchNear_throws (side : Side) : OnlyThrows Q (searchNear side less) := by
  refine .bind .get fun m => ?_
  split
  · exact .pure _
  · refine .ite (.pure _) (.bind (.ofExcept (reach_errors (fun x => ?_) side m.near)) fun _ =>
      .bind (.set _) fun _ => .pure _)
    simpa using farFirst_errors h side _ _

theorem searchFar_throws (side : Side) : OnlyThrows Q (searchFar side less) := by
  refine .bind .get fun m => ?_
  split
  · exact .pure _
  · exact .ite (.pure _) (.bind (.ofExcept (reach_errors (fun y => farFirst_errors h side y _)
      side m.far)) fun _ => .bind (.set _) fun _ => .pure _)

theorem stepAhead_throws (side : Side) : OnlyThrows Q (stepAhead side less) := by
  have near := searchNear_throws h side
  have far := searchFar_throws h side
  have next (n k : Nat) : OnlyThrows Q (do
      let m ← get
      if m.isOver then return .ahead
      if n ≥ longStretch || k ≥ longStretch then
        set { m with patience := max 1 (m.patience - 1) }
        return .ahead
      else
        set { m with patience := m.patience + 1 }
        return .steady 0 0 : MergeM ε α Pace) :=
    .bind .get fun m => .ite (.pure _) (.ite (.bind (.set _) fun _ => .pure _)
      (.bind (.set _) fun _ => .pure _))
  cases side with
  | front => exact .bind near fun n => .bind far fun k => .bind (.pure (n, k)) fun p => next p.1 p.2
  | back => exact .bind far fun k => .bind near fun n => .bind (.pure (n, k)) fun p => next p.1 p.2

theorem mergeSteps_throws (side : Side) (fuel : Nat) (pace : Pace) :
    OnlyThrows Q (mergeSteps side less fuel pace) := by
  induction fuel generalizing pace with
  | zero => exact .pure _
  | succ fuel ih =>
    refine .bind .get fun m => .ite (.pure _) ?_
    cases pace with
    | steady near far => exact .bind (stepOnce_throws h side near far) ih
    | ahead => exact .bind (stepAhead_throws h side) ih

theorem mergeFrom_failure (side : Side) (patience : Nat) (near far : List α) :
    ∀ e ∈ (mergeFrom side less patience near far).failure, Q e := by
  unfold mergeFrom
  dsimp only
  split
  · nofun
  · next e m hm =>
    rintro _ ⟨⟩
    exact mergeSteps_throws h side _ _ _ e m hm

theorem mergeNeighbours_failure (patience : Nat) (left right : List α) :
    ∀ e ∈ (mergeNeighbours less patience left right).failure, Q e := by
  have before (y : α) (xs : List α) : OnlyErrors Q (reach .front (fun x => (! ·) <$> less y x) xs) :=
    reach_errors (fun x => by simp [h]) .front xs
  have behind (x : α) (ys : List α) : OnlyErrors Q (reach .back (fun y => (! ·) <$> less y x) ys) :=
    reach_errors (fun y => by simp [h]) .back ys
  unfold mergeNeighbours
  extract_lets found
  have hfound : OnlyErrors Q found := by
    unfold found
    cases right.head? with
    | none => trivial
    | some y =>
      simp only [onlyErrors_bind, before, true_and]
      intro n _
      cases (left.drop n).getLast? with
      | none => trivial
      | some x => simp only [onlyErrors_bind, behind, onlyErrors_pure, implies_true, and_self]
  clear_value found
  cases found with
  | error e =>
    rintro _ ⟨⟩
    exact hfound
  | ok p =>
    dsimp only
    split
    · intro e he
      cases he
    · split
      · exact mergeFrom_failure h _ _ _ _
      · exact mergeFrom_failure h _ _ _ _

theorem mergeStretches_throws (after : List (Stretch α)) (right left : Stretch α)
    (before : List (Stretch α)) : OnlyThrows Q (mergeStretches less after right left before) := by
  refine .bind .get fun p => .bind (.set _) fun _ => ?_
  have hmerged := mergeNeighbours_failure h p.patience left.items right.items
  split
  · next e he => exact .throw (hmerged e he)
  · exact .pure _

theorem mergeDeeper_throws (depth fuel : Nat) : OnlyThrows Q (mergeDeeper less depth fuel) := by
  induction fuel with
  | zero => exact .pure _
  | succ fuel ih =>
    refine .bind .get fun p => ?_
    split
    · exact .ite (.bind (mergeStretches_throws h _ _ _ _) fun _ => ih) (.pure _)
    · exact .pure _

theorem makeRoom_throws (size next : Nat) : OnlyThrows Q (makeRoom less size next) := by
  refine .bind .get fun p => ?_
  split
  · exact .pure _
  · exact .bind (mergeDeeper_throws h _ _) fun _ => .modify _

theorem cutNext_throws (size least : Nat) : OnlyThrows Q (cutNext less size least) := by
  refine .bind .get fun p => .bind (.set _) fun _ => ?_
  have hcut := cut_failure h least p.rest
  split
  · next e he => exact .throw (hcut e he)
  · exact .bind (makeRoom_throws h _ _) fun _ => .modify _

theorem cutAll_throws (size least fuel : Nat) : OnlyThrows Q (cutAll less size least fuel) := by
  induction fuel with
  | zero => exact .pure _
  | succ fuel ih =>
    exact .bind .get fun p => .ite (.pure _) (.bind (cutNext_throws h _ _) fun _ => ih)

theorem mergeAll_throws (fuel : Nat) : OnlyThrows Q (mergeAll less fuel) := by
  induction fuel with
  | zero => exact .pure _
  | succ fuel ih =>
    refine .bind .get fun p => ?_
    split
    · exact .ite (.bind (mergeStretches_throws h _ _ _ _) fun _ => ih)
        (.bind (mergeStretches_throws h _ _ _ _) fun _ => ih)
    · exact mergeStretches_throws h _ _ _ _
    · exact .pure _

theorem sortAll_throws (size : Nat) : OnlyThrows Q (sortAll less size) :=
  .bind (cutAll_throws h _ _ _) fun _ => .bind .get fun _ => mergeAll_throws h _

theorem ascending_failure (xs : List α) : ∀ e ∈ (ascending less xs).failure, Q e := by
  unfold ascending
  split
  · nofun
  · next e p hp =>
    rintro _ ⟨⟩
    exact sortAll_throws h _ _ e p hp

/-- Sorting fails with what a comparison fails with. -/
theorem sort_failure (descending : Bool) (xs : List α) :
    ∀ e ∈ (sort less descending xs).failure, Q e := by
  unfold sort
  split <;> exact ascending_failure h _

end Less

end SnippetGrader.Sorting
