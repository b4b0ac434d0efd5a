import SnippetGrader.Proofs.Failures.Sorting

/-!
# What sorting leaves in a list

A sort moves items and does nothing else, also when it stops because a comparison fails: the items
afterwards are the items before, in another order (`sort_perm`). Each step of a merge and each step
of the schedule keeps the items that its state holds.
-/

namespace SnippetGrader.Sorting

variable {α β ε σ : Type} {xs : List α}

/-! ## Computations that keep something -/

/-- A computation ends in a state with a property, whatever its result. -/
def EndsIn (I : σ → Prop) : EStateM.Result ε σ α → Prop
  | .ok _ s | .error _ s => I s

namespace EndsIn

variable {I J : σ → Prop} {s : σ}

theorem mono {r : EStateM.Result ε σ α} (h : EndsIn J r) (hJ : ∀ s, J s → I s) : EndsIn I r := by
  cases r <;> exact hJ _ h

/-- The first part of a computation keeps something from which the rest starts. -/
theorem bind_of_imp {x : EStateM ε σ α} {f : α → EStateM ε σ β} (hx : EndsIn J (x s))
    (hJ : ∀ s, J s → I s) (hf : ∀ a s', J s' → EndsIn I (f a s')) : EndsIn I ((x >>= f) s) := by
  change EndsIn I (EStateM.bind x f s)
  unfold EStateM.bind
  cases hr : x s with
  | ok a s' =>
    rw [hr] at hx
    exact hf a s' hx
  | error e s' =>
    rw [hr] at hx
    exact hJ s' hx

theorem bind {x : EStateM ε σ α} {f : α → EStateM ε σ β} (hx : EndsIn I (x s))
    (hf : ∀ a s', I s' → EndsIn I (f a s')) : EndsIn I ((x >>= f) s) :=
  bind_of_imp hx (fun _ h => h) hf

theorem get {f : σ → EStateM ε σ α} (h : EndsIn I (f s s)) :
    EndsIn I ((MonadStateOf.get >>= f) s) := h

theorem set {s' : σ} {f : PUnit → EStateM ε σ α} (h : EndsIn I (f ⟨⟩ s')) :
    EndsIn I ((MonadStateOf.set s' >>= f) s) := h

theorem modify {f : σ → σ} (h : I (f s)) : EndsIn I ((modify f : EStateM ε σ PUnit) s) := h

theorem ofExcept (hs : I s) (r : Except ε α) :
    EndsIn I ((MonadExcept.ofExcept r : EStateM ε σ α) s) := by
  cases r <;> exact hs

theorem ite {c : Prop} [Decidable c] {x y : EStateM ε σ α} (hx : EndsIn I (x s))
    (hy : EndsIn I (y s)) : EndsIn I ((if c then x else y) s) := by
  split <;> assumption

end EndsIn

/-! ## Stretches -/

theorem bisect_le {side : Side} {goes : Nat → Except ε Bool} {lo hi n : Nat} (hle : lo ≤ hi)
    (h : bisect side goes lo hi = .ok n) : n ≤ hi := by
  fun_induction bisect side goes lo hi with
  | case1 lo hi hlt e he => cases h
  | case2 lo hi hlt he ih =>
    refine ih ?_ h
    cases side <;> simp only [Side.middle] <;> omega
  | case3 lo hi hlt he ih =>
    have hmiddle : lo ≤ side.middle lo hi ∧ side.middle lo hi ≤ hi := by
      cases side <;> simp only [Side.middle] <;> omega
    exact Nat.le_trans (ih hmiddle.1 h) hmiddle.2
  | case4 lo hi hlt =>
    cases h
    exact hle

theorem insertionPoint_le {less : α → α → Except ε Bool} {sorted : Array α} {x : α} {i : Nat}
    (h : insertionPoint less sorted x = .ok i) : i ≤ sorted.size :=
  bisect_le (Nat.zero_le _) h

theorem insertIdx_perm {sorted : Array α} {i : Nat} (hi : i ≤ sorted.size) (x : α) :
    (sorted.insertIdxIfInBounds i x).toList.Perm (x :: sorted.toList) := by
  rw [Array.insertIdxIfInBounds, dif_pos hi, Array.toList_insertIdx]
  exact List.perm_insertIdx x sorted.toList hi

theorem insertEach_perm (less : α → α → Except ε Bool) (sorted : Array α) (count : Nat)
    (xs : List α) :
    ((insertEach less sorted count xs).sorted ++ (insertEach less sorted count xs).rest).Perm
      (sorted.toList ++ xs) := by
  fun_induction insertEach less sorted count xs with
  | case1 sorted count x rest i hi ih =>
    have hinsert := (insertIdx_perm (insertionPoint_le hi) x).append_right rest
    exact ih.trans (hinsert.trans List.perm_middle.symm)
  | case2 => exact .refl _
  | case3 => exact .refl _

theorem cut_perm (less : α → α → Except ε Bool) (least : Nat) (xs : List α) :
    ((cut less least xs).sorted ++ (cut less least xs).rest).Perm xs := by
  unfold cut
  split
  · exact .refl _
  · next n down _ =>
    have hstart : (if down then (xs.take n).reverse else xs.take n).Perm (xs.take n) := by
      split
      · exact List.reverse_perm _
      · exact .refl _
    have h := (insertEach_perm less _ (least - n) (xs.drop n)).trans (hstart.append_right _)
    rwa [List.take_append_drop] at h

/-! ## Merging -/

namespace Merging

variable (m : Merging α)

theorem items_perm : m.items.Perm (m.done.toList ++ (m.near ++ m.far)) := by
  refine List.Perm.append_left _ ?_
  split
  · next x hx =>
    rw [hx]
    exact List.perm_append_comm
  · exact .refl _

theorem items_takeNear (n : Nat) : (m.takeNear n).items.Perm m.items := by
  refine (items_perm _).trans (.trans ?_ (items_perm m).symm)
  simp only [takeNear, Array.toList_append, List.append_assoc]
  rw [← List.append_assoc (m.near.take n), List.take_append_drop]

theorem items_takeFar (n : Nat) : (m.takeFar n).items.Perm m.items := by
  refine (items_perm _).trans (.trans ?_ (items_perm m).symm)
  have hfar : (m.far.take n ++ (m.near ++ m.far.drop n)).Perm (m.near ++ m.far) := by
    refine List.perm_append_comm_assoc _ _ _ |>.trans ?_
    rw [List.take_append_drop]
  simpa only [takeFar, Array.toList_append, List.append_assoc] using hfar.append_left m.done.toList

end Merging

/-- The state of a merge holds the items of `xs`. -/
def Merging.Holds (xs : List α) (m : Merging α) : Prop := m.items.Perm xs

namespace Merging.Holds

variable {m : Merging α} (hm : m.Holds xs)
include hm

theorem takeNear (n : Nat) : (m.takeNear n).Holds xs := (m.items_takeNear n).trans hm

theorem takeFar (n : Nat) : (m.takeFar n).Holds xs := (m.items_takeFar n).trans hm

end Merging.Holds

section Less

variable (less : α → α → Except ε Bool)

section Side

variable (side : Side) {m : Merging α} (hm : m.Holds xs)
include hm

theorem stepOnce_keeps (near far : Nat) :
    EndsIn (Merging.Holds xs) (stepOnce side less near far m) := by
  unfold stepOnce
  refine .get ?_
  cases m.near with
  | nil => exact hm
  | cons x near' =>
    cases m.far with
    | nil => exact hm
    | cons y far' =>
      refine .bind (.ofExcept hm _) fun b m' hm' => ?_
      cases b with
      | true => exact .set (hm.takeFar 1)
      | false => exact .set (hm.takeNear 1)

theorem searchNear_keeps : EndsIn (Merging.Holds xs) (searchNear side less m) := by
  unfold searchNear
  refine .get ?_
  cases m.far with
  | nil => exact hm
  | cons y far =>
    refine .ite hm (.bind (.ofExcept hm _) fun n m' hm' => .set ?_)
    split
    · exact hm.takeNear n
    · exact (hm.takeNear n).takeFar 1

theorem searchFar_keeps : EndsIn (Merging.Holds xs) (searchFar side less m) := by
  unfold searchFar
  refine .get ?_
  cases m.near with
  | nil => exact hm
  | cons x near =>
    refine .ite hm (.bind (.ofExcept hm _) fun n m' hm' => .set ?_)
    split
    · exact hm.takeFar n
    · exact (hm.takeFar n).takeNear 1

theorem stepAhead_keeps : EndsIn (Merging.Holds xs) (stepAhead side less m) := by
  have next (n k : Nat) (m : Merging α) (hm : m.Holds xs) : EndsIn (Merging.Holds xs) ((do
      let m ← get
      if m.isOver then return .ahead
      if n ≥ longStretch || k ≥ longStretch then
        set { m with patience := max 1 (m.patience - 1) }
        return .ahead
      else
        set { m with patience := m.patience + 1 }
        return .steady 0 0 : MergeM ε α Pace) m) := by
    exact .get (.ite hm (.ite (.set hm) (.set hm)))
  cases side with
  | front =>
    exact .bind (searchNear_keeps less .front hm) fun n m₁ h₁ =>
      .bind (searchFar_keeps less .front h₁) fun k m₂ h₂ => next n k m₂ h₂
  | back =>
    exact .bind (searchFar_keeps less .back hm) fun k m₁ h₁ =>
      .bind (searchNear_keeps less .back h₁) fun n m₂ h₂ => next n k m₂ h₂

theorem mergeSteps_keeps (fuel : Nat) (pace : Pace) :
    EndsIn (Merging.Holds xs) (mergeSteps side less fuel pace m) := by
  induction fuel generalizing pace m with
  | zero => exact hm
  | succ fuel ih =>
    unfold mergeSteps
    refine .get (.ite hm ?_)
    cases pace with
    | steady near far =>
      exact .bind (stepOnce_keeps less side hm near far) fun pace m' hm' => ih hm' pace
    | ahead => exact .bind (stepAhead_keeps less side hm) fun pace m' hm' => ih hm' pace

end Side

theorem mergeFrom_perm (side : Side) (patience : Nat) (near far : List α) :
    (mergeFrom side less patience near far).items.Perm (near ++ far) := by
  have hstart : (Merging.takeFar 1 { near, far, patience }).Holds (near ++ far) :=
    (Merging.items_takeFar _ 1).trans (Merging.items_perm _)
  have h := mergeSteps_keeps less side hstart (near.length + far.length) (.steady 0 0)
  unfold mergeFrom
  dsimp only
  split
  · next m hm =>
    rw [hm] at h
    exact h
  · next e m hm =>
    rw [hm] at h
    exact h

/-- What stands in its place at both ends, with what is merged between. -/
theorem perm_between {left right merged : List α} {n k : Nat}
    (h : merged.Perm (left.drop n ++ right.take k)) :
    (left.take n ++ merged ++ right.drop k).Perm (left ++ right) := by
  have hmiddle := (h.append_right (right.drop k)).append_left (left.take n)
  rwa [List.append_assoc (left.drop n), List.take_append_drop, ← List.append_assoc,
    ← List.append_assoc, List.take_append_drop] at hmiddle

theorem mergeNeighbours_perm (patience : Nat) (left right : List α) :
    (mergeNeighbours less patience left right).items.Perm (left ++ right) := by
  unfold mergeNeighbours
  extract_lets found
  cases found with
  | error e => exact .refl _
  | ok p =>
    obtain ⟨n, k⟩ := p
    dsimp only
    split
    · exact .refl _
    · split
      · exact perm_between (mergeFrom_perm less .front patience _ _)
      · have h := mergeFrom_perm less .back patience (right.take k).reverse (left.drop n).reverse
        refine perm_between ((List.reverse_perm _).trans (h.trans ?_))
        exact List.perm_append_comm.trans
          ((List.reverse_perm _).append (List.reverse_perm _))

/-! ## The schedule -/

/-- The items of stretches, the last stretch first. -/
def itemsOf (stretches : List (Stretch α)) : List α := stretches.reverse.flatMap Stretch.items

theorem itemsOf_cons (s : Stretch α) (stretches : List (Stretch α)) :
    itemsOf (s :: stretches) = itemsOf stretches ++ s.items := by
  simp only [itemsOf, List.reverse_cons, List.flatMap_append, List.flatMap_singleton]

theorem itemsOf_append (after before : List (Stretch α)) :
    itemsOf (after ++ before) = itemsOf before ++ itemsOf after := by
  simp only [itemsOf, List.reverse_append, List.flatMap_append]

/-- The stretches of a list that is being sorted hold `xs`, and `rest` comes after them. -/
structure Progress.Holds (xs rest : List α) (p : Progress α) : Prop where
  stretches : (itemsOf p.stretches).Perm xs
  rest : p.rest = rest

variable {rest : List α} {p : Progress α}

theorem mergeStretches_keeps (after : List (Stretch α)) {before : List (Stretch α)}
    {right left : Stretch α} (hp : p.Holds xs rest)
    (hstretches : p.stretches = after ++ right :: left :: before) :
    EndsIn (Progress.Holds xs rest) (mergeStretches less after right left before p) := by
  have hmerged := mergeNeighbours_perm less p.patience left.items right.items
  have hitems := hp.stretches
  rw [hstretches, itemsOf_append, itemsOf_cons, itemsOf_cons,
    List.append_assoc (itemsOf before)] at hitems
  unfold mergeStretches
  refine .get (.set ?_)
  have hnext : Progress.Holds xs rest { p with
      stretches := after ++ { left with
        items := (mergeNeighbours less p.patience left.items right.items).items
        size := left.size + right.size } :: before
      patience := (mergeNeighbours less p.patience left.items right.items).patience } := by
    refine ⟨?_, hp.rest⟩
    rw [itemsOf_append, itemsOf_cons]
    exact ((hmerged.append_left _).append_right _).trans hitems
  cases (mergeNeighbours less p.patience left.items right.items).failure with
  | none => exact hnext
  | some e => exact hnext

theorem mergeDeeper_keeps (hp : p.Holds xs rest) (depth fuel : Nat) :
    EndsIn (Progress.Holds xs rest) (mergeDeeper less depth fuel p) := by
  induction fuel generalizing p with
  | zero => exact hp
  | succ fuel ih =>
    unfold mergeDeeper
    refine .get ?_
    rcases hstretches : p.stretches with _ | ⟨right, _ | ⟨left, before⟩⟩
    · exact hp
    · exact hp
    · exact .ite (.bind (mergeStretches_keeps less _ hp hstretches) fun _ p' hp' => ih hp') hp

theorem makeRoom_keeps (hp : p.Holds xs rest) (size next : Nat) :
    EndsIn (Progress.Holds xs rest) (makeRoom less size next p) := by
  unfold makeRoom
  refine .get ?_
  cases p.stretches with
  | nil => exact hp
  | cons last before =>
    refine .bind (mergeDeeper_keeps less hp _ _) fun _ p' hp' => .modify ?_
    have hitems := hp'.stretches
    cases hstretches : p'.stretches with
    | nil => exact hp'
    | cons last' before' =>
      rw [hstretches, itemsOf_cons] at hitems
      exact ⟨(itemsOf_cons _ _).symm ▸ hitems, hp'.rest⟩

theorem cutNext_keeps (hp : p.items.Perm xs) (size least : Nat) :
    EndsIn (fun p => p.items.Perm xs) (cutNext less size least p) := by
  have hcut := cut_perm less least p.rest
  unfold cutNext
  refine .get (.set ?_)
  have hset : Progress.Holds (itemsOf p.stretches)
      ((cut less least p.rest).sorted ++ (cut less least p.rest).rest)
      { p with rest := (cut less least p.rest).sorted ++ (cut less least p.rest).rest } :=
    ⟨.refl _, rfl⟩
  cases (cut less least p.rest).failure with
  | some e => exact (hcut.append_left _).trans hp
  | none =>
    refine .bind_of_imp (makeRoom_keeps less hset _ _) (fun p' hp' => ?_) fun _ p' hp' => ?_
    · exact (hp'.stretches.append (hp'.rest ▸ hcut)).trans hp
    · change (itemsOf (_ :: p'.stretches) ++ (cut less least p.rest).rest).Perm xs
      rw [itemsOf_cons, List.append_assoc]
      exact (hp'.stretches.append hcut).trans hp

theorem cutAll_keeps (hp : p.items.Perm xs) (size least fuel : Nat) :
    EndsIn (fun p => p.items.Perm xs) (cutAll less size least fuel p) := by
  induction fuel generalizing p with
  | zero => exact hp
  | succ fuel ih =>
    unfold cutAll
    exact .get (.ite hp (.bind (cutNext_keeps less hp size least) fun _ p' hp' => ih hp'))

theorem mergeAll_keeps (hp : p.Holds xs rest) (fuel : Nat) :
    EndsIn (Progress.Holds xs rest) (mergeAll less fuel p) := by
  induction fuel generalizing p with
  | zero => exact hp
  | succ fuel ih =>
    unfold mergeAll
    refine .get ?_
    rcases hstretches : p.stretches with _ | ⟨c, _ | ⟨b, _ | ⟨a, before⟩⟩⟩
    · exact hp
    · exact hp
    · exact mergeStretches_keeps less [] hp hstretches
    · exact .ite
        (.bind (mergeStretches_keeps less [c] hp hstretches) fun _ p' hp' => ih hp')
        (.bind (mergeStretches_keeps less [] hp hstretches) fun _ p' hp' => ih hp')

theorem sortAll_keeps (hp : p.items.Perm xs) (size : Nat) :
    EndsIn (fun p => p.items.Perm xs) (sortAll less size p) := by
  refine .bind (cutAll_keeps less hp size _ size) fun _ p' hp' => .get ?_
  have hholds : p'.Holds (itemsOf p'.stretches) p'.rest := ⟨.refl _, rfl⟩
  exact (mergeAll_keeps less hholds p'.stretches.length).mono fun p'' hp'' =>
    (hp''.stretches.append (.of_eq hp''.rest)).trans hp'

theorem ascending_perm (xs : List α) : (ascending less xs).items.Perm xs := by
  have h := sortAll_keeps less (p := { rest := xs }) (.refl xs) xs.length
  unfold ascending
  split
  · next p hp =>
    rw [hp] at h
    exact h
  · next e p hp =>
    rw [hp] at h
    exact h

/-- Sorted items are the items that were given, also if a comparison fails. -/
theorem sort_perm (descending : Bool) (xs : List α) : (sort less descending xs).items.Perm xs := by
  unfold sort
  split
  · exact (List.reverse_perm _).trans ((ascending_perm less xs.reverse).trans (List.reverse_perm xs))
  · exact ascending_perm less xs

end Less

end SnippetGrader.Sorting
