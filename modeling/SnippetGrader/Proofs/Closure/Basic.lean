import SnippetGrader.Proofs.Renaming.Trees

/-!
# What computations refer to

Every value that a machine holds is to refer to a thing that is there. A computation is looked at
together with a store `S` that has room for all things there are when it has ended: if all that is
held before refers to things of `S`, so does all that is held afterwards, and so does the result
(`Keeps`). What is known of the values a computation is given stands in an assumption `C`, because
things are only ever added, whatever a computation is given, and that is what makes `S` large
enough for each of its parts.
-/

namespace SnippetGrader

/-! ## Items of arrays -/

section Items

variable {α : Type} {P : α → Prop} {xs : Array α} (h : ∀ x ∈ xs, P x)
include h

theorem forall_mem_setIfInBounds {i : Nat} {y : α} (hy : P y) :
    ∀ x ∈ xs.setIfInBounds i y, P x := fun x hx => by
  obtain hx | rfl := Array.mem_or_eq_of_mem_setIfInBounds hx
  · exact h x hx
  · exact hy

theorem forall_mem_modify {i : Nat} {f : α → α} (hf : ∀ x, P x → P (f x)) :
    ∀ x ∈ xs.modify i f, P x := fun x hx => by
  obtain ⟨j, hj, rfl⟩ := Array.getElem_of_mem hx
  rw [Array.getElem_modify]
  split
  · exact hf _ (h _ (Array.getElem_mem _))
  · exact h _ (Array.getElem_mem _)

end Items

/-! ## Values that a machine holds -/

def Value.AllWithin (s : Store) (vs : List Value) : Prop := ∀ v ∈ vs, v.Within s

/-- What names are bound to is in the store. Named arguments are names of this kind. -/
def Scope.Within (s : Store) (scope : Scope) : Prop := ∀ p ∈ scope, p.2.Within s

namespace Scope.Within

variable {s : Store} {scope : Scope} {name : String} {v : Value}

theorem nil : Scope.Within s [] := nofun

theorem set (h : scope.Within s) (hv : v.Within s) : (scope.set name v).Within s := by
  induction scope with
  | nil =>
    rintro p hp
    obtain rfl := List.mem_singleton.1 hp
    exact hv
  | cons entry rest ih =>
    obtain ⟨n, w⟩ := entry
    have hrest : Scope.Within s rest := fun p hp => h p (List.mem_cons_of_mem _ hp)
    have hw : w.Within s := h _ List.mem_cons_self
    rw [Scope.set]
    split
    · rintro p (_ | ⟨_, hp⟩)
      · exact hv
      · exact hrest p hp
    · rintro p (_ | ⟨_, hp⟩)
      · exact hw
      · exact ih hrest p hp

theorem get? (h : scope.Within s) (hv : scope.get? name = some v) : v.Within s := by
  obtain ⟨before, after, rfl, -⟩ := List.lookup_eq_some_iff.1 hv
  exact h _ (List.mem_append_right before List.mem_cons_self)

end Scope.Within

/-- There is room in `S` for all things of `s` that values refer to. -/
structure Store.NoLarger (s S : Store) : Prop where
  lists : s.lists.size ≤ S.lists.size
  functions : s.functions.size ≤ S.functions.size
  nans : s.nans ≤ S.nans

/-- All that the things of `s` refer to is in `S`. -/
structure Store.HeldIn (s S : Store) : Prop where
  lists : ∀ xs ∈ s.lists, ∀ v ∈ xs, v.Within S
  scopes : ∀ scope ∈ s.scopes, scope.Within S
  functions : ∀ f ∈ s.functions, f.defaults.Within S
  templates : ∀ t ∈ s.templates, t.default.Within S
  objects : ∀ o ∈ s.objects, o.fields.Within S

namespace Store

variable {s s' s'' S : Store}

theorem NoLarger.refl (s : Store) : s.NoLarger s := ⟨Nat.le_refl _, Nat.le_refl _, Nat.le_refl _⟩

theorem NoLarger.of_eq (hlists : s.lists.size = S.lists.size)
    (hfunctions : s.functions.size = S.functions.size) (hnans : s.nans = S.nans) : s.NoLarger S :=
  ⟨Nat.le_of_eq hlists, Nat.le_of_eq hfunctions, Nat.le_of_eq hnans⟩

theorem NoLarger.trans (h : s.NoLarger s') (h' : s'.NoLarger s'') : s.NoLarger s'' :=
  ⟨Nat.le_trans h.lists h'.lists, Nat.le_trans h.functions h'.functions, Nat.le_trans h.nans h'.nans⟩

theorem NoLarger.within (h : s.NoLarger S) {v : Value} (hv : v.Within s) : v.Within S := by
  cases v with
  | list ref => exact Nat.lt_of_lt_of_le hv h.lists
  | function ref => exact Nat.lt_of_lt_of_le hv h.functions
  | nan ref => exact Nat.lt_of_lt_of_le hv h.nans
  | _ => trivial

theorem NoLarger.scope (h : s.NoLarger S) {scope : Scope} (hscope : scope.Within s) :
    scope.Within S := fun p hp => h.within (hscope p hp)

theorem HeldIn.mono (h : s.HeldIn s') (hS : s'.NoLarger S) : s.HeldIn S where
  lists xs hxs v hv := hS.within (h.lists xs hxs v hv)
  scopes scope hscope := hS.scope (h.scopes scope hscope)
  functions f hf := hS.scope (h.functions f hf)
  templates t ht := hS.within (h.templates t ht)
  objects o ho := hS.scope (h.objects o ho)

namespace HeldIn

variable (h : s.HeldIn S)
include h

theorem items (ref : Nat) : ∀ v ∈ s.items ref, v.Within S := by
  unfold Store.items
  cases hxs : s.lists[ref]? with
  | none => nofun
  | some xs => exact h.lists xs (Array.mem_of_getElem? hxs)

theorem scope (ref : Nat) : (s.scope ref).Within S := by
  unfold Store.scope
  cases hscope : s.scopes[ref]? with
  | none => exact .nil
  | some scope => exact h.scopes scope (Array.mem_of_getElem? hscope)

end HeldIn

end Store

/-- All that a machine holds refers to things of `S`. -/
structure Machine.HeldIn (m : Machine) (S : Store) : Prop where
  store : m.store.HeldIn S
  inputs : ∀ v ∈ m.inputs, v.Within S

theorem Machine.HeldIn.mono {m : Machine} {s S : Store} (h : m.HeldIn s) (hS : s.NoLarger S) :
    m.HeldIn S := ⟨h.store.mono hS, fun v hv => hS.within (h.inputs v hv)⟩

theorem Machine.HeldIn.congr {m m' : Machine} {S : Store} (h : m.HeldIn S)
    (hstore : m'.store = m.store) (hinputs : m'.inputs = m.inputs) : m'.HeldIn S :=
  ⟨hstore ▸ h.store, hinputs ▸ h.inputs⟩

/-! ## Computations that may fail -/

/-- A computation has a result of a kind, unless it fails. -/
def Yields {α : Type} (P : α → Prop) (r : Except Failure α) : Prop := ∀ a, r = .ok a → P a

section Yields

variable {α β : Type} {P : α → Prop} {Q : β → Prop}

@[simp] theorem yields_ok {a : α} : Yields P (.ok a) ↔ P a :=
  ⟨fun h => h a rfl, fun h _ ha => Except.ok.inj ha ▸ h⟩

@[simp] theorem yields_pure {a : α} : Yields P (pure a) ↔ P a := yields_ok

@[simp] theorem yields_error (f : Failure) : Yields P (.error f) := nofun

@[simp] theorem yields_throw (f : Failure) : Yields P (throw f) := nofun

theorem yields_bind {x : Except Failure β} {f : β → Except Failure α} :
    Yields P (x >>= f) ↔ Yields (fun b => Yields P (f b)) x := by
  cases x with
  | ok b => simp only [yields_ok]; rfl
  | error e => exact ⟨fun _ => yields_error e, fun _ => yields_error e⟩

@[simp] theorem yields_map {f : β → α} {x : Except Failure β} :
    Yields P (f <$> x) ↔ Yields (fun b => P (f b)) x := by
  cases x with
  | ok b =>
    change Yields P (.ok (f b)) ↔ _
    rw [yields_ok, yields_ok]
  | error e => exact ⟨fun _ => yields_error e, fun _ => yields_error e⟩

@[simp] theorem yields_ite {c : Prop} [Decidable c] {x y : Except Failure α} :
    Yields P (if c then x else y) ↔ if c then Yields P x else Yields P y := by
  split <;> rfl

theorem yields_of_forall (h : ∀ a, P a) (r : Except Failure α) : Yields P r := fun a _ => h a

@[simp] theorem yields_true (r : Except Failure α) : Yields (fun _ => True) r := fun _ _ => trivial

theorem Yields.bind {x : Except Failure β} {f : β → Except Failure α} (hx : Yields Q x)
    (hf : ∀ b, Q b → Yields P (f b)) : Yields P (x >>= f) :=
  yields_bind.2 fun b hb => hf b (hx b hb)

/-- What follows a check. -/
theorem Yields.seq {x : Except Failure β} {f : β → Except Failure α} (hf : ∀ b, Yields P (f b)) :
    Yields P (x >>= f) := yields_bind.2 fun b _ => hf b

theorem Yields.ite {c : Prop} [Decidable c] {x y : Except Failure α} (hx : Yields P x)
    (hy : Yields P y) : Yields P (if c then x else y) := by
  split <;> assumption

end Yields

/-! ## Computations -/

theorem Run.finally'_modify {α : Type} (x : Run α) (g : Machine → Machine) (m : Machine) :
    finally' x (modify g) m = Outcome.onMachine g (x m) := by
  unfold finally'
  cases x m <;> rfl

/-- All that is held after a computation refers to things of `S`, and the result is as `Q` says. -/
def Outcome.HeldIn {α : Type} (S : Store) (Q : α → Prop) : Outcome α → Prop
  | .ok a m => m.HeldIn S ∧ Q a
  | .error _ m => m.HeldIn S

/-- A computation only adds things. If there is room for them in `S`, what was held before refers
to things of `S` and `C` is true, then what is held afterwards refers to things of `S`, and the
result is as `Q` says. -/
structure Keeps (S : Store) (C : Prop) {α : Type} (Q : α → Prop) (x : Run α) : Prop where
  grows (m : Machine) : m.store.NoLarger (Outcome.after (x m)).store
  held : C → ∀ m : Machine, m.HeldIn S → (Outcome.after (x m)).store.NoLarger S →
    Outcome.HeldIn S Q (x m)

namespace Keeps

variable {S : Store} {C C' : Prop} {α β γ : Type} {P : β → Prop} {Q Q' : α → Prop}

/-! ### Going on -/

theorem weaken {x : Run α} (hx : Keeps S C' Q x) (h : C → C') : Keeps S C Q x :=
  ⟨hx.grows, fun hC => hx.held (h hC)⟩

theorem mono {x : Run α} (hx : Keeps S C Q x) (h : C → ∀ a, Q a → Q' a) : Keeps S C Q' x where
  grows := hx.grows
  held hC m hm hS := by
    have hend := hx.held hC m hm hS
    cases hr : x m with
    | ok a m' =>
      rw [hr] at hend
      exact ⟨hend.1, h hC a hend.2⟩
    | error stop m' =>
      rw [hr] at hend
      exact hend

theorem bind {x : Run β} {f : β → Run α} (hx : Keeps S C P x)
    (hf : ∀ b, Keeps S (C ∧ P b) Q (f b)) : Keeps S C Q (x >>= f) where
  grows m := by
    have h := hx.grows m
    rw [Run.bind_eq]
    cases hr : x m with
    | ok b m' =>
      rw [hr] at h
      exact h.trans ((hf b).grows m')
    | error stop m' =>
      rw [hr] at h
      exact h
  held hC m hm hS := by
    have h := hx.held hC m hm
    rw [Run.bind_eq] at hS ⊢
    cases hr : x m with
    | ok b m' =>
      rw [hr] at h hS
      obtain ⟨hm', hb⟩ := h (((hf b).grows m').trans hS)
      exact (hf b).held ⟨hC, hb⟩ m' hm' hS
    | error stop m' =>
      rw [hr] at h hS
      exact h hS

/-- What follows a result of which nothing is to be known. -/
theorem seq {x : Run β} {f : β → Run α} (hx : Keeps S C P x) (hf : ∀ b, Keeps S C Q (f b)) :
    Keeps S C Q (x >>= f) := .bind hx fun b => (hf b).weaken And.left

theorem pure {a : α} (h : C → Q a) : Keeps S C Q (Pure.pure a) :=
  ⟨fun m => .refl m.store, fun hC _ hm _ => ⟨hm, h hC⟩⟩

theorem throw (stop : Stop) : Keeps S C Q (MonadExcept.throw stop) :=
  ⟨fun m => .refl m.store, fun _ _ hm _ => hm⟩

theorem fail (f : Failure) : Keeps S C Q (Run.fail f) := throw (.failed f)

/-- Nothing follows a failure. -/
theorem failed (f : Failure) (k : β → Run α) : Keeps S C Q (Run.fail f >>= k) := fail f

theorem ofExcept {r : Except Failure α} (h : C → Yields Q r) : Keeps S C Q (Run.ofExcept r) := by
  cases r with
  | ok a => exact pure fun hC => h hC a rfl
  | error f => exact fail f

/-- A check, or a result of which nothing is to be known. -/
theorem check (r : Except Failure α) : Keeps S C (fun _ => True) (Run.ofExcept r) :=
  ofExcept fun _ => yields_true r

theorem ofStop (r : Except Stop α) : Keeps S C (fun _ => True) (Run.ofStop r) := by
  cases r with
  | ok a => exact pure fun _ => trivial
  | error stop => exact throw stop

theorem map {x : Run β} (f : β → α) (hx : Keeps S C P x) (h : C → ∀ b, P b → Q (f b)) :
    Keeps S C Q (f <$> x) := by
  rw [map_eq_pure_bind]
  exact .bind hx fun b => pure fun hC => h hC.1 b hC.2

theorem ite {c : Prop} [Decidable c] {x y : Run α} (hx : Keeps S C Q x) (hy : Keeps S C Q y) :
    Keeps S C Q (if c then x else y) := by
  split <;> assumption

/-- A check that ends the computation if it fails. -/
theorem checked {c : Prop} [Decidable c] {x : Run PUnit} {k : PUnit → Run α}
    (hx : Keeps S C (fun _ => True) x) (hk : ∀ r, Keeps S C Q (k r)) :
    Keeps S C Q (if c then x >>= k else k ⟨⟩) :=
  ite (hx.seq hk) (hk ⟨⟩)

theorem mapM {f : γ → Run β} {cs : List γ} (hf : ∀ c ∈ cs, Keeps S C P (f c)) :
    Keeps S C (fun bs => ∀ b ∈ bs, P b) (cs.mapM f) := by
  induction cs with
  | nil =>
    rw [List.mapM_nil]
    exact pure fun _ => nofun
  | cons c cs ih =>
    have hcs := ih fun d hd => hf d (List.mem_cons_of_mem c hd)
    rw [List.mapM_cons]
    exact .bind (hf c List.mem_cons_self) fun b => .bind (hcs.weaken And.left) fun bs =>
      pure fun ⟨⟨_, hb⟩, hbs⟩ => List.forall_mem_cons.2 ⟨hb, hbs⟩

theorem forM {f : γ → Run PUnit} {cs : List γ}
    (hf : ∀ c ∈ cs, Keeps S C (fun _ => True) (f c)) :
    Keeps S C (fun _ => True) (cs.forM f) := by
  induction cs with
  | nil => exact pure fun _ => trivial
  | cons c cs ih =>
    exact .seq (hf c List.mem_cons_self) fun _ => ih fun d hd => hf d (List.mem_cons_of_mem c hd)

theorem foldlM {f : β → γ → Run β} {cs : List γ} {b : β} (hb : C → P b)
    (hf : ∀ b, ∀ c ∈ cs, Keeps S (C ∧ P b) P (f b c)) : Keeps S C P (cs.foldlM f b) := by
  induction cs generalizing b C with
  | nil =>
    rw [List.foldlM_nil]
    exact pure hb
  | cons c cs ih =>
    have hc := (hf b c List.mem_cons_self).weaken fun hC => ⟨hC, hb hC⟩
    rw [List.foldlM_cons]
    exact .bind hc fun b' => ih And.right fun b d hd =>
      (hf b d (List.mem_cons_of_mem c hd)).weaken fun h => ⟨h.1.1, h.2⟩

theorem filterAuxM {f : γ → Run Bool} {kept : List γ} (cs : List γ) {K : γ → Prop}
    (hkept : ∀ c ∈ kept, K c) (hcs : ∀ c ∈ cs, K c)
    (hf : ∀ c ∈ cs, Keeps S C (fun _ => True) (f c)) :
    Keeps S C (fun kept => ∀ c ∈ kept, K c) (cs.filterAuxM f kept) := by
  induction cs generalizing kept with
  | nil => exact pure fun _ => hkept
  | cons c cs ih =>
    obtain ⟨hc, hcs⟩ := List.forall_mem_cons.1 hcs
    refine .seq (hf c List.mem_cons_self) fun b => ih ?_ hcs fun d hd =>
      hf d (List.mem_cons_of_mem c hd)
    cases b with
    | true => exact List.forall_mem_cons.2 ⟨hc, hkept⟩
    | false => exact hkept

/-- What passes a filter was there before. -/
theorem filterM {f : γ → Run Bool} {cs : List γ}
    (hf : ∀ c ∈ cs, Keeps S C (fun _ => True) (f c)) :
    Keeps S C (fun kept => ∀ c ∈ kept, c ∈ cs) (cs.filterM f) :=
  .bind (filterAuxM cs (K := (· ∈ cs)) nofun (fun _ h => h) hf) fun _ =>
    pure fun h c hc => h.2 c (List.mem_reverse.1 hc)

/-! ### Failures -/

theorem onFailure {x : Run α} {handler : Failure → Run α} (hx : Keeps S C Q x)
    (hh : ∀ f, Keeps S C Q (handler f)) : Keeps S C Q (Run.onFailure x handler) where
  grows m := by
    have h := hx.grows m
    unfold Run.onFailure
    cases hr : x m with
    | ok a m' => rwa [hr] at h
    | error stop m' =>
      rw [hr] at h
      cases stop with
      | failed f => exact h.trans ((hh f).grows m')
      | exhausted n => exact h
  held hC m hm hS := by
    have h := hx.held hC m hm
    unfold Run.onFailure at hS ⊢
    cases hr : x m with
    | ok a m' =>
      rw [hr] at h hS
      exact h hS
    | error stop m' =>
      rw [hr] at h hS
      cases stop with
      | failed f => exact (hh f).held hC m' (h (((hh f).grows m').trans hS)) hS
      | exhausted n => exact h hS

theorem attempt {x : Run α} (hx : Keeps S C Q x) :
    Keeps S C (fun r => ∀ a, r = .ok a → Q a) (Run.attempt x) := by
  refine .onFailure (.map Except.ok hx fun _ a ha b hb => ?_) fun f => pure fun _ => nofun
  cases hb
  exact ha

theorem guardCall {x : Run α} (hx : Keeps S C Q x) : Keeps S C Q (Run.guardCall x) where
  grows m := by
    have h := hx.grows m
    rw [Run.guardCall_eq]
    cases hr : x m with
    | ok a m' => rwa [hr] at h
    | error stop m' =>
      rw [hr] at h
      cases stop <;> exact h
  held hC m hm hS := by
    have h := hx.held hC m hm
    rw [Run.guardCall_eq] at hS ⊢
    cases hr : x m with
    | ok a m' =>
      rw [hr] at h hS
      exact h hS
    | error stop m' =>
      rw [hr] at h hS
      cases stop <;> exact h hS

/-- What is undone at the end is neither in the store nor among the inputs. -/
theorem finally' {x : Run α} {g : Machine → Machine} (hx : Keeps S C Q x)
    (hstore : ∀ m, (g m).store = m.store) (hinputs : ∀ m, (g m).inputs = m.inputs) :
    Keeps S C Q (Run.finally' x (modify g)) where
  grows m := by
    rw [Run.finally'_modify, Outcome.after_onMachine, hstore]
    exact hx.grows m
  held hC m hm hS := by
    have h := hx.held hC m hm
    rw [Run.finally'_modify, Outcome.after_onMachine, hstore] at hS
    rw [Run.finally'_modify]
    cases hr : x m with
    | ok a m' =>
      rw [hr] at h hS
      exact ⟨(h hS).1.congr (hstore m') (hinputs m'), (h hS).2⟩
    | error stop m' =>
      rw [hr] at h hS
      exact Machine.HeldIn.congr (h hS) (hstore m') (hinputs m')

/-- What is undone if a computation stops is in the store. -/
theorem undoing {x : Run α} {undo : Run β} (hx : Keeps S C Q x) (hu : Keeps S C P undo) :
    Keeps S C Q (tryCatch x fun stop => do let _ ← undo; MonadExcept.throw stop) where
  grows m := by
    have h := hx.grows m
    change m.store.NoLarger (Outcome.after (EStateM.tryCatch x _ m)).store
    unfold EStateM.tryCatch
    cases hr : x m with
    | ok a m' => rwa [hr] at h
    | error stop m' =>
      rw [hr] at h
      exact h.trans ((hu.seq (f := fun _ => MonadExcept.throw stop) (Q := Q)
        fun _ => throw stop).grows m')
  held hC m hm hS := by
    have h := hx.held hC m hm
    change Outcome.HeldIn S Q (EStateM.tryCatch x _ m)
    change (Outcome.after (EStateM.tryCatch x _ m)).store.NoLarger S at hS
    unfold EStateM.tryCatch at hS ⊢
    cases hr : x m with
    | ok a m' =>
      rw [hr] at h hS
      exact h hS
    | error stop m' =>
      rw [hr] at h hS
      have hundo : Keeps S C Q (do let _ ← undo; MonadExcept.throw stop) :=
        hu.seq fun _ => throw stop
      exact hundo.held hC m' (h ((hundo.grows m').trans hS)) hS

/-! ### The machine -/

section Machine

variable {ref : Nat} {v : Value} {name : String}

theorem get : Keeps S C (fun m => m.HeldIn S) (MonadStateOf.get : Run Machine) :=
  ⟨fun m => .refl m.store, fun _ _ hm _ => ⟨hm, hm⟩⟩

/-- Changes that concern neither the store nor the inputs. -/
theorem modify {g : Machine → Machine} (hstore : ∀ m, (g m).store = m.store)
    (hinputs : ∀ m, (g m).inputs = m.inputs) :
    Keeps S C (fun _ => True) (modifyThe Machine g : Run PUnit) where
  grows m := (hstore m).symm ▸ .refl m.store
  held _ m hm _ := ⟨hm.congr (hstore m) (hinputs m), trivial⟩

/-- Work on the store alone. -/
theorem onStore (g : Store → α × Store) (hgrows : ∀ s : Store, s.NoLarger (g s).2)
    (hheld : C → ∀ s : Store, s.HeldIn S → (g s).2.NoLarger S → (g s).2.HeldIn S ∧ Q (g s).1) :
    Keeps S C Q fun m => .ok (g m.store).1 { m with store := (g m.store).2 } where
  grows m := hgrows m.store
  held hC m hm hS := ⟨⟨(hheld hC m.store hm.store hS).1, hm.inputs⟩, (hheld hC m.store hm.store hS).2⟩

theorem store : Keeps S C (fun s => s.HeldIn S) Run.store :=
  onStore (fun s => (s, s)) .refl fun _ _ hs _ => ⟨hs, hs⟩

/-- A change of what is in the store, to which nothing is added. -/
theorem modifyStore {f : Store → Store} (hgrows : ∀ s : Store, s.NoLarger (f s))
    (hheld : C → ∀ s : Store, s.HeldIn S → (f s).HeldIn S) :
    Keeps S C (fun _ => True) (Run.modifyStore f) :=
  onStore (fun s => ((), f s)) hgrows fun hC s hs _ => ⟨hheld hC s hs, trivial⟩

theorem items : Keeps S C (fun xs => ∀ v ∈ xs, v.Within S) (Run.items ref) :=
  .bind store fun _ => pure fun h => h.2.items ref

theorem newList {xs : Array Value} (h : C → ∀ v ∈ xs, v.Within S) :
    Keeps S C (Value.Within S) (Run.newList xs) :=
  onStore (fun s => (Value.list s.lists.size, { s with lists := s.lists.push xs }))
    (fun _ => ⟨Array.size_push xs ▸ Nat.le_succ _, Nat.le_refl _, Nat.le_refl _⟩)
    fun hC _ hs hS => ⟨{ hs with lists := Array.forall_mem_push.2 ⟨h hC, hs.lists⟩ },
      Nat.lt_of_lt_of_le (Array.size_push xs ▸ Nat.lt_succ_self _) hS.lists⟩

theorem setItems {xs : Array Value} (h : C → ∀ v ∈ xs, v.Within S) :
    Keeps S C (fun _ => True) (Run.setItems ref xs) :=
  modifyStore (fun _ => .of_eq Array.size_setIfInBounds.symm rfl rfl)
    fun hC _ hs => { hs with lists := forall_mem_setIfInBounds hs.lists (h hC) }

theorem modifyItems {f : Array Value → Array Value}
    (h : C → ∀ xs : Array Value, (∀ v ∈ xs, v.Within S) → ∀ v ∈ f xs, v.Within S) :
    Keeps S C (fun _ => True)
      (Run.modifyStore fun s => { s with lists := s.lists.modify ref f }) :=
  modifyStore (fun _ => .of_eq Array.size_modify.symm rfl rfl)
    fun hC _ hs => { hs with lists := forall_mem_modify hs.lists (h hC) }

theorem growList {f : Array Value → Array Value}
    (h : C → ∀ xs : Array Value, (∀ v ∈ xs, v.Within S) → ∀ v ∈ f xs, v.Within S) :
    Keeps S C (fun _ => True) (Run.growList ref f) :=
  modifyStore (fun _ => .of_eq Array.size_modify.symm rfl rfl)
    fun hC _ hs => { hs with lists := forall_mem_modify hs.lists (h hC) }

theorem beginSort : Keeps S C (fun _ => True) (Run.beginSort ref) :=
  .seq (setItems fun _ => nofun) fun _ => modifyStore (fun _ => .of_eq rfl rfl rfl) fun _ _ hs => { hs with }

theorem endSort {xs : Array Value} (h : C → ∀ v ∈ xs, v.Within S) :
    Keeps S C (fun _ => True) (Run.endSort ref xs) :=
  .seq store fun _ => .seq (setItems h) fun _ =>
    .seq (modifyStore (fun _ => .of_eq rfl rfl rfl) fun _ _ hs => { hs with }) fun _ => pure fun _ => trivial

theorem newScope {names : Scope} (h : C → names.Within S) :
    Keeps S C (fun _ => True) (Run.newScope names) :=
  onStore (fun s => (s.scopes.size, { s with scopes := s.scopes.push names }))
    (fun _ => .of_eq rfl rfl rfl)
    fun hC _ hs _ => ⟨{ hs with scopes := Array.forall_mem_push.2 ⟨h hC, hs.scopes⟩ }, trivial⟩

theorem scope : Keeps S C (Scope.Within S) (Run.scope ref) :=
  .bind store fun _ => pure fun h => h.2.scope ref

theorem lookup? : Keeps S C (fun o => ∀ v, o = some v → v.Within S) (Run.lookup? ref name) :=
  .bind scope fun _ => pure fun h _ hv => h.2.get? hv

theorem bindName (h : C → v.Within S) : Keeps S C (fun _ => True) (Run.bindName ref name v) :=
  modifyStore (fun _ => .of_eq rfl rfl rfl) fun hC _ hs =>
    { hs with scopes := forall_mem_modify hs.scopes fun _ hscope => hscope.set (h hC) }

theorem setField (h : C → v.Within S) : Keeps S C (fun _ => True) (Run.setField ref name v) := by
  refine modifyStore (fun _ => .of_eq rfl rfl rfl) fun hC _ hs => { hs with objects := ?_ }
  exact forall_mem_modify (f := fun o => { o with fields := o.fields.set name v }) hs.objects
    fun _ ho => ho.set (h hC)

theorem newLock : Keeps S C (Value.Within S) Run.newLock :=
  onStore (fun s => (Value.lock s.locks, { s with locks := s.locks + 1 })) (fun _ => .of_eq rfl rfl rfl)
    fun _ _ hs _ => ⟨{ hs with }, trivial⟩

theorem newException {kind message : String} :
    Keeps S C (Value.Within S) (Run.newException kind message) :=
  onStore (fun s => (Value.exception s.exceptions kind message,
    { s with exceptions := s.exceptions + 1 })) (fun _ => .of_eq rfl rfl rfl)
    fun _ _ hs _ => ⟨{ hs with }, trivial⟩

theorem newNan : Keeps S C (Value.Within S) Run.newNan :=
  onStore (fun s => (Value.nan s.nans, { s with nans := s.nans + 1 }))
    (fun _ => ⟨Nat.le_refl _, Nat.le_refl _, Nat.le_succ _⟩)
    fun _ _ hs hS => ⟨{ hs with }, Nat.lt_of_lt_of_le (Nat.lt_succ_self _) hS.nans⟩

theorem newFunction {f : Function} (h : C → f.defaults.Within S) :
    Keeps S C (Value.Within S) (Expression.newFunction f) :=
  onStore (fun s => (Value.function s.functions.size, { s with functions := s.functions.push f }))
    (fun _ => ⟨Nat.le_refl _, Array.size_push f ▸ Nat.le_succ _, Nat.le_refl _⟩)
    fun hC _ hs hS => ⟨{ hs with functions := Array.forall_mem_push.2 ⟨h hC, hs.functions⟩ },
      Nat.lt_of_lt_of_le (Array.size_push f ▸ Nat.lt_succ_self _) hS.functions⟩

theorem newTemplate {t : Template} (h : C → t.default.Within S) :
    Keeps S C (Value.Within S) (Statement.newTemplate t) :=
  onStore (fun s => (Value.template s.templates.size, { s with templates := s.templates.push t }))
    (fun _ => .of_eq rfl rfl rfl) fun hC _ hs _ =>
      ⟨{ hs with templates := Array.forall_mem_push.2 ⟨h hC, hs.templates⟩ }, trivial⟩

/-- A new object has one field. -/
theorem instantiate {t : Template} {args : List Value} (ht : C → t.default.Within S)
    (hargs : C → Value.AllWithin S args) :
    Keeps S C (Value.Within S) (Statement.instantiate ref t args) := by
  have hfirst (hC : C) : (args.head?.getD t.default).Within S := by
    cases args with
    | nil => exact ht hC
    | cons v args => exact hargs hC v List.mem_cons_self
  have hfields (hC : C) : Scope.Within S [(t.field, args.head?.getD t.default)] :=
    List.forall_mem_singleton.2 (hfirst hC)
  exact onStore (fun s => (Value.object s.objects.size,
      { s with objects := s.objects.push ⟨ref, [(t.field, args.head?.getD t.default)]⟩ }))
    (fun _ => .of_eq rfl rfl rfl) fun hC _ hs _ =>
      ⟨{ hs with objects := Array.forall_mem_push.2 ⟨hfields hC, hs.objects⟩ }, trivial⟩

theorem fresh (h : C → v.Within S) : Keeps S C (Value.Within S) (Run.fresh v) := by
  cases v with
  | float x => exact ite newNan (pure h)
  | _ => exact pure h

theorem computed {r : Except Failure Value} (h : C → Yields (Value.Within S) r) :
    Keeps S C (Value.Within S) (Run.computed r) :=
  .bind (ofExcept h) fun _ => fresh And.right

theorem write {text : String} : Keeps S C (fun _ => True) (Run.write text) :=
  .seq (modify (fun _ => rfl) fun _ => rfl) fun _ => .seq get fun _ => .checked (fail _) fun _ =>
    modify (fun _ => rfl) fun _ => rfl

theorem setInputs {vs : List Value} (h : C → Value.AllWithin S vs) :
    Keeps S C (fun _ => True) (modifyThe Machine fun m => { m with inputs := vs }) where
  grows m := .refl m.store
  held hC _ hm _ := ⟨⟨hm.store, h hC⟩, trivial⟩

theorem readInput : Keeps S C (Value.Within S) Run.readInput := by
  refine .bind get fun m => ?_
  cases hinputs : m.inputs with
  | nil => exact fail _
  | cons v rest =>
    have hall (h : C ∧ m.HeldIn S) : Value.AllWithin S (v :: rest) := hinputs ▸ h.2.inputs
    exact .seq (setInputs fun h => (List.forall_mem_cons.1 (hall h)).2) fun _ =>
      pure fun h => hall h v List.mem_cons_self

theorem tick : Keeps S C (fun _ => True) Run.tick :=
  .seq (modify (fun _ => rfl) fun _ => rfl) fun _ => .seq get fun _ => .checked (fail _) fun _ =>
    ite (fail _) (pure fun _ => trivial)

theorem typeName : Keeps S C (fun _ => True) (Run.typeName v) :=
  .seq store fun _ => pure fun _ => trivial

theorem truthy : Keeps S C (fun _ => True) (Run.truthy v) :=
  .seq store fun _ => pure fun _ => trivial

theorem display : Keeps S C (fun _ => True) (Run.display v) := .seq store fun _ => ofStop _

theorem repr : Keeps S C (fun _ => True) (Run.repr v) := .seq store fun _ => ofStop _

end Machine

end Keeps

/-! ## Engines -/

/-- What a block that has ended gives back is in the store. -/
def Flow.Within (s : Store) : Flow → Prop
  | .returned v => v.Within s
  | _ => True

/-- All that an engine offers only adds things, and gives results that refer to things. A value is
called with arguments that do so. -/
structure Engine.Keeps (S : Store) (e : Engine) : Prop where
  eval {C : Prop} {scope : Nat} {text : List Char} :
    SnippetGrader.Keeps S C (Value.Within S) (e.eval scope text)
  apply {C : Prop} {v : Value} {args : List Value} {keywords : Keywords}
    (hargs : C → Value.AllWithin S args) (hkeywords : C → Scope.Within S keywords) :
    SnippetGrader.Keeps S C (Value.Within S) (e.apply v args keywords)
  block {C : Prop} {scope : Nat} {lines : List Source.Line} :
    SnippetGrader.Keeps S C (Flow.Within S) (e.block scope lines)

end SnippetGrader
