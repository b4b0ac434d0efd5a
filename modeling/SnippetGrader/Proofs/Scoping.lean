import SnippetGrader.Proofs.Composition.Statement

/-!
# Scopes that stay as they are

Evaluating a text and calling a value leave every scope that exists as it is: comprehensions and
the bodies of functions bind names in scopes that are made for them. Executing a block changes no
scope that exists but its own. What a scope refers to may change in place, but not what its names
are bound to.

`Confined S x` is the invariant: `x` removes no scope and changes none outside `S`. It is shown for
each part that computations are put together from, and then for all levels of the interpreter at
once.
-/

namespace SnippetGrader

open Source Statement

/-! ## Machines -/

/-- All scopes of a machine are scopes of another one, and those outside `S` bind the same names to
the same values. -/
structure Machine.Keeps (S : Nat → Prop) (m m' : Machine) : Prop where
  size : m.store.scopes.size ≤ m'.store.scopes.size
  scope : ∀ ref < m.store.scopes.size, ¬ S ref → m'.store.scopes[ref]? = m.store.scopes[ref]?

namespace Machine.Keeps

variable {S T : Nat → Prop} {m m' m'' : Machine}

theorem of_eq (h : m'.store.scopes = m.store.scopes) : m.Keeps S m' :=
  ⟨by rw [h], fun _ _ _ => by rw [h]⟩

theorem refl (m : Machine) : m.Keeps S m := of_eq rfl

theorem trans (h : m.Keeps S m') (h' : m'.Keeps S m'') : m.Keeps S m'' := by
  refine ⟨h.size.trans h'.size, fun ref href hS => ?_⟩
  rw [h'.scope ref (Nat.lt_of_lt_of_le href h.size) hS, h.scope ref href hS]

theorem mono (h : m.Keeps S m') (hST : ∀ ref, S ref → T ref) : m.Keeps T m' :=
  ⟨h.size, fun ref href hT => h.scope ref href fun hS => hT (hST ref hS)⟩

/-- A scope that is made is none of those that exist. -/
theorem made (h : m.store.scopes.size < m'.store.scopes.size)
    (hm : m.Keeps (fun ref => ref = m.store.scopes.size ∨ S ref) m') : m.Keeps S m' := by
  refine ⟨Nat.le_of_lt h, fun ref href hS => hm.scope ref href ?_⟩
  rintro (rfl | hmem)
  · exact Nat.lt_irrefl _ href
  · exact hS hmem

end Machine.Keeps

theorem Machine.keeps_push (S : Nat → Prop) (m : Machine) (names : Scope) (callDepth : Nat) :
    m.Keeps S { m with
      store := { m.store with scopes := m.store.scopes.push names }
      callDepth } := by
  refine ⟨by rw [Array.size_push]; exact Nat.le_succ _, fun ref href _ => ?_⟩
  rw [Array.getElem?_push, if_neg (Nat.ne_of_lt href)]

theorem Machine.keeps_modify {S : Nat → Prop} (m : Machine) {ref : Nat} (h : S ref)
    (g : Scope → Scope) (exceptions : Nat) (handling : List Failure) :
    m.Keeps S { m with
      store := { m.store with scopes := m.store.scopes.modify ref g, exceptions }
      handling } := by
  refine ⟨by rw [Array.size_modify], fun ref' _ hS => ?_⟩
  rw [Array.getElem?_modify, if_neg]
  rintro rfl
  exact hS h

/-! ## Computations -/

/-- A computation removes no scope and changes none outside `S`. -/
def Confined {α : Type} (S : Nat → Prop) (x : Run α) : Prop :=
  ∀ m : Machine, m.Keeps S (Outcome.after (x m))

namespace Confined

variable {S T : Nat → Prop} {α β : Type}

theorem mono {x : Run α} (hx : Confined S x) (hST : ∀ ref, S ref → T ref) : Confined T x :=
  fun m => (hx m).mono hST

theorem pure (a : α) : Confined S (Pure.pure a : Run α) := fun m => .refl m

theorem throw (stop : Stop) : Confined S (MonadExcept.throw stop : Run α) := fun m => .refl m

theorem onStore (g : Store → Except Stop α × Store) (h : ∀ s, (g s).2.scopes = s.scopes) :
    Confined S (Run.onStore g) := by
  intro m
  refine .of_eq ?_
  have hs := h m.store
  unfold Run.onStore
  generalize g m.store = p at hs
  obtain ⟨r, s⟩ := p
  cases r <;> exact hs

theorem rescue {x : Run α} {k : α → Run β} {h : Failure → Run β} (hx : Confined S x)
    (hk : ∀ a, Confined S (k a)) (hh : ∀ f, Confined S (h f)) :
    Confined S (Run.rescue x k h) := by
  intro m
  have hm := hx m
  unfold Run.rescue
  cases hr : x m with
  | ok a m' =>
    rw [hr] at hm
    exact hm.trans (hk a m')
  | error stop m' =>
    rw [hr] at hm
    cases stop with
    | failed f => exact hm.trans (hh f m')
    | exhausted n => exact hm

theorem bind {x : Run α} {f : α → Run β} (hx : Confined S x) (hf : ∀ a, Confined S (f a)) :
    Confined S (x >>= f) := by
  rw [Run.bind_eq_rescue]
  exact hx.rescue hf fun f => throw (.failed f)

theorem inside (names : Scope) {f : Nat → Run α}
    (hf : ∀ scope, Confined (fun ref => ref = scope ∨ S ref) (f scope)) :
    Confined S (Run.newScope names >>= f) := by
  intro m
  have hpush := m.keeps_push (fun ref => ref = m.store.scopes.size ∨ S ref) names m.callDepth
  have hinner := hf m.store.scopes.size
    { m with store := { m.store with scopes := m.store.scopes.push names } }
  refine .made ?_ (hpush.trans hinner)
  refine Nat.lt_of_lt_of_le ?_ hinner.size
  rw [Array.size_push]
  exact Nat.lt_succ_self _

theorem bindName {ref : Nat} (h : S ref) (name : String) (v : Value) :
    Confined S (Run.bindName ref name v) :=
  fun m => m.keeps_modify h _ m.store.exceptions m.handling

theorem write (text : String) : Confined S (Run.write text) := by
  intro m
  rw [Run.write_eq, Machine.printed_eq]
  split <;> exact .of_eq rfl

theorem readInput : Confined S Run.readInput := by
  intro m
  rw [Run.readInput_eq]
  split <;> exact .of_eq rfl

theorem warn (text : String) : Confined S (Statement.warn text) := by
  intro m
  rw [Run.warn_eq]
  exact .of_eq rfl

theorem guardCall {x : Run α} (hx : Confined S x) : Confined S (Run.guardCall x) := by
  intro m
  have hm := hx m
  rw [Run.guardCall_eq]
  cases hr : x m with
  | ok a m' => rwa [hr] at hm
  | error stop m' =>
    rw [hr] at hm
    cases stop <;> exact hm

theorem undoing {x : Run α} (hx : Confined S x) (b : Store → β) (g : Store → Store)
    (h : ∀ s, (g s).scopes = s.scopes) :
    Confined S (Run.undoing x (Run.onStore fun s => (.ok (b s), g s))) := by
  intro m
  have hm := hx m
  rw [Run.undoing_eq]
  cases hr : x m with
  | ok a m' => rwa [hr] at hm
  | error stop m' =>
    rw [hr] at hm
    exact hm.trans (.of_eq (h m'.store))

theorem between {x : Run α} (hx : Confined S x) {g g' : Machine → Machine}
    (hg : ∀ m : Machine, m.Keeps S (g m)) (hg' : ∀ m : Machine, m.Keeps S (g' m)) :
    Confined S (Run.between g x g') := by
  intro m
  rw [Run.between, Outcome.after_onMachine]
  exact ((hg m).trans (hx (g m))).trans (hg' _)

/-- The body of a function runs in a scope that is made for it. -/
theorem call {e : Engine} {f : Function}
    (hbody : ∀ scope, Confined (fun ref => ref = scope) (e.block scope f.body))
    (args : List Value) (keywords : Keywords) :
    Confined S (callFunction e f args keywords) := by
  intro m
  rw [callFunction_eq]
  split
  · exact .refl m
  · cases callScope f (m.store.scope f.scope) args keywords with
    | error failure => exact .refl m
    | ok names =>
      let T := fun ref => ref = m.store.scopes.size ∨ S ref
      have hpush := m.keeps_push T names (m.callDepth + 1)
      have hblock := hbody m.store.scopes.size (m.entered names)
      have hsize : m.store.scopes.size < (m.entered names).store.scopes.size := by
        rw [Machine.entered, Array.size_push]
        exact Nat.lt_succ_self _
      dsimp only
      rw [Run.bind_eq, Run.between]
      refine .made (Nat.lt_of_lt_of_le hsize ?_)
        (hpush.trans ((hblock.mono fun _ => .inl).trans ?_))
      · cases hr : e.block m.store.scopes.size f.body (m.entered names) <;>
          (rw [hr] at hblock; exact hblock.size)
      · cases e.block m.store.scopes.size f.body (m.entered names) <;> exact .of_eq rfl

theorem line {e : Engine} {scope : Nat} {l : Line} {rest : List Line}
    (h : Confined S (executeKind e scope l rest (classify l.text))) :
    Confined S (executeLine e scope l rest) := by
  intro m
  have hcharged : m.Keeps S (m.charged l) := .of_eq rfl
  rw [executeLine_eq, Outcome.after_onFailure]
  cases (m.charged l).refusal? with
  | some f => exact hcharged
  | none => exact hcharged.trans (h (m.charged l))

section Handlers

variable {e : Engine} {scope : Nat} (hscope : S scope)
  (hb : ∀ lines, Confined S (e.block scope lines))

include hscope hb in
theorem handle (handlers : List Clause) (f : Failure) :
    Confined S (Statement.handle e scope handlers f) := by
  rw [handle_eq]
  cases handlerOf? handlers f with
  | none => exact throw _
  | some h =>
    refine (hb h.lines).between (fun m => ?_) fun m => .of_eq rfl
    unfold catching
    dsimp only
    split
    · exact .of_eq rfl
    · exact m.keeps_modify hscope _ _ _

include hscope hb in
theorem guarded (c : Compound) : Confined S (Statement.guarded e scope c) := by
  rw [guarded_eq]
  refine (hb c.lines).rescue (fun flow => ?_) fun f => ?_
  · cases c.clause? "else" with
    | none => exact pure flow
    | some lines =>
      dsimp only
      split
      · exact hb lines
      · exact pure flow
  · split
    · exact throw _
    · exact handle hscope hb c.handlers f

include hb in
theorem conclude (c : Compound) (outcome : Except Failure Flow) :
    Confined S (Statement.conclude e scope c outcome) := by
  have hend (last : Flow) : Confined S
      (if last.isNormal then Run.ofExcept outcome else return last : Run Flow) := by
    split
    · cases outcome with
      | ok flow => exact pure flow
      | error f => exact throw (.failed f)
    · exact pure last
  unfold Statement.conclude
  cases c.clause? "finally" with
  | none => exact bind (pure _) hend
  | some lines => exact bind (hb lines) hend

include hscope hb in
theorem executeGuarded (c : Compound) : Confined S (Statement.executeGuarded e scope c) :=
  (guarded hscope hb c).rescue (fun flow => conclude hb c (.ok flow))
    fun f => conclude hb c (.error f)

end Handlers

end Confined

/-! ## All levels -/

/-- An engine evaluates and calls without a change to a scope that exists, and a block changes its
own scope alone. -/
structure Engine.Confined (e : Engine) : Prop where
  eval : ∀ scope text, SnippetGrader.Confined (fun _ => False) (e.eval scope text)
  apply : ∀ v args keywords, SnippetGrader.Confined (fun _ => False) (e.apply v args keywords)
  block : ∀ scope lines, SnippetGrader.Confined (fun ref => ref = scope) (e.block scope lines)

/-- What is put together above such an engine changes only the scopes in which it may bind names. -/
theorem Composed.confined {R : Reach} {α : Type} {x : Engine → Run α} (hx : Composed R x)
    {e : Engine} (he : e.Confined) : Confined R.scopes (x e) := by
  induction hx with
  | stored g h => exact .onStore g h.scopes
  | define f _ _ _ => exact fun m => .of_eq rfl
  | raiseAgain => exact fun m => .refl m
  | setting => exact fun m => .refl m
  | newScope names => exact fun m => m.keeps_push _ names m.callDepth
  | inside names _ hf => exact .inside names hf
  | bindName ref h name v => exact .bindName h name v
  | write text => exact .write text
  | readInput => exact .readInput
  | warn text => exact .warn text
  | eval scope text h => exact (he.eval scope text).mono fun _ => False.elim
  | apply v args keywords h => exact (he.apply v args keywords).mono fun _ => False.elim
  | block scope hscope lines h =>
    refine (he.block scope lines).mono fun ref href => ?_
    rwa [href]
  | call ref args keywords =>
    refine .bind (fun m => .refl m) fun s => ?_
    cases s.functions[ref]? with
    | none => exact .pure _
    | some f => exact .call (fun scope => he.block scope f.body) args keywords
  | bind _ _ hx hf => exact .bind hx hf
  | guardCall _ hx => exact .guardCall hx
  | undoing _ b g h _ hx => exact .undoing hx b g h.scopes
  | line scope line rest _ _ h => exact .line h
  | guarded scope hscope c h =>
    refine .executeGuarded hscope (fun lines => (he.block scope lines).mono fun ref href => ?_) c
    rwa [href]

/-- A level above such an engine is such an engine. -/
theorem Engine.Confined.next {e : Engine} (he : e.Confined) : e.next.Confined where
  eval scope text := (Composed.evaluate scope text).confined he
  apply v args keywords := (Composed.apply_calls v args keywords).confined he
  block scope lines :=
    ((Composed.executeBlock scope lines).confined he).mono fun _ h => h.resolve_right id

theorem Engine.confined_level (n : Nat) : (Engine.level n).Confined := by
  induction n with
  | zero => exact ⟨fun _ _ => .throw _, fun _ _ _ => .throw _, fun _ _ => .throw _⟩
  | succ n ih => exact ih.next

/-- Every scope that exists keeps its names and what they are bound to while a text is evaluated or
a function is called, whatever the outcome; so a call changes neither the scope of its caller nor
the one in which the function was defined. A block changes no scope that exists but its own. -/
theorem scopes_kept (n : Nat) (m : Machine) (ref : Nat) (href : ref < m.store.scopes.size) :
    (∀ scope text,
      (Outcome.after (Expression.evaluate (Engine.level n) scope text m)).store.scopes[ref]? =
        m.store.scopes[ref]?) ∧
    (∀ v args keywords,
      (Outcome.after (Statement.apply (Engine.level n) v args keywords m)).store.scopes[ref]? =
        m.store.scopes[ref]?) ∧
    (∀ f args keywords,
      (Outcome.after (callFunction (Engine.level n) f args keywords m)).store.scopes[ref]? =
        m.store.scopes[ref]?) ∧
    ∀ scope lines, ref ≠ scope →
      (Outcome.after (executeBlock (Engine.level n) scope lines m)).store.scopes[ref]? =
        m.store.scopes[ref]? := by
  have he := Engine.confined_level n
  have hcall (f : Function) (args : List Value) (keywords : Keywords) :
      Confined (fun _ => False) (callFunction (Engine.level n) f args keywords) :=
    .call (fun scope => he.block scope f.body) args keywords
  exact ⟨fun scope text => (he.next.eval scope text m).scope ref href id,
    fun v args keywords => (he.next.apply v args keywords m).scope ref href id,
    fun f args keywords => (hcall f args keywords m).scope ref href id,
    fun scope lines hne => (he.next.block scope lines m).scope ref href hne⟩

/-- A comprehension binds its own `x`, and a block that assigns to `x` in a scope of its own leaves
the other one alone. -/
theorem scopes_kept_shadowed :
    let m : Machine := { store := { scopes := #[[("x", .int 5)], []] } }
    0 < m.store.scopes.size ∧ 0 ≠ 1 ∧
      (Outcome.after (Expression.evaluate (Engine.level 9) 0 "[x for x in [1, 2]]".toList
        m)).store.scopes[0]? = some [("x", .int 5)] ∧
      (Outcome.after (executeBlock (Engine.level 9) 1 (splitLines "x = 7".toList)
        m)).store.scopes[0]? = some [("x", .int 5)] := by
  intro m
  have hkept := scopes_kept 9 m 0 (by decide)
  exact ⟨by decide, by decide, hkept.1 0 _, hkept.2.2.2 1 _ (by decide)⟩

end SnippetGrader
