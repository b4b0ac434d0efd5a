import SnippetGrader.Proofs.Composition.Bodies
import SnippetGrader.Proofs.Failures.Value
import SnippetGrader.Proofs.Outcome

/-!
# What the interpreter is composed of

Every computation of the interpreter is put together from few parts: looks at the store and
changes of it, the primitives of the console, questions to the engine below, and a handful of ways
to go on after a result or a failure. `Composed R x` says that `x`, which takes the engine below
it as an argument, is put together so, and that it asks the engine only for what `R` allows and
binds names only where `R` allows it. Failures get their lines from the statements alone: the parts
that work on the store raise failures without one.

An induction over `Composed` has one case for each part, so a property of all runs is proved by
looking at the parts alone. The bound `R` is what a measure of nesting decreases along, and what
tells which scopes stay as they are.
-/

namespace SnippetGrader

open Source

namespace Run

/-- Runs `body` and, if it stops, undoes something before it goes on stopping. -/
def undoing {α β : Type} (body : Run α) (undo : Run β) : Run α :=
  tryCatch body fun stop => do
    let _ ← undo
    throw stop

/-- What a computation is followed by if it stops changes the store and nothing else. -/
theorem undoing_eq {α β : Type} (body : Run α) (b : Store → β) (g : Store → Store) (m : Machine) :
    undoing body (onStore fun s => (.ok (b s), g s)) m = match body m with
      | .ok a m' => .ok a m'
      | .error stop m' => .error stop { m' with store := g m'.store } := by
  change EStateM.tryCatch body _ m = _
  unfold EStateM.tryCatch
  cases body m <;> rfl

end Run

/-- What a computation can see of the machine apart from the store: whether there is a console, the
line of the last statement, the failures that are being handled and the limit of loops. -/
structure Context where
  attached : Bool
  lineNumber : Nat
  handling : List Failure
  maxLoop : Int

def Machine.context (m : Machine) : Context :=
  ⟨m.attached, m.lineNumber, m.handling, m.limits.maxLoop⟩

namespace Run

def context : Run Context := return (← get).context

theorem context_bind {α : Type} (k : Context → Run α) (m : Machine) :
    (context >>= k) m = k m.context m := rfl

/-- Looks at the part of the context that has nothing to do with line numbers: whether there is a
console, and the limit of loops. -/
def setting : Run (Bool × Int) := context >>= fun c => pure (c.attached, c.maxLoop)

/-- Raises the failure that is being handled, or a new one if there is none. -/
def raiseAgain {α : Type} : Run α :=
  context >>= fun c => fail (c.handling.head?.getD
    { kind := "RuntimeError", message := "No active exception to reraise" })

end Run

def Statement.Compound.bodies (c : Statement.Compound) : List (List Line) :=
  c.lines :: c.clauses.map (·.lines)

/-- What may be asked of an engine: the texts that may be evaluated, the arguments with which a
value may be called and the blocks that may be executed; the scopes in which names may be bound;
the numbers of the lines that may be executed or put into functions; and whether warnings may be
given. -/
structure Reach where
  texts : List Char → Prop
  calls : List Value → Keywords → Prop
  blocks : List Line → Prop
  scopes : Nat → Prop
  numbers : Nat → Prop
  warns : Prop

/-- A block may be executed, and so may each of its lines. -/
structure Reach.Runs (R : Reach) (lines : List Line) : Prop where
  block : R.blocks lines
  numbers : ∀ l ∈ lines, R.numbers l.number

/-- Names may also be bound in a further scope. -/
def Reach.adding (R : Reach) (scope : Nat) : Reach :=
  { R with scopes := fun ref => ref = scope ∨ R.scopes ref }

theorem Reach.adding_scope (R : Reach) (scope : Nat) : (R.adding scope).scopes scope := .inl rfl

def Statement.callStored (e : Engine) (ref : Nat) (args : List Value) (keywords : Keywords) :
    Run Value := do
  match (← Run.store).functions[ref]? with
  | some f => callFunction e f args keywords
  | none => return .none

theorem Statement.callStored_eq (e : Engine) (ref : Nat) (args : List Value)
    (keywords : Keywords) : callStored e ref args keywords = Run.store >>= fun s =>
      s.functions[ref]?.elim (return .none) fun f => callFunction e f args keywords := by
  refine congrArg (Run.store >>= ·) (funext fun s => ?_)
  cases s.functions[ref]? <;> rfl

/-- A computation above an engine is put together from the parts of the interpreter, asks the
engine only for what `R` allows and binds names only where `R` allows it. Evaluating a text and
calling a value bind no name in a scope that exists, so they need no leave to do so. -/
inductive Composed : Reach → {α : Type} → (Engine → Run α) → Prop
  /-- Neither scopes nor the bodies of functions are among the things that matter. -/
  | stored {R : Reach} {α : Type} (g : Store → Except Stop α × Store) (h : Plain g) :
      Composed R fun _ => Run.onStore g
  /-- The body of a new function has lines that may be executed, or the line of the statement that
  makes it, on whose number nothing else depends. The latter is all that a lambda has. -/
  | define {R : Reach} (f : Nat → Function)
      (h : ∀ n, ∀ l ∈ (f n).body, R.numbers l.number ∨ l.number = n)
      (hsame : ∀ n n', (f n).unnumbered = (f n').unnumbered)
      (hlambda : ∀ n, (f n).name = "<lambda>" → ∃ l, (f n).body = [l] ∧ l.number = n) :
      Composed R fun _ => Run.context >>= fun c => Expression.newFunction (f c.lineNumber)
  | raiseAgain {R : Reach} {α : Type} : Composed (α := α) R fun _ => Run.raiseAgain
  | setting {R : Reach} : Composed R fun _ => Run.setting
  | newScope {R : Reach} (names : Scope) : Composed R fun _ => Run.newScope names
  /-- What follows may bind names in the scope that is made for it. -/
  | inside {R : Reach} {α : Type} (names : Scope) {f : Nat → Engine → Run α}
      (hf : ∀ scope, Composed (R.adding scope) (f scope)) :
      Composed R fun e => Run.newScope names >>= fun scope => f scope e
  | bindName {R : Reach} (ref : Nat) (h : R.scopes ref) (name : String) (v : Value) :
      Composed R fun _ => Run.bindName ref name v
  | write {R : Reach} (text : String) : Composed R fun _ => Run.write text
  | readInput {R : Reach} : Composed R fun _ => Run.readInput
  | warn {R : Reach} (text : String) (h : R.warns) : Composed R fun _ => Statement.warn text
  | eval {R : Reach} (scope : Nat) (text : List Char) (h : R.texts text) :
      Composed R fun e => e.eval scope text
  | apply {R : Reach} (v : Value) (args : List Value) (keywords : Keywords)
      (h : R.calls args keywords) : Composed R fun e => e.apply v args keywords
  | block {R : Reach} (scope : Nat) (hscope : R.scopes scope) (lines : List Line)
      (h : R.Runs lines) : Composed R fun e => e.block scope lines
  /-- The body of a function is executed whatever `R` allows; calls have a limit of their own. -/
  | call {R : Reach} (ref : Nat) (args : List Value) (keywords : Keywords) :
      Composed R fun e => Statement.callStored e ref args keywords
  | bind {R : Reach} {α β : Type} {x : Engine → Run α} {f : α → Engine → Run β}
      (hx : Composed R x) (hf : ∀ a, Composed R (f a)) :
      Composed R fun e => x e >>= fun a => f a e
  | guardCall {R : Reach} {α : Type} {x : Engine → Run α} (hx : Composed R x) :
      Composed R fun e => Run.guardCall (x e)
  | undoing {R : Reach} {α β : Type} {x : Engine → Run α} (hx : Composed R x) (b : Store → β)
      (g : Store → Store) (h : Quiet fun s => (b s, g s))
      (hkept : ∀ s, (g s).functions = s.functions) :
      Composed R fun e => Run.undoing (x e) (Run.onStore fun s => (.ok (b s), g s))
  | line {R : Reach} (scope : Nat) (line : Line) (rest : List Line)
      (hnumber : R.numbers line.number)
      (h : Composed R fun e => Statement.executeKind e scope line rest (classify line.text)) :
      Composed R fun e => Statement.executeLine e scope line rest
  | guarded {R : Reach} (scope : Nat) (hscope : R.scopes scope) (c : Statement.Compound)
      (h : ∀ lines ∈ c.bodies, R.Runs lines) :
      Composed R fun e => Statement.executeGuarded e scope c

namespace Composed

variable {R : Reach} {α β γ : Type}

/-! ## Computations on the store alone -/

/-- Work on the store that has nothing to do with functions. -/
theorem apart (g : Store → Except Stop α × Store)
    (h : ∀ s, (g s).2.scopes = s.scopes ∧ (g s).2.functions = s.functions ∧
      g s.bodiless = ((g s).1, (g s).2.bodiless))
    (hg : ∀ s, UnplacedStop (g s).1) : Composed R fun _ => Run.onStore g :=
  .stored g (.of_apart h hg)

theorem reading (f : Store → Except Stop α) (h : ∀ s, f s.bodiless = f s)
    (hf : ∀ s, UnplacedStop (f s)) : Composed R fun _ => Run.onStore fun s => (f s, s) :=
  .apart _ (fun s => ⟨rfl, rfl, by dsimp only; rw [h]⟩) hf

/-- What follows a look at the store is the same without the bodies of functions. -/
theorem looking {f : Store → Engine → Run α} (hf : ∀ s, f s.bodiless = f s)
    (h : ∀ s, Composed R (f s)) : Composed R fun e => Run.store >>= fun s => f s e := by
  have hlook : (fun e => Run.store >>= fun s => f s e) =
      fun e => (Run.onStore fun s => (.ok s.bodiless, s)) >>= fun s => f s e := by
    funext e m
    change f m.store e m = f m.store.bodiless e m
    rw [hf]
  rw [hlook]
  exact .bind (reading _ (fun s => by rw [s.bodiless_bodiless]) fun _ => trivial) h

theorem pure (a : α) : Composed R fun _ => Pure.pure a :=
  reading (fun _ => .ok a) (fun _ => rfl) fun _ => trivial

theorem throw (stop : Stop) (h : stop.Unplaced) :
    Composed R (α := α) fun _ => MonadExcept.throw stop :=
  reading (fun _ => .error stop) (fun _ => rfl) fun _ => h

theorem fail (f : Failure) (h : f.Unplaced) :
    Composed R (α := α) fun _ => Run.fail f :=
  throw (.failed f) h

theorem ofExcept (r : Except Failure α) (h : Unplaced r) :
    Composed R fun _ => Run.ofExcept r := by
  cases r with
  | ok a => exact pure a
  | error f => exact fail f h

/-- What follows a result, if there is one. -/
theorem bindExcept {r : Except Failure β} {f : β → Engine → Run α} (h : Unplaced r)
    (hf : ∀ b, Composed R (f b)) : Composed R fun e => Run.ofExcept r >>= fun b => f b e :=
  .bind (ofExcept r h) hf

theorem ofStop (r : Except Stop α) (h : UnplacedStop r) :
    Composed R fun _ => Run.ofStop r := by
  cases r with
  | ok a => exact pure a
  | error stop => exact throw stop h

theorem modifyStore (f : Store → Store) (h : ∀ s, (f s).scopes = s.scopes ∧
    (f s).functions = s.functions ∧ f s.bodiless = (f s).bodiless) :
    Composed R fun _ => Run.modifyStore f :=
  apart (fun s => (.ok (), f s))
    (fun s => ⟨(h s).1, (h s).2.1, by dsimp only; rw [(h s).2.2]⟩) fun _ => trivial

theorem items (ref : Nat) : Composed R fun _ => Run.items ref :=
  reading (fun s => .ok (s.items ref)) (fun _ => rfl) fun _ => trivial

theorem newList (xs : Array Value) : Composed R fun _ => Run.newList xs :=
  apart (fun s => (.ok (Value.list s.lists.size), { s with lists := s.lists.push xs }))
    (fun _ => ⟨rfl, rfl, rfl⟩) fun _ => trivial

theorem setItems (ref : Nat) (xs : Array Value) : Composed R fun _ => Run.setItems ref xs :=
  modifyStore _ fun _ => ⟨rfl, rfl, rfl⟩

theorem growList (ref : Nat) (f : Array Value → Array Value) :
    Composed R fun _ => Run.growList ref f :=
  modifyStore _ fun _ => ⟨rfl, rfl, rfl⟩

theorem beginSort (ref : Nat) : Composed R fun _ => Run.beginSort ref :=
  .bind (setItems ref #[]) fun _ => modifyStore _ fun _ => ⟨rfl, rfl, rfl⟩

theorem setField (ref : Nat) (name : String) (v : Value) :
    Composed R fun _ => Run.setField ref name v :=
  modifyStore _ fun _ => ⟨rfl, rfl, rfl⟩

theorem newLock : Composed R fun _ => Run.newLock :=
  apart (fun s => (.ok (Value.lock s.locks), { s with locks := s.locks + 1 }))
    (fun _ => ⟨rfl, rfl, rfl⟩) fun _ => trivial

theorem newException (kind message : String) : Composed R fun _ => Run.newException kind message :=
  apart (fun s => (.ok (Value.exception s.exceptions kind message),
    { s with exceptions := s.exceptions + 1 })) (fun _ => ⟨rfl, rfl, rfl⟩) fun _ => trivial

theorem newNan : Composed R fun _ => Run.newNan :=
  apart (fun s => (.ok (Value.nan s.nans), { s with nans := s.nans + 1 }))
    (fun _ => ⟨rfl, rfl, rfl⟩) fun _ => trivial

theorem newTemplate (t : Template) : Composed R fun _ => Statement.newTemplate t :=
  apart (fun s => (.ok (Value.template s.templates.size),
    { s with templates := s.templates.push t })) (fun _ => ⟨rfl, rfl, rfl⟩) fun _ => trivial

theorem instantiate (ref : Nat) (t : Template) (args : List Value) :
    Composed R fun _ => Statement.instantiate ref t args :=
  apart (fun s => (.ok (Value.object s.objects.size), { s with
    objects := s.objects.push ⟨ref, [(t.field, args.head?.getD t.default)]⟩ }))
    (fun _ => ⟨rfl, rfl, rfl⟩) fun _ => trivial

theorem scope (ref : Nat) : Composed R fun _ => Run.scope ref :=
  reading (fun s => .ok (s.scope ref)) (fun _ => rfl) fun _ => trivial

theorem lookup? (ref : Nat) (name : String) : Composed R fun _ => Run.lookup? ref name :=
  reading (fun s => .ok ((s.scope ref).get? name)) (fun _ => rfl) fun _ => trivial

theorem typeName (v : Value) : Composed R fun _ => Run.typeName v :=
  reading (fun s => .ok (v.typeName s)) (fun s => by rw [v.typeName_bodiless]) fun _ => trivial

theorem truthy (v : Value) : Composed R fun _ => Run.truthy v :=
  reading (fun s => .ok (v.truthy s)) (fun s => by rw [v.truthy_bodiless]) fun _ => trivial

theorem display (v : Value) : Composed R fun _ => Run.display v :=
  .looking (fun s => by simp only [Value.displayText_bodiless]) fun s =>
    ofStop _ (Value.displayText_unplaced s v)

theorem repr (v : Value) : Composed R fun _ => Run.repr v :=
  .looking (fun s => by simp only [Value.reprText_bodiless]) fun s =>
    ofStop _ (Value.reprText_unplaced s v)

theorem fresh (v : Value) : Composed R fun _ => Run.fresh v := by
  unfold Run.fresh
  cases v with
  | float x =>
    by_cases hx : x.isNaN
    · simp only [hx, if_true]
      exact newNan
    · simp only [hx]
      exact pure (Value.float x)
  | _ => exact pure _

theorem lookAtClock : Composed R fun _ => Run.lookAtClock :=
  .bind (apart (fun s => (.ok (s.host.clock.reading s.looks), { s with looks := s.looks + 1 }))
    (fun _ => ⟨rfl, rfl, rfl⟩) fun _ => trivial) fun reading => fresh (.float reading)

theorem computed (r : Except Failure Value) (h : Unplaced r) :
    Composed R fun _ => Run.computed r :=
  bindExcept h fun v => fresh v

/-! ## Going on -/

theorem map {x : Engine → Run α} (f : α → β) (hx : Composed R x) :
    Composed R fun e => f <$> x e := by
  have h : (fun e => f <$> x e) = fun e => x e >>= fun a => Pure.pure (f a) := by
    funext e
    exact map_eq_pure_bind f (x e)
  rw [h]
  exact .bind hx fun a => pure (f a)

theorem ite {c : Prop} [Decidable c] {x y : Engine → Run α} (hx : c → Composed R x)
    (hy : ¬ c → Composed R y) : Composed R fun e => if c then x e else y e := by
  by_cases h : c
  · simpa [h] using hx h
  · simpa [h] using hy h

/-- A check that ends the computation if it fails. -/
theorem checked {c : Prop} [Decidable c] {x : Engine → Run Unit} {k : Unit → Engine → Run α}
    (hx : Composed R x) (hk : ∀ r, Composed R (k r)) :
    Composed R fun e => if c then x e >>= fun r => k r e else k () e :=
  ite (fun _ => .bind hx hk) fun _ => hk ()

theorem mapM {f : γ → Engine → Run β} (cs : List γ) (hf : ∀ c ∈ cs, Composed R (f c)) :
    Composed R fun e => cs.mapM fun c => f c e := by
  induction cs with
  | nil => simpa using pure ([] : List β)
  | cons c cs ih =>
    have hcs := ih fun d hd => hf d (List.mem_cons_of_mem c hd)
    simpa using bind (hf c List.mem_cons_self) fun b => bind hcs fun bs => pure (b :: bs)

theorem forM {f : γ → Engine → Run Unit} (cs : List γ) (hf : ∀ c ∈ cs, Composed R (f c)) :
    Composed R fun e => cs.forM fun c => f c e := by
  induction cs with
  | nil => exact pure ()
  | cons c cs ih =>
    exact bind (hf c List.mem_cons_self) fun _ => ih fun d hd => hf d (List.mem_cons_of_mem c hd)

theorem foldlM {f : β → γ → Engine → Run β} (hf : ∀ b c, Composed R (f b c)) (cs : List γ)
    (b : β) : Composed R fun e => cs.foldlM (fun b c => f b c e) b := by
  induction cs generalizing b with
  | nil => simpa using pure b
  | cons c cs ih => simpa using bind (hf b c) fun b' => ih b'

theorem filterAuxM {f : γ → Engine → Run Bool} (hf : ∀ c, Composed R (f c)) (cs kept : List γ) :
    Composed R fun e => cs.filterAuxM (fun c => f c e) kept := by
  induction cs generalizing kept with
  | nil => simpa [List.filterAuxM] using pure kept
  | cons c cs ih => simpa [List.filterAuxM] using bind (hf c) fun b => ih (cond b (c :: kept) kept)

theorem filterM {f : γ → Engine → Run Bool} (hf : ∀ c, Composed R (f c)) (cs : List γ) :
    Composed R fun e => cs.filterM fun c => f c e := by
  have h : (fun e => cs.filterM fun c => f c e) =
      fun e => cs.filterAuxM (fun c => f c e) [] >>= fun kept => Pure.pure kept.reverse := rfl
  rw [h]
  exact .bind (filterAuxM hf cs []) fun kept => pure kept.reverse

end Composed

end SnippetGrader
