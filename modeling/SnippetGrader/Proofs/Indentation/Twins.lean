import SnippetGrader.Proofs.Composition.Statement
import SnippetGrader.Proofs.Indentation.Lines

/-!
# Runs that differ in indentation and in line numbers

The only trace that indentation leaves on a machine are the bodies of functions. Line numbers leave
traces in the failures that are handled, too, and the machine keeps the number of its last line. Two
machines are alike if they are the same apart from these traces: the bodies say the same and are
indented in the same order, and if line numbers count (`View.placed`), these are the same. Two
computations are twins if on machines that are alike they have the same result or stop for the same
reason, and leave machines that are alike.
-/

namespace SnippetGrader

/-- A machine without the bodies of functions, without the number of its last line and without the
failures that are handled. -/
def Machine.bare (m : Machine) : Machine := { m.bodiless with lineNumber := 0, handling := [] }

end SnippetGrader

namespace SnippetGrader.Indentation

open Source Statement

/-- What of lines is told apart: whether their numbers count, and which texts stand for each other
where a failure happened. -/
structure View where
  placed : Prop
  texts : String → String → Prop

/-- Everything but indentation is told apart. -/
def View.strict : View := ⟨True, fun _ _ => False⟩

variable {placed : Prop} {view : View}

/-! ## Machines -/

/-- Two functions that are the same apart from the indentation of their bodies, and apart from line
numbers if these do not count. -/
structure FunctionAlike (placed : Prop) (f f' : Function) : Prop where
  rest : f.bodiless = f'.bodiless
  body : SameOrder placed f.body f'.body

theorem FunctionAlike.refl (f : Function) : FunctionAlike placed f f := ⟨rfl, .refl f.body⟩

theorem FunctionAlike.of_unnumbered {f f' : Function} (h : f.unnumbered = f'.unnumbered)
    (hplaced : placed → f = f') : FunctionAlike placed f f' where
  rest := by
    have hsame : f.unnumbered.bodiless = f'.unnumbered.bodiless := by rw [h]
    exact hsame
  body := sameOrder_unnumbered (congrArg Function.body h) fun hp =>
    congrArg Function.body (hplaced hp)

/-- Two failures of the same kind with the same message, on lines whose texts are the same or stand
for each other. If line numbers count, they are the same. -/
structure FailureAlike (view : View) (f f' : Failure) : Prop where
  kind : f.kind = f'.kind
  message : f.message = f'.message
  located : f.line.isSome = f'.line.isSome
  text : Option.Rel (fun t t' => t = t' ∨ view.texts t t') f.text f'.text
  same : view.placed → f = f'

namespace FailureAlike

theorem refl (f : Failure) : FailureAlike view f f := by
  refine ⟨rfl, rfl, rfl, ?_, fun _ => rfl⟩
  cases f.text with
  | none => exact .none
  | some t => exact .some (.inl rfl)

theorem locate {f f' : Failure} (h : FailureAlike view f f') {n n' : Nat} {t t' : String}
    (hplaced : view.placed → n = n' ∧ t = t') (htext : t = t' ∨ view.texts t t') :
    FailureAlike view (f.locate n t) (f'.locate n' t') := by
  have hlocated := h.located
  unfold Failure.locate
  -- a failure that has a line already keeps it
  by_cases hline : f'.line.isSome
  · rw [hline] at hlocated
    rw [if_pos hlocated, if_pos hline]
    exact h
  · rw [Bool.not_eq_true] at hline
    rw [hline] at hlocated
    simp only [hlocated, hline, Bool.false_eq_true, if_false]
    refine ⟨h.kind, h.message, rfl, .some htext, fun hp => ?_⟩
    rw [h.same hp, (hplaced hp).1, (hplaced hp).2]

end FailureAlike

/-- Two machines that are the same apart from the traces of indentations, and of line numbers if
these do not count. -/
structure MachineAlike (view : View) (m m' : Machine) : Prop where
  rest : m.bare = m'.bare
  lineNumber : view.placed → m.lineNumber = m'.lineNumber
  handling : List.Forall₂ (FailureAlike view) m.handling m'.handling
  functions : List.Forall₂ (FunctionAlike view.placed) m.store.functions.toList
    m'.store.functions.toList

theorem rel_getElem? {α β : Type} {R : α → β → Prop} {as : List α} {bs : List β}
    (h : List.Forall₂ R as bs) (i : Nat) : Option.Rel R as[i]? bs[i]? := by
  induction h generalizing i with
  | nil => exact .none
  | cons hab _ ih =>
    cases i with
    | zero => exact .some hab
    | succ i => exact ih i

namespace MachineAlike

variable {m m' : Machine}

theorem refl (m : Machine) : MachineAlike view m m :=
  ⟨rfl, fun _ => rfl, List.forall₂_same.2 fun _ _ => .refl _, List.forall₂_same.2 fun _ _ => .refl _⟩

/-- What can be read off a bare machine is the same. -/
theorem read (h : MachineAlike view m m') {β : Type} (F : Machine → β)
    (hF : ∀ m, F m.bare = F m) : F m = F m' := by
  have hrest := congrArg F h.rest
  rwa [hF, hF] at hrest

/-- A change that has nothing to do with functions, line numbers and failures. -/
structure Apart (G : Machine → Machine) : Prop where
  bare : ∀ m, (G m).bare = G m.bare
  lineNumber : ∀ m, (G m).lineNumber = m.lineNumber
  handling : ∀ m, (G m).handling = m.handling
  functions : ∀ m, (G m).store.functions = m.store.functions

theorem change (h : MachineAlike view m m') {G : Machine → Machine} (hG : Apart G) :
    MachineAlike view (G m) (G m') where
  rest := by rw [hG.bare, hG.bare, h.rest]
  lineNumber hp := by rw [hG.lineNumber, hG.lineNumber, h.lineNumber hp]
  handling := by
    rw [hG.handling, hG.handling]
    exact h.handling
  functions := by
    rw [hG.functions, hG.functions]
    exact h.functions

theorem rel_function? (h : MachineAlike view m m') (ref : Nat) :
    Option.Rel (FunctionAlike view.placed) m.store.functions[ref]? m'.store.functions[ref]? := by
  have hrel := rel_getElem? h.functions ref
  rwa [Array.getElem?_toList, Array.getElem?_toList] at hrel

theorem charged (h : MachineAlike view m m') {l l' : Line}
    (hnumber : view.placed → l.number = l'.number) :
    MachineAlike view (m.charged l) (m'.charged l') where
  rest := congrArg (fun m : Machine => { m with steps := m.steps + 1 }) h.rest
  lineNumber := hnumber
  handling := h.handling
  functions := h.functions

theorem catching (h : MachineAlike view m m') {f f' : Failure} (hf : FailureAlike view f f')
    (scope : Nat) (head : List Char) :
    MachineAlike view (Statement.catching m scope head f) (Statement.catching m' scope head f') where
  rest := by
    have hcatching (m : Machine) (f : Failure) : (Statement.catching m scope head f).bare =
        { Statement.catching m.bare scope head f with handling := [] } := by
      unfold Statement.catching
      dsimp only
      split <;> rfl
    have hsame : Statement.catching m'.bare scope head f =
        { Statement.catching m'.bare scope head f' with handling := f :: m'.bare.handling } := by
      unfold Statement.catching
      rw [hf.kind, hf.message]
    rw [hcatching, hcatching, h.rest, hsame]
  lineNumber := h.lineNumber
  handling := .cons hf h.handling
  functions := by
    have hkept (m : Machine) (f : Failure) :
        (Statement.catching m scope head f).store.functions = m.store.functions := by
      unfold Statement.catching
      dsimp only
      split <;> rfl
    rw [hkept, hkept]
    exact h.functions

theorem released (h : MachineAlike view m m') :
    MachineAlike view (Statement.released m) (Statement.released m') where
  rest := h.rest
  lineNumber := h.lineNumber
  handling := by
    have hhandling := h.handling
    change List.Forall₂ _ m.handling.tail m'.handling.tail
    generalize m.handling = fs at hhandling ⊢
    generalize m'.handling = fs' at hhandling ⊢
    cases hhandling with
    | nil => exact .nil
    | cons _ hrest => exact hrest
  functions := h.functions

end MachineAlike

/-! ## Computations -/

/-- The same reason to stop. -/
inductive StopAlike (view : View) : Stop → Stop → Prop
  | failed {f f' : Failure} (h : FailureAlike view f f') : StopAlike view (.failed f) (.failed f')
  | exhausted (n : Nesting) : StopAlike view (.exhausted n) (.exhausted n)

theorem StopAlike.refl (stop : Stop) : StopAlike view stop stop := by
  cases stop with
  | failed f => exact .failed (.refl f)
  | exhausted n => exact .exhausted n

/-- The same result or reason to stop, on machines that are alike. -/
inductive OutcomeAlike (view : View) {α : Type} : Outcome α → Outcome α → Prop
  | ok (a : α) {m m' : Machine} (h : MachineAlike view m m') :
    OutcomeAlike view (.ok a m) (.ok a m')
  | error {stop stop' : Stop} (hstop : StopAlike view stop stop') {m m' : Machine}
    (h : MachineAlike view m m') : OutcomeAlike view (.error stop m) (.error stop' m')

theorem MachineAlike.bodiless_eq {m m' : Machine} (h : MachineAlike view m m') (hp : view.placed) :
    m.bodiless = m'.bodiless := by
  have hhandling : m.handling = m'.handling :=
    List.forall₂_eq_eq_eq ▸ h.handling.imp fun f f' hf => hf.same hp
  calc m.bodiless
      = { m.bare with lineNumber := m.lineNumber, handling := m.handling } := rfl
    _ = { m'.bare with lineNumber := m'.lineNumber, handling := m'.handling } := by
      rw [h.rest, h.lineNumber hp, hhandling]
    _ = m'.bodiless := rfl

/-- If line numbers count, the same outcomes differ in the bodies of functions alone. -/
theorem OutcomeAlike.onMachine_bodiless {α : Type} {r r' : Outcome α} (h : OutcomeAlike view r r')
    (hp : view.placed) : r.onMachine Machine.bodiless = r'.onMachine Machine.bodiless := by
  cases h with
  | ok a h => exact congrArg (EStateM.Result.ok a) (h.bodiless_eq hp)
  | error hstop h =>
    cases hstop with
    | failed hf =>
      rw [hf.same hp]
      exact congrArg (EStateM.Result.error _) (h.bodiless_eq hp)
    | exhausted n => exact congrArg (EStateM.Result.error _) (h.bodiless_eq hp)

/-- Two computations do the same on machines that are alike. -/
def Twins (view : View) {α : Type} (x y : Run α) : Prop :=
  ∀ m m' : Machine, MachineAlike view m m' → OutcomeAlike view (x m) (y m')

namespace Twins

variable {α β : Type} {x y : Run α}

theorem pure (a : α) : Twins view (Pure.pure a) (Pure.pure a) := fun _ _ h => .ok a h

theorem fail {f f' : Failure} (hf : FailureAlike view f f') :
    Twins view (Run.fail f : Run α) (Run.fail f') := fun _ _ h => .error (.failed hf) h

theorem rescue {k k' : α → Run β} {g g' : Failure → Run β} (hx : Twins view x y)
    (hk : ∀ a, Twins view (k a) (k' a))
    (hg : ∀ f f', FailureAlike view f f' → Twins view (g f) (g' f')) :
    Twins view (Run.rescue x k g) (Run.rescue y k' g') := by
  intro m m' h
  have hm := hx m m' h
  unfold Run.rescue
  generalize x m = r at hm ⊢
  generalize y m' = r' at hm ⊢
  cases hm with
  | ok a hm => exact hk a _ _ hm
  | error hstop hm =>
    cases hstop with
    | failed hf => exact hg _ _ hf _ _ hm
    | exhausted n => exact .error (.exhausted n) hm

theorem bind {f g : α → Run β} (hx : Twins view x y) (hf : ∀ a, Twins view (f a) (g a)) :
    Twins view (x >>= f) (y >>= g) := by
  rw [Run.bind_eq_rescue, Run.bind_eq_rescue]
  exact hx.rescue hf fun _ _ => fail

theorem map (f : α → β) (hx : Twins view x y) : Twins view (f <$> x) (f <$> y) := by
  rw [map_eq_pure_bind, map_eq_pure_bind]
  exact hx.bind fun a => pure (f a)

theorem guardCall (hx : Twins view x y) : Twins view (Run.guardCall x) (Run.guardCall y) := by
  intro m m' h
  have hm := hx m m' h
  rw [Run.guardCall_eq, Run.guardCall_eq]
  generalize x m = r at hm ⊢
  generalize y m' = r' at hm ⊢
  cases hm with
  | ok a hm => exact .ok a hm
  | error hstop hm =>
    cases hstop with
    | failed hf => exact .error (.failed hf) hm
    | exhausted n => exact .error (.failed (.refl n.failure)) hm

theorem onFailure {g g' : Failure → Failure}
    (hg : ∀ f f', FailureAlike view f f' → FailureAlike view (g f) (g' f')) {r r' : Outcome α}
    (h : OutcomeAlike view r r') : OutcomeAlike view (r.onFailure g) (r'.onFailure g') := by
  cases h with
  | ok a h => exact .ok a h
  | error hstop h =>
    cases hstop with
    | failed hf => exact .error (.failed (hg _ _ hf)) h
    | exhausted n => exact .error (.exhausted n) h

/-- A computation on machines that are prepared and changed back alike. -/
theorem between (hx : Twins view x y) {g g' k k' : Machine → Machine}
    (hg : ∀ m m', MachineAlike view m m' → MachineAlike view (g m) (g' m'))
    (hk : ∀ m m', MachineAlike view m m' → MachineAlike view (k m) (k' m')) :
    Twins view (Run.between g x k) (Run.between g' y k') := by
  intro m m' h
  have hm := hx _ _ (hg m m' h)
  unfold Run.between Outcome.onMachine
  generalize x (g m) = r at hm ⊢
  generalize y (g' m') = r' at hm ⊢
  cases hm with
  | ok a hm => exact .ok a (hk _ _ hm)
  | error hstop hm => exact .error hstop (hk _ _ hm)

/-- A reading that fails alike or goes on alike. -/
theorem ofBoth {γ δ : Type} {R : γ → δ → Prop} {r : Except Failure γ} {r' : Except Failure δ}
    (hr : Both R r r') {k : γ → Run α} {k' : δ → Run α}
    (hk : ∀ c c', R c c' → Twins view (k c) (k' c')) :
    Twins view (Run.ofExcept r >>= k) (Run.ofExcept r' >>= k') := by
  cases hr with
  | ok hc => exact hk _ _ hc
  | error f => exact .fail (.refl f)

/-! ## The parts of computations -/

/-- Work on the store that does not look at bodies. -/
theorem afterStore {g : Store → α × Store} (hg : Quiet g) {m m' : Machine}
    (h : MachineAlike view m m') :
    (g m.store).1 = (g m'.store).1 ∧
      MachineAlike view { m with store := (g m.store).2 } { m' with store := (g m'.store).2 } := by
  have hstore : m.store.bodiless = m'.store.bodiless := congrArg Machine.store h.rest
  obtain ⟨added, hadded⟩ := hg.functions
  refine ⟨?_, ?_, h.lineNumber, h.handling, ?_⟩
  · rw [← hg.result m.store, hstore, hg.result m'.store]
  · have hrest : (g m.store).2.bodiless = (g m'.store).2.bodiless := by
      rw [← hg.rest m.store, hstore, hg.rest m'.store]
    have hmachine : { m.bare with store := (g m.store).2.bodiless } =
        { m'.bare with store := (g m.store).2.bodiless } :=
      congrArg (fun q : Machine => { q with store := (g m.store).2.bodiless }) h.rest
    calc { m.bare with store := (g m.store).2.bodiless }
        = { m'.bare with store := (g m.store).2.bodiless } := hmachine
      _ = { m'.bare with store := (g m'.store).2.bodiless } := by rw [hrest]
  · dsimp only
    rw [hadded, hadded, Array.toList_append, Array.toList_append]
    exact List.rel_append h.functions (List.forall₂_same.2 fun _ _ => .refl _)

theorem onStore {g : Store → Except Stop α × Store} (hg : Quiet g) :
    Twins view (Run.onStore g) (Run.onStore g) := by
  intro m m' h
  obtain ⟨hresult, hafter⟩ := afterStore hg h
  unfold Run.onStore
  generalize g m.store = r at hresult hafter ⊢
  generalize g m'.store = r' at hresult hafter ⊢
  obtain ⟨a, s⟩ := r
  obtain ⟨a', s'⟩ := r'
  obtain rfl : a = a' := hresult
  cases a with
  | ok a => exact .ok a hafter
  | error stop => exact .error (.refl stop) hafter

theorem undoing {b : Store → β} {g : Store → Store} (hx : Twins view x y)
    (hg : Quiet fun s => (b s, g s)) :
    Twins view (Run.undoing x (Run.onStore fun s => (.ok (b s), g s)))
      (Run.undoing y (Run.onStore fun s => (.ok (b s), g s))) := by
  intro m m' h
  have hm := hx m m' h
  rw [Run.undoing_eq, Run.undoing_eq]
  generalize x m = r at hm ⊢
  generalize y m' = r' at hm ⊢
  cases hm with
  | ok a hm => exact .ok a hm
  | error hstop hm => exact .error hstop (afterStore hg hm).2

theorem setting : Twins view Run.setting Run.setting := by
  intro m m' h
  have hsame : (m.attached, m.limits.maxLoop) = (m'.attached, m'.limits.maxLoop) :=
    h.read (fun m => (m.attached, m.limits.maxLoop)) fun _ => rfl
  have hrun (m : Machine) : Run.setting m = .ok (m.attached, m.limits.maxLoop) m := rfl
  rw [hrun, hrun, hsame]
  exact .ok _ h

/-- The failures that are handled are alike, so the innermost ones are. -/
theorem raiseAgain : Twins view (Run.raiseAgain : Run α) Run.raiseAgain := by
  intro m m' h
  refine .error (.failed ?_) h
  have hhandling := h.handling
  change FailureAlike view (m.handling.head?.getD _) (m'.handling.head?.getD _)
  generalize m.handling = fs at hhandling ⊢
  generalize m'.handling = fs' at hhandling ⊢
  cases hhandling with
  | nil => exact .refl _
  | cons hf _ => exact hf

def withFunction (f : Function) (m : Machine) : Machine :=
  { m with store := { m.store with functions := m.store.functions.push f } }

theorem withFunction_bare (f : Function) (m : Machine) :
    (withFunction f m).bare = withFunction f.bodiless m.bare := by
  simp only [withFunction, Machine.bare, Machine.bodiless, Store.bodiless, Array.map_push]

theorem newFunction {f f' : Function} (hf : FunctionAlike view.placed f f') :
    Twins view (Expression.newFunction f) (Expression.newFunction f') := by
  intro m m' h
  have hsize : m.store.functions.size = m'.store.functions.size := h.functions.length_eq
  have hrun (f : Function) (m : Machine) : Expression.newFunction f m =
      .ok (.function m.store.functions.size) (withFunction f m) := rfl
  rw [hrun, hrun, hsize]
  refine .ok _ ⟨?_, h.lineNumber, h.handling, ?_⟩
  · rw [withFunction_bare, withFunction_bare, hf.rest, h.rest]
  · have hnew : List.Forall₂ (FunctionAlike view.placed) [f] [f'] := .cons hf .nil
    have hall := List.rel_append h.functions hnew
    simpa only [withFunction, Array.toList_push] using hall

/-- A function with the number of the last line in its body. -/
theorem define {f : Nat → Function} (hf : ∀ n n', (f n).unnumbered = (f n').unnumbered) :
    Twins view (Run.context >>= fun c => Expression.newFunction (f c.lineNumber))
      (Run.context >>= fun c => Expression.newFunction (f c.lineNumber)) := by
  intro m m' h
  rw [Run.context_bind, Run.context_bind]
  refine newFunction (.of_unnumbered (hf _ _) fun hp => ?_) m m' h
  have hnumber : m.context.lineNumber = m'.context.lineNumber := h.lineNumber hp
  rw [hnumber]

theorem newScope (names : Scope) : Twins view (Run.newScope names) (Run.newScope names) := by
  intro m m' h
  have hsize : m.store.scopes.size = m'.store.scopes.size :=
    h.read (fun m => m.store.scopes.size) fun _ => rfl
  have hrun (m : Machine) : Run.newScope names m = .ok m.store.scopes.size
      { m with store := { m.store with scopes := m.store.scopes.push names } } := rfl
  rw [hrun, hrun, hsize]
  refine .ok _ (h.change (G := fun m => { m with store := { m.store with
    scopes := m.store.scopes.push names } }) ?_)
  exact ⟨fun _ => rfl, fun _ => rfl, fun _ => rfl, fun _ => rfl⟩

theorem bindName (ref : Nat) (name : String) (v : Value) :
    Twins view (Run.bindName ref name v) (Run.bindName ref name v) := fun _ _ h =>
  .ok () (h.change (G := fun m => { m with store := { m.store with
    scopes := m.store.scopes.modify ref fun sc => sc.set name v } })
    ⟨fun _ => rfl, fun _ => rfl, fun _ => rfl, fun _ => rfl⟩)

theorem write (text : String) : Twins view (Run.write text) (Run.write text) := by
  intro m m' h
  have hwritten : (m.counted text).written = (m'.counted text).written :=
    h.read (fun m => (m.counted text).written) fun _ => rfl
  have hlimits : m.limits = m'.limits := h.read Machine.limits fun _ => rfl
  rw [Run.write_eq, Run.write_eq, hwritten, hlimits]
  split
  · exact .error (.refl _) (h.change (G := (·.counted text))
      ⟨fun _ => rfl, fun _ => rfl, fun _ => rfl, fun _ => rfl⟩)
  · refine .ok () (h.change (G := (·.printed text)) ?_)
    simp only [Machine.printed_eq]
    exact ⟨fun _ => rfl, fun _ => rfl, fun _ => rfl, fun _ => rfl⟩

theorem readInput : Twins view Run.readInput Run.readInput := by
  intro m m' h
  have hinputs : m.inputs = m'.inputs := h.read Machine.inputs fun _ => rfl
  rw [Run.readInput_eq, Run.readInput_eq, hinputs]
  cases m'.inputs with
  | nil => exact .error (.refl _) h
  | cons v rest =>
    exact .ok v (h.change (G := fun m => { m with inputs := rest })
      ⟨fun _ => rfl, fun _ => rfl, fun _ => rfl, fun _ => rfl⟩)

theorem warn (text : String) : Twins view (Statement.warn text) (Statement.warn text) := by
  intro m m' h
  rw [Run.warn_eq, Run.warn_eq]
  exact .ok () (h.change (G := (·.warned text))
    ⟨fun _ => rfl, fun _ => rfl, fun _ => rfl, fun _ => rfl⟩)

/-! ## Calls and statements -/

theorem callFunction {e : Engine} {f f' : Function} (hf : FunctionAlike view.placed f f')
    (hbody : ∀ scope, Twins view (e.block scope f.body) (e.block scope f'.body)) (args : List Value)
    (keywords : Keywords) :
    Twins view (Statement.callFunction e f args keywords)
      (Statement.callFunction e f' args keywords) := by
  intro m m' h
  have hdepth : m.callDepth = m'.callDepth := h.read Machine.callDepth fun _ => rfl
  have hlimits : m.limits = m'.limits := h.read Machine.limits fun _ => rfl
  have hsize : m.store.scopes.size = m'.store.scopes.size :=
    h.read (fun m => m.store.scopes.size) fun _ => rfl
  have hscope : m.store.scope f.scope = m'.store.scope f'.scope := by
    have hbodiless : f.bodiless.scope = f'.bodiless.scope := by rw [hf.rest]
    have hsame : f.scope = f'.scope := hbodiless
    rw [hsame]
    exact h.read (fun m => m.store.scope f'.scope) fun _ => rfl
  -- the functions differ in their bodies alone, so the names of the call are bound alike
  have hnames (outer : Scope) :
      callScope f outer args keywords = callScope f' outer args keywords := by
    rw [← callScope_bodiless f, hf.rest, callScope_bodiless f']
  rw [callFunction_eq, callFunction_eq, hdepth, hlimits, hscope, hnames, hsize]
  split
  · exact .error (.refl _) h
  · cases callScope f' (m'.store.scope f'.scope) args keywords with
    | error failure => exact .error (.refl _) h
    | ok names =>
      have hcall : Twins view
          (Run.between (·.entered names) (e.block m'.store.scopes.size f.body) Machine.left)
          (Run.between (·.entered names) (e.block m'.store.scopes.size f'.body) Machine.left) :=
        (hbody m'.store.scopes.size).between
          (fun _ _ h => h.change (G := (·.entered names))
            ⟨fun _ => rfl, fun _ => rfl, fun _ => rfl, fun _ => rfl⟩)
          fun _ _ h => h.change (G := Machine.left)
            ⟨fun _ => rfl, fun _ => rfl, fun _ => rfl, fun _ => rfl⟩
      exact hcall.bind (fun flow => pure (Flow.result flow)) m m' h

theorem callStored {e : Engine}
    (hblock : ∀ scope lines lines', SameOrder view.placed lines lines' →
      Twins view (e.block scope lines) (e.block scope lines'))
    (ref : Nat) (args : List Value) (keywords : Keywords) :
    Twins view (Statement.callStored e ref args keywords)
      (Statement.callStored e ref args keywords) := by
  intro m m' h
  have hfound := h.rel_function? ref
  have hrun (m : Machine) : Statement.callStored e ref args keywords m =
      m.store.functions[ref]?.elim (return .none)
        (fun f => Statement.callFunction e f args keywords) m := by
    rw [Statement.callStored_eq]
    rfl
  rw [hrun, hrun]
  generalize m.store.functions[ref]? = o at hfound ⊢
  generalize m'.store.functions[ref]? = o' at hfound ⊢
  cases hfound with
  | none => exact .ok _ h
  | some hf =>
    -- the lines of a stored body are executed only now, on an engine for which they say the same
    exact callFunction hf (fun scope => hblock scope _ _ hf.body) args keywords m m' h

/-- A line is charged and located wherever it stands, whatever becomes of its result. -/
theorem map_executeLine {e : Engine} {scope : Nat} (f g : Nat × Flow → α) {l l' : Line}
    {rest rest' : List Line} (hplaced : view.placed → l.number = l'.number ∧ l.text = l'.text)
    (htext : l.text = l'.text ∨ view.texts (String.ofList l.text) (String.ofList l'.text))
    (hkind : Twins view (f <$> executeKind e scope l rest (classify l.text))
      (g <$> executeKind e scope l' rest' (classify l'.text))) :
    Twins view (f <$> Statement.executeLine e scope l rest)
      (g <$> Statement.executeLine e scope l' rest') := by
  have hline (f : Nat × Flow → α) (l : Line) (rest : List Line) (m : Machine) :
      (f <$> Statement.executeLine e scope l rest) m =
        Outcome.onFailure (fun g => g.locate l.number (String.ofList l.text))
          ((m.charged l).refusal?.elim
            ((f <$> executeKind e scope l rest (classify l.text)) (m.charged l))
            fun g => .error (.failed g) (m.charged l)) := by
    rw [Run.map_eq, executeLine_eq, Outcome.map_onFailure, Run.map_eq]
    cases (m.charged l).refusal? with
    | some g => exact rfl
    | none => exact rfl
  intro m m' h
  have hcharged : MachineAlike view (m.charged l) (m'.charged l') :=
    h.charged fun hp => (hplaced hp).1
  have hrefusal : (m.charged l).refusal? = (m'.charged l').refusal? :=
    hcharged.read Machine.refusal? fun _ => rfl
  rw [hline, hline, hrefusal]
  refine onFailure (fun f f' hf => hf.locate (fun hp => ?_) ?_) ?_
  · rw [(hplaced hp).1, (hplaced hp).2]
    exact ⟨rfl, rfl⟩
  · exact htext.imp_left fun htext => by rw [htext]
  · cases (m'.charged l').refusal? with
    | some f => exact .error (.refl _) hcharged
    | none => exact hkind _ _ hcharged

theorem executeLine {e : Engine} {scope : Nat} {l l' : Line} {rest rest' : List Line}
    (hnumber : view.placed → l.number = l'.number) (htext : l.text = l'.text)
    (hkind : Twins view (executeKind e scope l rest (classify l.text))
      (executeKind e scope l' rest' (classify l'.text))) :
    Twins view (Statement.executeLine e scope l rest) (Statement.executeLine e scope l' rest') := by
  have hline := map_executeLine id id (fun hp => ⟨hnumber hp, htext⟩) (.inl htext) (hkind.map id)
  rwa [id_map, id_map] at hline

end Twins

/-! ## Engines -/

/-- An engine does not tell lines apart that say the same and are indented in the same order. -/
structure Even (view : View) (e : Engine) : Prop where
  eval : ∀ scope text, Twins view (e.eval scope text) (e.eval scope text)
  apply : ∀ v args keywords, Twins view (e.apply v args keywords) (e.apply v args keywords)
  block : ∀ scope lines lines', SameOrder view.placed lines lines' →
    Twins view (e.block scope lines) (e.block scope lines')

namespace Even

variable {e : Engine} (he : Even view e)
include he

theorem handle {cs cs' : List Clause} (h : List.Forall₂ (ClauseAlike view.placed) cs cs')
    (scope : Nat) {f f' : Failure} (hf : FailureAlike view f f') :
    Twins view (Statement.handle e scope cs f) (Statement.handle e scope cs' f') := by
  have hfound := rel_handlerOf? h hf.kind
  rw [handle_eq, handle_eq]
  generalize handlerOf? cs f = o at hfound ⊢
  generalize handlerOf? cs' f' = o' at hfound ⊢
  cases hfound with
  | none => exact .fail hf
  | some hc =>
    dsimp only
    rw [hc.head]
    exact (he.block scope _ _ hc.lines).between (fun m m' hm => hm.catching hf scope _)
      fun m m' hm => hm.released

theorem guarded {c c' : Compound} (h : CompoundAlike view.placed c c') (scope : Nat) :
    Twins view (Statement.guarded e scope c) (Statement.guarded e scope c') := by
  have hhandlers : List.Forall₂ (ClauseAlike view.placed) c.handlers c'.handlers :=
    forall₂_filter h.clauses "except"
  have hempty : c.handlers.isEmpty = c'.handlers.isEmpty := by
    have hlength := hhandlers.length_eq
    rw [Bool.eq_iff_iff, List.isEmpty_iff_length_eq_zero, List.isEmpty_iff_length_eq_zero, hlength]
  rw [guarded_eq, guarded_eq, hempty]
  refine (he.block scope _ _ h.lines).rescue (fun flow => ?_) fun f f' hf => ?_
  · have helse := rel_clause? h "else"
    generalize c.clause? "else" = o at helse ⊢
    generalize c'.clause? "else" = o' at helse ⊢
    cases helse with
    | none => exact .pure flow
    | some hlines =>
      dsimp only
      split
      · exact he.block scope _ _ hlines
      · exact .pure flow
  · have hfatal : isFatal f = isFatal f' := by rw [isFatal, isFatal, hf.kind]
    rw [hfatal]
    split
    · exact .fail hf
    · exact he.handle hhandlers scope hf

theorem conclude {c c' : Compound} (h : CompoundAlike view.placed c c') (scope : Nat)
    {outcome outcome' : Except Failure Flow}
    (houtcome : Twins view (Run.ofExcept outcome) (Run.ofExcept outcome')) :
    Twins view (Statement.conclude e scope c outcome) (Statement.conclude e scope c' outcome') := by
  have hlast (last : Flow) :
      Twins view (if last.isNormal then Run.ofExcept outcome else return last : Run Flow)
        (if last.isNormal then Run.ofExcept outcome' else return last) := by
    split
    · exact houtcome
    · exact .pure last
  have hfinally := rel_clause? h "finally"
  unfold Statement.conclude
  generalize c.clause? "finally" = o at hfinally ⊢
  generalize c'.clause? "finally" = o' at hfinally ⊢
  cases hfinally with
  | none => exact hlast .normal
  | some hlines => exact (he.block scope _ _ hlines).bind hlast

theorem executeGuarded {c c' : Compound} (h : CompoundAlike view.placed c c') (scope : Nat) :
    Twins view (Statement.executeGuarded e scope c) (Statement.executeGuarded e scope c') :=
  (he.guarded h scope).rescue (fun flow => he.conclude h scope (.pure flow))
    fun _ _ hf => he.conclude h scope (.fail hf)

end Even

theorem clausesAlike_refl (cs : List Clause) :
    List.Forall₂ (ClauseAlike placed) cs cs :=
  List.forall₂_same.2 fun cl _ => ⟨rfl, rfl, .refl cl.lines⟩

theorem compoundAlike_refl (c : Compound) : CompoundAlike placed c c :=
  ⟨rfl, .refl c.lines, clausesAlike_refl c.clauses⟩

/-- What is put together above an even engine is its own twin. -/
theorem Even.twins {e : Engine} (he : Even view e) {R : Reach} {α : Type} {x : Engine → Run α}
    (hx : Composed R x) : Twins view (x e) (x e) := by
  induction hx with
  | stored g h => exact .onStore h.toQuiet
  | define f _ hsame _ => exact .define hsame
  | raiseAgain => exact .raiseAgain
  | setting => exact .setting
  | newScope names => exact .newScope names
  | inside names _ hf => exact .bind (.newScope names) hf
  | bindName ref _ name v => exact .bindName ref name v
  | write text => exact .write text
  | readInput => exact .readInput
  | warn text => exact .warn text
  | eval scope text h => exact he.eval scope text
  | apply v args keywords h => exact he.apply v args keywords
  | block scope _ lines h => exact he.block scope lines lines (.refl lines)
  | call ref args keywords => exact .callStored he.block ref args keywords
  | bind _ _ hx hf => exact .bind hx hf
  | guardCall _ hx => exact .guardCall hx
  | undoing _ b g h _ hx => exact .undoing hx h
  | line scope line rest _ _ h => exact .executeLine (fun _ => rfl) rfl h
  | guarded scope _ c h => exact he.executeGuarded (compoundAlike_refl c) scope

end SnippetGrader.Indentation
