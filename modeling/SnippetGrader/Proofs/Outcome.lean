import Mathlib.Tactic.Choose
import SnippetGrader.Program.Session

/-!
# Outcomes of calls, statements and handlers

What a call of a function, a statement and a `try` do to a machine, as one equation each: the
computation inside runs on a machine that was prepared for it, and its outcome is passed on after
a change that the equation names.
-/

namespace SnippetGrader

open Source

/-! ## Names -/

theorem Scope.get?_set (sc : Scope) (n : String) (v : Value) : (sc.set n v).get? n = some v := by
  induction sc with
  | nil => simp [set, get?]
  | cons p rest ih =>
    obtain ⟨k, w⟩ := p
    rw [set]
    by_cases hk : k = n
    · simp [hk, get?]
    · have hne : (n == k) = false := beq_eq_false_iff_ne.2 (Ne.symm hk)
      rw [if_neg (by simpa using hk), get?, List.lookup_cons, hne]
      exact ih

theorem Scope.get?_set_of_ne {n k : String} (h : n ≠ k) (sc : Scope) (v : Value) :
    (sc.set k v).get? n = sc.get? n := by
  have hkey : (n == k) = false := beq_eq_false_iff_ne.2 h
  induction sc with
  | nil => rw [set, get?, List.lookup_cons, hkey]; rfl
  | cons entry rest ih =>
    obtain ⟨k', w⟩ := entry
    rw [get?, get?] at ih
    rw [set, get?, get?, List.lookup_cons]
    split
    · next heq => simp [List.lookup_cons, beq_iff_eq.1 heq, hkey]
    · rw [List.lookup_cons, ih]

/-! ## Outcomes -/

/-- What a computation ends with: a result or the reason why it stopped, and the machine. -/
abbrev Outcome (α : Type) := EStateM.Result Stop Machine α

namespace Outcome

variable {α β : Type}

/-- The machine after a computation. -/
def after : Outcome α → Machine
  | .ok _ m | .error _ m => m

/-- Changes the machine of an outcome. -/
def onMachine (g : Machine → Machine) : Outcome α → Outcome α
  | .ok a m => .ok a (g m)
  | .error stop m => .error stop (g m)

def map (f : α → β) : Outcome α → Outcome β
  | .ok a m => .ok (f a) m
  | .error stop m => .error stop m

def onFailure (g : Failure → Failure) : Outcome α → Outcome α
  | .error (.failed f) m => .error (.failed (g f)) m
  | r => r

theorem map_onFailure (f : α → β) (g : Failure → Failure) (r : Outcome α) :
    map f (onFailure g r) = onFailure g (map f r) := by
  cases r with
  | ok a m => exact rfl
  | error stop m => cases stop <;> exact rfl

@[simp] theorem after_ok (a : α) (m : Machine) : after (.ok a m) = m := rfl

@[simp] theorem after_error (stop : Stop) (m : Machine) :
    after (.error stop m : Outcome α) = m := rfl

@[simp] theorem after_onMachine (g : Machine → Machine) (r : Outcome α) :
    after (onMachine g r) = g (after r) := by
  cases r <;> rfl

@[simp] theorem after_onFailure (g : Failure → Failure) (r : Outcome α) :
    after (onFailure g r) = after r := by
  cases r with
  | ok a m => rfl
  | error stop m => cases stop <;> rfl

end Outcome

namespace Run

variable {α β : Type}

theorem bind_eq (x : Run α) (f : α → Run β) (m : Machine) :
    (x >>= f) m = match x m with
      | .ok a m' => f a m'
      | .error stop m' => .error stop m' := by
  change EStateM.bind x f m = _
  unfold EStateM.bind
  cases x m <;> rfl

theorem map_eq (f : α → β) (x : Run α) (m : Machine) : (f <$> x) m = Outcome.map f (x m) := by
  simp only [Functor.map, EStateM.map]
  cases x m with
  | ok a m' => exact rfl
  | error stop m' => exact rfl

/-- A computation that looks at the store and changes it, and does nothing else. -/
def onStore {α : Type} (g : Store → Except Stop α × Store) : Run α := fun m =>
  match g m.store with
  | (.ok a, s) => .ok a { m with store := s }
  | (.error stop, s) => .error stop { m with store := s }

theorem get_bind (k : Machine → Run α) (m : Machine) : (get >>= k) m = k m m := rfl

theorem store_bind (k : Store → Run α) (m : Machine) : (store >>= k) m = k m.store m := rfl

theorem modify_bind (g : Machine → Machine) (k : Unit → Run α) (m : Machine) :
    (modify g >>= k) m = k () (g m) := rfl

theorem guardCall_eq (x : Run α) (m : Machine) :
    guardCall x m = match x m with
      | .ok a m' => .ok a m'
      | .error (.failed f) m' => .error (.failed f) m'
      | .error (.exhausted n) m' => .error (.failed n.failure) m' := by
  unfold guardCall
  cases x m with
  | ok a m' => rfl
  | error stop m' => cases stop <;> rfl

/-- Runs `x` and goes on with its result or with its failure, but not after exhaustion. -/
def rescue (x : Run α) (k : α → Run β) (h : Failure → Run β) : Run β := fun m =>
  match x m with
  | .ok a m' => k a m'
  | .error (.failed f) m' => h f m'
  | .error (.exhausted n) m' => .error (.exhausted n) m'

theorem bind_eq_rescue (x : Run α) (f : α → Run β) : x >>= f = rescue x f fail := by
  funext m
  rw [bind_eq, rescue]
  cases x m with
  | ok a m' => rfl
  | error stop m' => cases stop <;> rfl

theorem attempt_bind (x : Run α) (k : Except Failure α → Run β) :
    attempt x >>= k = rescue x (fun a => k (.ok a)) fun f => k (.error f) := by
  funext m
  rw [bind_eq]
  unfold attempt onFailure rescue
  rw [map_eq_pure_bind, bind_eq]
  cases x m with
  | ok a m' => rfl
  | error stop m' => cases stop <;> rfl

/-- Runs `x` on a machine that `g` prepares, and changes the machine by `g'` after it. -/
def between (g : Machine → Machine) (x : Run α) (g' : Machine → Machine) : Run α := fun m =>
  Outcome.onMachine g' (x (g m))

theorem modify_finally' (g : Machine → Machine) (x : Run α) (g' : Machine → Machine) :
    (do modify g; finally' x (modify g')) = between g x g' := by
  funext m
  rw [modify_bind, finally', between]
  cases x (g m) <;> rfl

end Run

/-- One level of the interpreter above an engine. -/
def Engine.next (e : Engine) : Engine where
  eval := Expression.evaluate e
  apply := Statement.apply e
  block := Statement.executeBlock e

@[simp] theorem Engine.next_block (e : Engine) : e.next.block = Statement.executeBlock e := rfl

theorem Engine.next_eval (e : Engine) : e.next.eval = Expression.evaluate e := rfl

theorem Engine.level_succ (n : Nat) : Engine.level (n + 1) = (Engine.level n).next := rfl

/-! ## Output, input and warnings -/

namespace Machine

/-- The machine after it was tried to print a text. -/
def counted (m : Machine) (text : String) : Machine :=
  { m with written := m.written + text.length }

def printed (m : Machine) (text : String) : Machine :=
  let (lines, rest) := splitOutput (m.pending.toList ++ text.toList)
  { m.counted text with finished := m.finished ++ lines.toArray, pending := rest }

theorem printed_eq (m : Machine) (text : String) :
    m.printed text =
      { m.counted text with
        finished := m.finished ++ (splitOutput (m.pending.toList ++ text.toList)).1.toArray
        pending := (splitOutput (m.pending.toList ++ text.toList)).2 } :=
  rfl

def warned (m : Machine) (text : String) : Machine :=
  { m with
    warnings := if m.warnings.contains text then m.warnings else m.warnings ++ [text] }

end Machine

namespace Run

theorem write_eq (text : String) (m : Machine) :
    write text m =
      if ((m.counted text).written : Int) > m.limits.maxOutputChars then
        .error (.failed { kind := "OutputLimitError", message := "Output length limit reached" })
          (m.counted text)
      else .ok () (m.printed text) := by
  unfold write
  rw [modify_bind, get_bind]
  change (if ((m.counted text).written : Int) > m.limits.maxOutputChars then _ else _ : Run Unit)
    (m.counted text) = _
  by_cases h : ((m.counted text).written : Int) > m.limits.maxOutputChars
  · simp only [h, if_true]
    rfl
  · simp only [h, if_false]
    rfl

theorem readInput_eq (m : Machine) :
    readInput m = match m.inputs with
      | [] => .error (.failed { kind := "EOFError", message := "EOF when reading a line" }) m
      | v :: rest => .ok v { m with inputs := rest } := by
  unfold readInput
  rw [get_bind]
  cases m.inputs <;> rfl

theorem warn_eq (text : String) (m : Machine) :
    Statement.warn text m = .ok () (m.warned text) := by
  change EStateM.Result.ok () (if m.warnings.contains text then m else
    { m with warnings := m.warnings ++ [text] }) = _
  unfold Machine.warned
  split <;> rfl

end Run

/-! ## Calls -/

/-- The machine on which the body of a function is executed, with these names. -/
def Machine.entered (m : Machine) (names : Scope) : Machine :=
  { m with
    store := { m.store with scopes := m.store.scopes.push names }
    callDepth := m.callDepth + 1 }

/-- The machine after a call. -/
def Machine.left (m : Machine) : Machine := { m with callDepth := m.callDepth - 1 }

namespace Statement

theorem callFunction_eq (e : Engine) (f : Function) (args : List Value) (keywords : Keywords)
    (m : Machine) :
    callFunction e f args keywords m =
      if (m.callDepth : Int) ≥ m.limits.maxCallDepth then
        .error (.failed (.recursion "maximum recursion depth exceeded")) m
      else
        match callScope f (m.store.scope f.scope) args keywords with
        | .error failure => .error (.failed failure) m
        | .ok names =>
          (Run.between (·.entered names) (e.block m.store.scopes.size f.body) Machine.left >>=
            fun flow => return Flow.result flow) m := by
  unfold callFunction
  rw [Run.get_bind]
  split
  · rfl
  · cases callScope f (m.store.scope f.scope) args keywords with
    | error failure => rfl
    | ok names =>
      dsimp only
      rw [← Run.modify_finally', bind_assoc]
      rfl

/-! ## Statements -/

end Statement

theorem Failure.kind_locate (f : Failure) (line : Nat) (text : String) :
    (f.locate line text).kind = f.kind := by
  unfold Failure.locate
  split <;> rfl

/-- The failure of a run that executes more statements than it may. -/
def Limits.stepFailure (limits : Limits) : Failure :=
  { kind := "StepLimitError"
    message := "Step limit of " ++ toString limits.maxSteps ++ " exceeded" }

/-- The failure of a run that takes longer than it may. -/
def Limits.timeFailure (limits : Limits) : Failure :=
  { kind := "TimeoutError"
    message := "Time limit of " ++ Number.floatText limits.maxTime ++ "s exceeded" }

namespace Machine

/-- The machine after a statement was charged. -/
def charged (m : Machine) (line : Line) : Machine :=
  { m with lineNumber := line.number, steps := m.steps + 1 }

/-- Whether more statements were charged than the limit allows. -/
def Spent (m : Machine) : Prop := m.limits.maxSteps < m.steps

instance (m : Machine) : Decidable m.Spent := inferInstanceAs (Decidable (_ < _))

theorem Spent.charged {m : Machine} (h : m.Spent) (line : Line) : (m.charged line).Spent := by
  unfold Spent Machine.charged at *
  dsimp only
  omega

/-- Whether the run has taken longer than it may when a statement was charged. -/
def Late (m : Machine) : Prop := m.host.clock.Expired m.limits.maxTime m.steps

instance (m : Machine) : Decidable m.Late := inferInstanceAs (Decidable (Clock.Expired _ _ _))

/-- Why a statement that was just charged is not executed. -/
def refusal? (m : Machine) : Option Failure :=
  if m.Spent then some m.limits.stepFailure
  else if m.Late then some m.limits.timeFailure
  else none

theorem refusal?_eq_none_of_le {m : Machine} (hsteps : (m.steps : Int) ≤ m.limits.maxSteps)
    (htime : ¬ m.Late) : m.refusal? = none := by
  have hspent : ¬ m.Spent := Int.not_lt.2 hsteps
  rw [refusal?, if_neg hspent, if_neg htime]

/-- Under the usual limits a statement in time is executed until there were too many. -/
theorem refusal?_eq_none {m : Machine} (hlimits : m.limits = {}) (htime : ¬ m.Late)
    (hsteps : m.steps ≤ 100000) : m.refusal? = none := by
  refine refusal?_eq_none_of_le ?_ htime
  rw [hlimits]
  dsimp only
  omega

end Machine

namespace Statement

theorem tick_eq (m : Machine) :
    Run.tick m = match { m with steps := m.steps + 1 }.refusal? with
      | some f => .error (.failed f) { m with steps := m.steps + 1 }
      | none => .ok () { m with steps := m.steps + 1 } := by
  unfold Run.tick Machine.refusal?
  rw [Run.modify_bind, Run.get_bind]
  generalize { m with steps := m.steps + 1 } = m'
  by_cases hspent : m'.Spent
  · have h : (m'.steps : Int) > m'.limits.maxSteps := hspent
    rw [if_pos h, if_pos hspent]
    rfl
  · have h : ¬ (m'.steps : Int) > m'.limits.maxSteps := hspent
    rw [if_neg h, if_neg hspent]
    by_cases htime : m'.Late
    · rw [if_pos htime]
      exact congrFun (if_pos htime) m'
    · rw [if_neg htime]
      exact congrFun (if_neg htime) m'

theorem executeLine_eq (e : Engine) (scope : Nat) (line : Line) (rest : List Line) (m : Machine) :
    executeLine e scope line rest m =
      Outcome.onFailure (fun f => f.locate line.number (String.ofList line.text))
        (match (m.charged line).refusal? with
          | some f => .error (.failed f) (m.charged line)
          | none => executeKind e scope line rest (classify line.text) (m.charged line)) := by
  have htick : Run.tick { m with lineNumber := line.number } =
      match (m.charged line).refusal? with
      | some f => .error (.failed f) (m.charged line)
      | none => .ok () (m.charged line) := tick_eq _
  unfold executeLine
  rw [Run.modify_bind, Run.onFailure, Run.bind_eq, htick]
  cases (m.charged line).refusal? with
  | some f => rfl
  | none =>
    dsimp only
    cases executeKind e scope line rest (classify line.text) (m.charged line) with
    | ok a m' => rfl
    | error stop m' => cases stop <;> rfl

theorem executeBlock_singleton (e : Engine) (scope : Nat) (l : Line) (m : Machine) :
    executeBlock e scope [l] m =
      match executeLine e scope l [] m with
      | .ok (_, flow) m' => .ok flow m'
      | .error stop m' => .error stop m' := by
  have hblock : executeBlock e scope [l] = executeLine e scope l [] >>= fun p =>
      if p.2.isNormal then executeFrom e scope p.1 [] else pure p.2 := rfl
  have hend (used : Nat) : executeFrom e scope used [] = pure .normal := rfl
  rw [hblock, Run.bind_eq]
  cases executeLine e scope l [] m with
  | error stop m' => rfl
  | ok p m' =>
    obtain ⟨used, flow⟩ := p
    cases flow <;> rfl

/-- A block on a machine that has spent its statements ends at its first one. -/
theorem executeBlock_spent (e : Engine) (scope : Nat) (lines : List Line) {m : Machine}
    (h : m.Spent) :
    executeBlock e scope lines m = match lines with
      | [] => .ok .normal m
      | line :: _ =>
        .error (.failed (m.limits.stepFailure.locate line.number (String.ofList line.text)))
          (m.charged line) := by
  cases lines with
  | nil => rfl
  | cons line rest =>
    have hspent := h.charged line
    unfold executeBlock executeFrom
    rw [if_neg (Nat.lt_irrefl 0), Run.bind_eq, executeLine_eq, Machine.refusal?, if_pos hspent]
    rfl

/-! ## Failures and their handlers -/

/-- The machine on which a handler with this header is executed: the failure is among those being
handled, and a name after `as` is bound to an exception. -/
def catching (m : Machine) (scope : Nat) (head : List Char) (f : Failure) : Machine :=
  let name := Text.trim (splitAlias head).2
  let store := if name.isEmpty then m.store else
    { m.store with
      exceptions := m.store.exceptions + 1
      scopes := m.store.scopes.modify scope fun names =>
        names.set (String.ofList name) (.exception m.store.exceptions f.kind f.message) }
  { m with store, handling := f :: m.handling }

/-- The machine after a handler. -/
def released (m : Machine) : Machine := { m with handling := m.handling.tail }

def handlerOf? (handlers : List Clause) (f : Failure) : Option Clause :=
  (handlers.find? fun h => catches h.head f.kind) <|> handlers.head?

theorem handle_eq (e : Engine) (scope : Nat) (handlers : List Clause) (f : Failure) :
    handle e scope handlers f =
      match handlerOf? handlers f with
      | none => Run.fail f
      | some h => Run.between (fun m => catching m scope h.head f) (e.block scope h.lines) released := by
  unfold handle
  change (match handlerOf? handlers f with | none => _ | some h => _ : Run Flow) = _
  cases handlerOf? handlers f with
  | none => rfl
  | some h =>
    dsimp only
    rw [← Run.modify_finally']
    funext m
    rw [Run.modify_bind]
    unfold catching
    dsimp only
    split
    · next hname =>
      rw [Bool.not_eq_true'] at hname
      rw [hname]
      rfl
    · next hname =>
      rw [Bool.not_eq_true', Bool.not_eq_false] at hname
      rw [hname]
      rfl

def Compound.handlers (c : Compound) : List Clause := c.clauses.filter fun cl => cl.word == "except"

theorem guarded_eq (e : Engine) (scope : Nat) (c : Compound) :
    guarded e scope c = Run.rescue (e.block scope c.lines)
      (fun flow => match c.clause? "else" with
        | some lines => if flow.isNormal then e.block scope lines else return flow
        | none => return flow)
      (fun f => if c.handlers.isEmpty || isFatal f then Run.fail f
        else handle e scope c.handlers f) :=
  Run.attempt_bind _ _

/-- What follows `finally`, and the outcome of `try` after it. -/
def conclude (e : Engine) (scope : Nat) (c : Compound) (outcome : Except Failure Flow) :
    Run Flow := do
  let last ← match c.clause? "finally" with
    | some lines => e.block scope lines
    | none => pure .normal
  if last.isNormal then Run.ofExcept outcome else return last

/-- The body of `try` with its handlers, and then what follows `finally`. -/
def executeGuarded (e : Engine) (scope : Nat) (c : Compound) : Run Flow :=
  Run.rescue (guarded e scope c) (fun flow => conclude e scope c (.ok flow))
    fun f => conclude e scope c (.error f)

theorem executeTry_eq (e : Engine) (scope : Nat) (line : Line) (rest : List Line) :
    executeTry e scope line rest = (do
      let c ← Run.ofExcept (compound "try" ["except", "else", "finally"] [] line rest)
      let flow ← executeGuarded e scope c
      return (c.used, flow)) := by
  have hend (c : Compound) (outcome : Except Failure Flow) (last : Flow) :
      (if last.isNormal then return (c.used, ← Run.ofExcept outcome) else return (c.used, last) :
        Run (Nat × Flow)) =
      (if last.isNormal then Run.ofExcept outcome else return last) >>=
        fun flow => return (c.used, flow) := by
    split
    · rfl
    · rw [pure_bind]
  have hguarded (c : Compound) : executeGuarded e scope c =
      Run.attempt (guarded e scope c) >>= conclude e scope c :=
    (Run.attempt_bind _ _).symm
  simp only [executeTry, hguarded, conclude, bind_assoc]
  congr 1
  funext c
  congr 1
  funext outcome
  cases c.clause? "finally" <;> simp only [bind_assoc, hend]

end Statement

/-! ## The machine at the start -/

namespace Run

variable {α β : Type}

/-- A computation works on the store alone, and leaves the host in it. -/
def IsStored (x : Run α) : Prop := ∃ g, x = onStore g ∧ ∀ s, (g s).2.host = s.host

theorem IsStored.pure (a : α) : IsStored (Pure.pure a) := ⟨fun s => (.ok a, s), rfl, fun _ => rfl⟩

theorem IsStored.bind {x : Run α} {f : α → Run β} (hx : IsStored x) (hf : ∀ a, IsStored (f a)) :
    IsStored (x >>= f) := by
  obtain ⟨g, rfl, hg⟩ := hx
  choose g' hg' hhost using hf
  refine ⟨fun s => match g s with
    | (.ok a, s') => g' a s'
    | (.error stop, s') => (.error stop, s'), funext fun m => ?_, fun s => ?_⟩
  · rw [bind_eq]
    simp only [onStore]
    obtain ⟨r, s⟩ := g m.store
    cases r with
    | ok a =>
      simp only [hg']
      rfl
    | error stop => rfl
  · have hkept := hg s
    dsimp only
    generalize g s = p at hkept ⊢
    obtain ⟨r, s'⟩ := p
    cases r with
    | ok a => exact (hhost a s').trans hkept
    | error stop => exact hkept

theorem IsStored.newList (xs : Array Value) : IsStored (Run.newList xs) :=
  ⟨fun s => (.ok (Value.list s.lists.size), { s with lists := s.lists.push xs }), rfl, fun _ => rfl⟩

theorem IsStored.fresh (v : Value) : IsStored (Run.fresh v) := by
  unfold Run.fresh
  split
  · split
    · exact ⟨fun s => (.ok (Value.nan s.nans), { s with nans := s.nans + 1 }), rfl, fun _ => rfl⟩
    · exact .pure _
  · exact .pure _

end Run

mutual

theorem Datum.toValue_isStored : (d : Datum) → Run.IsStored d.toValue
  | .plain v => by
    simp only [Datum.toValue]
    exact .fresh v
  | .lock => ⟨fun s => (.ok (Value.lock s.locks), { s with locks := s.locks + 1 }), by
    simp only [Datum.toValue]
    rfl, fun _ => rfl⟩
  | .exception kind message => ⟨fun s => (.ok (Value.exception s.exceptions kind message),
    { s with exceptions := s.exceptions + 1 }), by
    simp only [Datum.toValue]
    rfl, fun _ => rfl⟩
  | .list items => by
    simp only [Datum.toValue]
    exact .bind (Datum.toValues_isStored items) fun _ => .newList _
  | .dict entries => by
    simp only [Datum.toValue]
    exact .pure _

theorem Datum.toValues_isStored : (ds : List Datum) → Run.IsStored (Datum.toValues ds)
  | [] => by
    simp only [Datum.toValues]
    exact .pure _
  | d :: ds => by
    simp only [Datum.toValues]
    exact .bind (Datum.toValue_isStored d) fun _ => .bind (Datum.toValues_isStored ds) fun _ => .pure _

end

/-- What inputs make of a store that holds nothing but a host does not depend on the rest of the
machine. -/
theorem Machine.exists_serving_eq (inputs : Inputs) (host : Surroundings) :
    ∃ (store : Store) (values : List Value), store.host = host ∧
      ∀ m : Machine, m.store = { host } → m.inputs = [] →
        m.serving inputs = { m with store, inputs := values } := by
  have hstored : Run.IsStored inputs.values := by
    cases inputs with
    | text t => exact .pure _
    | items data => exact Datum.toValues_isStored data
  obtain ⟨g, hg, hhost⟩ := hstored
  unfold Machine.serving Machine.perform
  rw [hg]
  unfold Run.onStore
  refine ⟨(g { host }).2, (g { host }).1.toOption.getD [], hhost { host },
    fun m hstore hinputs => ?_⟩
  rw [hstore]
  obtain ⟨r, s⟩ := g { host }
  cases r with
  | ok values => rfl
  | error stop => simp only [Except.toOption, Option.getD_none, ← hinputs]

/-- The limits of a fresh machine have no part in what it holds. -/
theorem Machine.exists_start_eq (inputs : Inputs) (host : Host) :
    ∃ (store : Store) (values : List Value), store.host = host.toSurroundings ∧
      ∀ limits, Machine.start limits inputs host = { limits, store, inputs := values } := by
  obtain ⟨store, values, hhost, h⟩ := Machine.exists_serving_eq inputs host.toSurroundings
  exact ⟨store, values, hhost, fun limits => h (.fresh limits host.toSurroundings) rfl rfl⟩

/-! ## Hosts -/

/-- A host that has room for so many levels, and on which so many statements are charged in time. -/
structure Host.Suffices (host : Host) (limits : Limits) (levels statements : Nat) : Prop where
  levels : levels ≤ host.levels
  inTime : ∀ n ≤ statements, ¬host.clock.Expired limits.maxTime n

theorem Host.suffices_usual {levels : Nat} (h : levels ≤ 480) (statements : Nat) :
    Host.Suffices {} {} levels statements :=
  ⟨h, fun _ _ => (by decide : ¬Clock.Expired {} ({} : Limits).maxTime 0)⟩

/-- A host on whose clock programs read a given time. -/
def Host.showing (time : Float) : Host := { clock := { reading := fun _ => time } }

/-- An engine with a given number of levels at the top of a host that has them. -/
theorem Host.Suffices.exists_engine_eq {host : Host} {limits : Limits} {levels statements : Nat}
    (h : host.Suffices limits levels statements) : ∃ n, host.engine = Engine.level (n + levels) := by
  obtain ⟨n, hn⟩ := Nat.exists_eq_add_of_le' h.levels
  exact ⟨n, by rw [Host.engine, hn]⟩

/-! ## Programs -/

/-- Executes a program on an engine, in a scope of its own. -/
def program (code : String) (e : Engine) : Run Flow := do
  Statement.executeBlock e (← Run.newScope []) (splitLines code.toList)

/-- The report of a run that ended so. -/
def Outcome.report {α : Type} : Outcome α → Report
  | .ok _ m => ⟨m.outputLines, m.warnings, none⟩
  | .error stop m => ⟨m.outputLines, m.warnings, some (stop.failure m.lineNumber)⟩

/-- Runs a program on an engine. -/
def runOn (e : Engine) (limits : Limits) (inputs : Inputs) (code : String) (host : Host) : Report :=
  Outcome.report (program code e (Machine.start limits inputs host))

theorem run_eq_runOn (limits : Limits) (inputs : Inputs) (code : String) (host : Host) :
    run limits inputs code host = runOn host.engine limits inputs code host := by
  have hprogram : (do execute (← Run.newScope []) code host : Run Flow) =
    program code host.engine := rfl
  simp only [run, hprogram]
  unfold runOn Machine.perform
  cases program code host.engine (Machine.start limits inputs host) <;> rfl

/-- A run executes the lines of the program in an empty scope of a machine that has done nothing
yet. -/
theorem exists_run_eq (limits : Limits) (inputs : Inputs) (host : Host) :
    ∃ (store : Store) (values : List Value) (scope : Nat), store.scopes[scope]? = some [] ∧
      store.host = host.toSurroundings ∧ ∀ code, run limits inputs code host =
        Outcome.report (Statement.executeBlock host.engine scope (splitLines code.toList)
          { limits, store, inputs := values }) := by
  obtain ⟨store, values, hhost, hstart⟩ := Machine.exists_start_eq inputs host
  refine ⟨{ store with scopes := store.scopes.push [] }, values, store.scopes.size,
    Array.getElem?_push_size, hhost, fun code => ?_⟩
  have hopened : Run.newScope [] (Machine.start limits inputs host) = .ok store.scopes.size
      { limits, store := { store with scopes := store.scopes.push [] }, inputs := values } := by
    rw [hstart]
    rfl
  rw [run_eq_runOn, runOn, program, Run.bind_eq, hopened]

end SnippetGrader
