import Mathlib.Algebra.Ring.Nat
import SnippetGrader.Proofs.Composition.Statement

/-!
# The course of a run

What can be noticed of a run while it goes on: statements that are started or refused, text that is
written, input that is read, warnings, and names that are bound. `Traces x t` says that `t` gives
for each machine the events of the computation `x` on it, in their order. It has a rule for each
part that computations are put together from, and the rules for statements follow the lines of a
block and the clauses of a `try` one by one.

Every computation of the interpreter has a trace (`Composed.exists_traces`), and replaying the
events changes all that can be noticed of a machine as the computation does
(`Traces.surface_eq`): nothing is left out of a trace.
-/

namespace SnippetGrader

open Source Statement

/-! ## Events -/

/-- What can be noticed of a run. -/
inductive Event where
  /-- A statement is attempted and started. -/
  | started (line : Line)
  /-- A statement is attempted and the limits refuse it. -/
  | refused (line : Line)
  | wrote (text : String)
  | read
  | warned (text : String)
  | bound (scope : Nat) (name : String) (v : Value)
  /-- A scope is made, in which names are bound. -/
  | opened (names : Scope)

namespace Event

/-- The number of statements that an event is the attempt of. -/
def attempts : Event → Nat
  | started _ | refused _ => 1
  | _ => 0

def on (m : Machine) : Event → Machine
  | started _ | refused _ => { m with steps := m.steps + 1 }
  | wrote text =>
    if ((m.counted text).written : Int) > m.limits.maxOutputChars then m.counted text
    else m.printed text
  | read => { m with inputs := m.inputs.tail }
  | warned text => m.warned text
  | bound ref name v =>
    { m with store := { m.store with
        scopes := m.store.scopes.modify ref fun sc => sc.set name v } }
  | opened names =>
    { m with store := { m.store with scopes := m.store.scopes.push names } }

end Event

namespace Machine

/-- What can be noticed of a machine: the limits, the scopes, the output, the warnings, the input
that is left and the statements that were attempted. -/
def surface (m : Machine) : Machine :=
  { limits := m.limits
    store := { scopes := m.store.scopes }
    finished := m.finished
    pending := m.pending
    written := m.written
    warnings := m.warnings
    inputs := m.inputs
    steps := m.steps }

/-- The machine after some events. -/
def replay (m : Machine) (events : List Event) : Machine := events.foldl Event.on m

@[simp] theorem replay_nil (m : Machine) : m.replay [] = m := rfl

@[simp] theorem replay_cons (m : Machine) (event : Event) (events : List Event) :
    m.replay (event :: events) = (event.on m).replay events := rfl

theorem replay_append (m : Machine) (events events' : List Event) :
    m.replay (events ++ events') = (m.replay events).replay events' :=
  List.foldl_append

theorem surface_on (m : Machine) (event : Event) :
    (event.on m).surface = event.on m.surface := by
  cases event with
  | wrote text =>
    have hcount : (m.surface.counted text).written = (m.counted text).written := rfl
    have hlimits : m.surface.limits = m.limits := rfl
    simp only [Event.on, hcount, hlimits]
    split <;> rfl
  | _ => rfl

/-- Events change what can be noticed by what could be noticed before. -/
theorem surface_replay (m : Machine) (events : List Event) :
    (m.replay events).surface = m.surface.replay events := by
  induction events generalizing m with
  | nil => rfl
  | cons event events ih => rw [replay_cons, replay_cons, ih, surface_on]

theorem limits_replay (m : Machine) (events : List Event) :
    (m.replay events).limits = m.limits := by
  induction events generalizing m with
  | nil => rfl
  | cons event events ih =>
    have hon : (event.on m).limits = m.limits := by
      cases event with
      | wrote text =>
        simp only [Event.on]
        split <;> rfl
      | _ => rfl
    rw [replay_cons, ih, hon]

/-- Each attempt of a statement counts, and nothing else does. -/
theorem steps_replay (m : Machine) (events : List Event) :
    (m.replay events).steps = m.steps + (events.map Event.attempts).sum := by
  induction events generalizing m with
  | nil => rfl
  | cons event events ih =>
    have hon : (event.on m).steps = m.steps + event.attempts := by
      cases event with
      | wrote text =>
        simp only [Event.on]
        split <;> rfl
      | _ => rfl
    rw [replay_cons, ih, hon, List.map_cons, List.sum_cons, Nat.add_assoc]

end Machine

/-! ## Traces -/

/-- The events of a computation on each machine. -/
abbrev Events := Machine → List Event

namespace Events

variable {α : Type}

/-- Nothing can be noticed. -/
def none : Events := fun _ => []

/-- The events of `x` and of what follows its result or its failure. -/
def rescue (x : Run α) (t : Events) (k : α → Events) (h : Failure → Events) : Events := fun m =>
  t m ++ match x m with
    | .ok a m' => k a m'
    | .error (.failed f) m' => h f m'
    | .error (.exhausted _) _ => []

/-- Nothing can be noticed of what follows. -/
theorem rescue_none (x : Run α) (t : Events) :
    rescue x t (fun _ => none) (fun _ => none) = t := by
  funext m
  unfold rescue none
  cases x m with
  | ok a m' => exact List.append_nil _
  | error stop m' => cases stop <;> exact List.append_nil _

/-- The events of a call, given those of the body in each scope. -/
def call (f : Function) (args : List Value) (keywords : Keywords) (t : Nat → Events) : Events :=
  fun m =>
    if (m.callDepth : Int) ≥ m.limits.maxCallDepth then []
    else
      match callScope f (m.store.scope f.scope) args keywords with
      | .error _ => []
      | .ok names => .opened names :: t m.store.scopes.size (m.entered names)

/-- The events of a statement, given those that follow its start. -/
def line (line : Line) (t : Events) : Events := fun m =>
  match (m.charged line).refusal? with
  | some _ => [.refused line]
  | .none => .started line :: t (m.charged line)

/-- The events of the lines after the next `skip` ones, given those of each statement. -/
def lines (e : Engine) (scope : Nat) (t : Line → List Line → Events) :
    (skip : Nat) → List Line → Events
  | _, [] => none
  | skip, l :: rest =>
    if skip > 0 then lines e scope t (skip - 1) rest
    else rescue (executeLine e scope l rest) (line l (t l rest))
      (fun p => if p.2.isNormal then lines e scope t p.1 rest else none) fun _ => none

/-- The events of a block. -/
def block (e : Engine) (scope : Nat) (t : Line → List Line → Events) : List Line → Events :=
  lines e scope t 0

/-- The events of the handler of a failure: a name may be bound to an exception first. -/
def handler (e : Engine) (scope : Nat) (t : Line → List Line → Events) (handlers : List Clause)
    (f : Failure) : Events := fun m =>
  match handlerOf? handlers f with
  | .none => []
  | some h =>
    let name := Text.trim (splitAlias h.head).2
    let caught := if name.isEmpty then [] else
      [Event.bound scope (String.ofList name)
        (.exception m.store.exceptions f.kind f.message)]
    caught ++ block e scope t h.lines (catching m scope h.head f)

/-- The events of the body of `try` and of what follows `except` or `else`. -/
def attempt (e : Engine) (scope : Nat) (t : Line → List Line → Events) (c : Compound) : Events :=
  rescue (executeBlock e scope c.lines) (block e scope t c.lines)
    (fun flow => match c.clause? "else" with
      | some lines => if flow.isNormal then block e scope t lines else none
      | .none => none)
    fun f => if c.handlers.isEmpty || isFatal f then none else handler e scope t c.handlers f

/-- The events of what follows `finally`. -/
def ending (e : Engine) (scope : Nat) (t : Line → List Line → Events) (c : Compound) : Events :=
  match c.clause? "finally" with
  | some lines => block e scope t lines
  | .none => none

end Events

/-- The events of a computation are given by a trace. -/
inductive Traces : {α : Type} → Run α → Events → Prop
  | stored {α : Type} (g : Store → Except Stop α × Store) (h : ∀ s, (g s).2.scopes = s.scopes) :
      Traces (Run.onStore g) .none
  | context : Traces Run.context .none
  | newScope (names : Scope) : Traces (Run.newScope names) fun _ => [.opened names]
  | bindName (ref : Nat) (name : String) (v : Value) :
      Traces (Run.bindName ref name v) fun _ => [.bound ref name v]
  | write (text : String) : Traces (Run.write text) fun _ => [.wrote text]
  | readInput : Traces Run.readInput fun _ => [.read]
  | warn (text : String) : Traces (Statement.warn text) fun _ => [.warned text]
  | bind {α β : Type} {x : Run α} {f : α → Run β} {t : Events} {u : α → Events} (hx : Traces x t)
      (hf : ∀ a, Traces (f a) (u a)) : Traces (x >>= f) (.rescue x t u fun _ => .none)
  | guardCall {α : Type} {x : Run α} {t : Events} (hx : Traces x t) : Traces (Run.guardCall x) t
  | undoing {α β : Type} {x : Run α} {t : Events} (hx : Traces x t) (b : Store → β)
      (g : Store → Store) (h : ∀ s, (g s).scopes = s.scopes) :
      Traces (Run.undoing x (Run.onStore fun s => (.ok (b s), g s))) t
  | call {e : Engine} {f : Function} {t : Nat → Events}
      (hbody : ∀ scope, Traces (e.block scope f.body) (t scope)) (args : List Value)
      (keywords : Keywords) : Traces (callFunction e f args keywords) (.call f args keywords t)
  | line {e : Engine} {scope : Nat} {l : Line} {rest : List Line} {t : Events}
      (h : Traces (executeKind e scope l rest (classify l.text)) t) :
      Traces (executeLine e scope l rest) (.line l t)
  | block {e : Engine} {scope : Nat} {t : Line → List Line → Events}
      (h : ∀ l rest, Traces (executeKind e scope l rest (classify l.text)) (t l rest))
      (lines : List Line) : Traces (executeBlock e scope lines) (.block e scope t lines)
  | guarded {e : Engine} {scope : Nat} {t : Line → List Line → Events}
      (h : ∀ l rest, Traces (executeKind e scope l rest (classify l.text)) (t l rest))
      (c : Compound) :
      Traces (executeGuarded e.next scope c)
        (.rescue (Statement.guarded e.next scope c) (.attempt e scope t c)
          (fun _ => .ending e scope t c) fun _ => .ending e scope t c)

/-! ## Traces leave nothing out -/

/-- All that can be noticed of a machine after a computation comes from its events. -/
def Matches {α : Type} (x : Run α) (t : Events) : Prop :=
  ∀ m, (Outcome.after (x m)).surface = (m.replay (t m)).surface

namespace Matches

variable {α β : Type}

/-- One computation after another, on a machine that the first has changed. -/
theorem after {m m' : Machine} {events : List Event} {y : Run β} {u : Events} (hy : Matches y u)
    (h : m'.surface = (m.replay events).surface) :
    (Outcome.after (y m')).surface = (m.replay (events ++ u m')).surface := by
  rw [hy m', Machine.replay_append, Machine.surface_replay, Machine.surface_replay _ (u m'), h]

theorem pure (a : α) : Matches (Pure.pure a) .none := fun _ => rfl

theorem fail (f : Failure) : Matches (Run.fail f : Run α) .none := fun _ => rfl

theorem rescue {x : Run α} {k : α → Run β} {h : Failure → Run β} {t : Events} {tk : α → Events}
    {th : Failure → Events} (hx : Matches x t) (hk : ∀ a, Matches (k a) (tk a))
    (hh : ∀ f, Matches (h f) (th f)) : Matches (Run.rescue x k h) (.rescue x t tk th) := by
  intro m
  have hm := hx m
  unfold Run.rescue Events.rescue
  cases hr : x m with
  | ok a m' =>
    rw [hr] at hm
    exact (hk a).after hm
  | error stop m' =>
    rw [hr] at hm
    cases stop with
    | failed f => exact (hh f).after hm
    | exhausted n =>
      rw [List.append_nil]
      exact hm

theorem bind {x : Run α} {f : α → Run β} {t : Events} {u : α → Events} (hx : Matches x t)
    (hf : ∀ a, Matches (f a) (u a)) : Matches (x >>= f) (.rescue x t u fun _ => .none) := by
  rw [Run.bind_eq_rescue]
  exact hx.rescue hf fail

theorem onStore (g : Store → Except Stop α × Store) (h : ∀ s, (g s).2.scopes = s.scopes) :
    Matches (Run.onStore g) .none := by
  intro m
  have hs := h m.store
  unfold Run.onStore
  generalize g m.store = p at hs
  obtain ⟨r, s⟩ := p
  dsimp only at hs
  cases r <;> simp only [Outcome.after, Machine.surface, Events.none, Machine.replay_nil, hs]

theorem write (text : String) : Matches (Run.write text) fun _ => [.wrote text] := by
  intro m
  rw [Run.write_eq, Machine.replay_cons, Machine.replay_nil, Event.on]
  split <;> rfl

theorem readInput : Matches Run.readInput fun _ => [.read] := by
  intro m
  rw [Run.readInput_eq, Machine.replay_cons, Machine.replay_nil, Event.on]
  cases hm : m.inputs with
  | nil => simp only [Outcome.after, Machine.surface, hm, List.tail_nil]
  | cons v rest => rfl

theorem guardCall {x : Run α} {t : Events} (hx : Matches x t) : Matches (Run.guardCall x) t := by
  intro m
  rw [← hx m, Run.guardCall_eq]
  cases x m with
  | ok a m' => rfl
  | error stop m' => cases stop <;> rfl

theorem undoing {x : Run α} {t : Events} (hx : Matches x t) (b : Store → β) (g : Store → Store)
    (h : ∀ s, (g s).scopes = s.scopes) :
    Matches (Run.undoing x (Run.onStore fun s => (.ok (b s), g s))) t := by
  intro m
  rw [← hx m, Run.undoing_eq]
  cases x m with
  | ok a m' => rfl
  | error stop m' => simp only [Outcome.after, Machine.surface, h]

theorem call {e : Engine} {f : Function} {t : Nat → Events}
    (hbody : ∀ scope, Matches (e.block scope f.body) (t scope)) (args : List Value)
    (keywords : Keywords) : Matches (callFunction e f args keywords) (.call f args keywords t) := by
  intro m
  rw [callFunction_eq, Events.call]
  split
  · rfl
  · cases callScope f (m.store.scope f.scope) args keywords with
    | error failure => rfl
    | ok names =>
      have hentered := (hbody m.store.scopes.size).after
        (show (m.entered names).surface = (m.replay [.opened names]).surface from rfl)
      dsimp only
      rw [← List.singleton_append, ← hentered, Run.bind_eq, Run.between]
      cases e.block m.store.scopes.size f.body (m.entered names) <;> rfl

theorem line {e : Engine} {scope : Nat} {l : Line} {rest : List Line} {t : Events}
    (h : Matches (executeKind e scope l rest (classify l.text)) t) :
    Matches (executeLine e scope l rest) (.line l t) := by
  intro m
  rw [executeLine_eq, Outcome.after_onFailure, Events.line]
  cases (m.charged l).refusal? with
  | some f => rfl
  | none =>
    exact h.after (show (m.charged l).surface = (m.replay [.started l]).surface from rfl)

section Blocks

variable {e : Engine} {scope : Nat} {t : Line → List Line → Events}
  (h : ∀ l rest, Matches (executeKind e scope l rest (classify l.text)) (t l rest))
include h

theorem lines (skip : Nat) (ls : List Line) :
    Matches (executeFrom e scope skip ls) (.lines e scope t skip ls) := by
  induction ls generalizing skip with
  | nil => exact pure _
  | cons l rest ih =>
    unfold executeFrom Events.lines
    split
    · exact ih (skip - 1)
    · refine (line (h l rest)).bind fun result => ?_
      obtain ⟨used, flow⟩ := result
      dsimp only
      split
      · exact ih used
      · exact pure flow

theorem block (ls : List Line) : Matches (executeBlock e scope ls) (.block e scope t ls) :=
  lines h 0 ls

theorem handler (handlers : List Clause) (f : Failure) :
    Matches (handle e.next scope handlers f) (.handler e scope t handlers f) := by
  intro m
  rw [handle_eq, Events.handler]
  cases handlerOf? handlers f with
  | none => rfl
  | some c =>
    dsimp only
    rw [Run.between, Outcome.after_onMachine, Engine.next_block]
    refine Eq.trans (b := (Outcome.after
      (executeBlock e scope c.lines (catching m scope c.head f))).surface) rfl ?_
    refine (block h c.lines).after ?_
    unfold catching
    dsimp only
    split <;> rfl

theorem attempt (c : Compound) :
    Matches (Statement.guarded e.next scope c) (.attempt e scope t c) := by
  rw [guarded_eq, Events.attempt]
  refine (block h c.lines).rescue (fun flow => ?_) fun f => ?_
  · cases c.clause? "else" with
    | none => exact pure flow
    | some ls =>
      dsimp only
      split
      · exact block h ls
      · exact pure flow
  · split
    · exact fail f
    · exact handler h c.handlers f

theorem ending (c : Compound) (outcome : Except Failure Flow) :
    Matches (conclude e.next scope c outcome) (.ending e scope t c) := by
  have hlast (last : Flow) :
      Matches (if last.isNormal then Run.ofExcept outcome else return last : Run Flow) .none := by
    split
    · cases outcome with
      | ok flow => exact pure flow
      | error f => exact fail f
    · exact pure last
  unfold conclude Events.ending
  cases c.clause? "finally" with
  | none => exact hlast .normal
  | some ls =>
    dsimp only
    rw [← Events.rescue_none (e.next.block scope ls) (.block e scope t ls)]
    exact (block h ls).bind hlast

end Blocks

end Matches

/-- What can be noticed of a machine after a computation is what its events make of it. -/
theorem Traces.surface_eq {α : Type} {x : Run α} {t : Events} (h : Traces x t) (m : Machine) :
    (Outcome.after (x m)).surface = (m.replay (t m)).surface := by
  suffices hx : Matches x t from hx m
  induction h with
  | stored g h => exact .onStore g h
  | context => exact fun _ => rfl
  | newScope names => exact fun _ => rfl
  | bindName ref name v => exact fun _ => rfl
  | write text => exact .write text
  | readInput => exact .readInput
  | warn text => exact fun m => by rw [Run.warn_eq]; rfl
  | bind _ _ hx hf => exact .bind hx hf
  | guardCall _ hx => exact .guardCall hx
  | undoing _ b g h hx => exact .undoing hx b g h
  | call _ args keywords hbody => exact .call hbody args keywords
  | line _ h => exact .line h
  | block _ lines h => exact .block h lines
  | guarded _ c h => exact (Matches.attempt h c).rescue (fun _ => .ending h c _) fun _ => .ending h c _

/-! ## Every computation has a trace -/

/-- A level has traces of all that it offers, and above another level also of each statement. -/
structure Engine.Traced (n : Nat) : Prop where
  all : (Engine.level n).All fun x => ∃ t, Traces x t
  statement : ∀ k, n = k + 1 → ∀ scope l rest,
    ∃ t, Traces (executeKind (Engine.level k) scope l rest (classify l.text)) t

theorem Traces.store : Traces Run.store .none := .stored (fun s => (.ok s, s)) fun _ => rfl

theorem Traces.pure {α : Type} (a : α) : Traces (Pure.pure a) .none :=
  .stored (fun s => (.ok a, s)) fun _ => rfl

theorem Traces.throw {α : Type} (stop : Stop) : Traces (MonadExcept.throw stop : Run α) .none :=
  .stored (fun s => (.error stop, s)) fun _ => rfl

theorem Composed.exists_traces {R : Reach} {α : Type} {x : Engine → Run α} (hx : Composed R x)
    {n : Nat} (hn : Engine.Traced n) : ∃ t, Traces (x (Engine.level n)) t := by
  induction hx with
  | stored g h => exact ⟨_, .stored g h.scopes⟩
  | define f _ _ _ =>
    exact ⟨_, .bind .context fun c => .stored _ (Quiet.define (f c.lineNumber)).scopes⟩
  | raiseAgain => exact ⟨_, .bind .context fun c => .throw _⟩
  | setting => exact ⟨_, .bind .context fun c => .pure _⟩
  | newScope names => exact ⟨_, .newScope names⟩
  | inside names _ hf =>
    choose u hu using hf
    exact ⟨_, .bind (.newScope names) hu⟩
  | bindName ref _ name v => exact ⟨_, .bindName ref name v⟩
  | write text => exact ⟨_, .write text⟩
  | readInput => exact ⟨_, .readInput⟩
  | warn text => exact ⟨_, .warn text⟩
  | eval scope text h => exact hn.all.eval scope text
  | apply v args keywords h => exact hn.all.apply v args keywords
  | block scope _ lines h => exact hn.all.block scope lines
  | call ref args keywords =>
    have hfound (s : Store) : ∃ t, Traces (s.functions[ref]?.elim (return .none)
        fun f => callFunction (Engine.level n) f args keywords) t := by
      cases s.functions[ref]? with
      | none => exact ⟨_, .pure _⟩
      | some f =>
        choose t ht using fun scope => hn.all.block scope f.body
        exact ⟨_, .call ht args keywords⟩
    choose u hu using hfound
    simp only [callStored_eq]
    exact ⟨_, .bind .store hu⟩
  | bind _ _ hx hf =>
    obtain ⟨t, ht⟩ := hx
    choose u hu using hf
    exact ⟨_, .bind ht hu⟩
  | guardCall _ hx =>
    obtain ⟨t, ht⟩ := hx
    exact ⟨t, .guardCall ht⟩
  | undoing _ b g h _ hx =>
    obtain ⟨t, ht⟩ := hx
    exact ⟨t, .undoing ht b g h.scopes⟩
  | line scope line rest _ _ h =>
    obtain ⟨t, ht⟩ := h
    exact ⟨_, .line ht⟩
  | guarded scope _ c h =>
    cases n with
    | zero => exact ⟨_, .throw (.exhausted .evaluation)⟩
    | succ k =>
      choose t ht using hn.statement k rfl scope
      exact ⟨_, .guarded ht c⟩

theorem Engine.traced (n : Nat) : Engine.Traced n := by
  induction n with
  | zero =>
    have hstop {α : Type} : ∃ t, Traces (MonadExcept.throw (.exhausted .evaluation) : Run α) t :=
      ⟨_, .throw _⟩
    exact ⟨⟨fun _ _ => hstop, fun _ _ _ => hstop, fun _ _ => hstop⟩, fun k hk => by omega⟩
  | succ n ih =>
    have hkind (scope : Nat) (l : Line) (rest : List Line) :
        ∃ t, Traces (executeKind (Engine.level n) scope l rest (classify l.text)) t :=
      (Composed.executeKind scope ((Reach.lighter _).adding_scope scope) (fun _ => trivial) l rest
        (Reach.within_admits scope (l :: rest)) _).exists_traces ih
    refine ⟨⟨fun scope text => (Composed.evaluate scope text).exists_traces ih,
      fun v args keywords => (Composed.apply_calls v args keywords).exists_traces ih,
      fun scope lines => ?_⟩, fun k hk => ?_⟩
    · choose t ht using hkind scope
      exact ⟨_, .block ht lines⟩
    · obtain rfl : n = k := by omega
      exact hkind

/-! ## Programs -/

/-- The events of a program on a host: its scope is made, and its statements follow, of which each
has a trace. -/
def ProgramTraces (host : Host) (code : String) (t : Events) : Prop :=
  ∃ u : Nat → Line → List Line → Events,
    (∀ scope l rest,
      Traces (executeKind host.engine scope l rest (classify l.text)) (u scope l rest)) ∧
    ∀ m, t m = .opened [] ::
      Events.block host.engine m.store.scopes.size (u m.store.scopes.size)
        (splitLines code.toList) ((Event.opened []).on m)

theorem exists_programTraces (host : Host) (code : String) : ∃ t, ProgramTraces host code t := by
  choose u hu using (Engine.traced (host.levels + 1)).statement host.levels rfl
  exact ⟨_, u, hu, fun _ => rfl⟩

theorem ProgramTraces.surface_eq {host : Host} {code : String} {t : Events}
    (h : ProgramTraces host code t) (m : Machine) :
    (Outcome.after (program code host.engine m)).surface = (m.replay (t m)).surface := by
  obtain ⟨u, hu, ht⟩ := h
  rw [ht m, Machine.replay_cons]
  exact (Traces.block (hu m.store.scopes.size) _).surface_eq _

end SnippetGrader
