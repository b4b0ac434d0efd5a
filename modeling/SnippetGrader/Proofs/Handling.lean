import SnippetGrader.Proofs.Composition.Statement

/-!
# Calls and handlers that are running

A call of a function and the handler of a failure each put something on the machine for the time
that they run: the call counts towards the depth of calls, and the failure is put on the stack of
those that are being handled. Here it is shown that both are as they were when the computation ends,
in whatever way it ends, and what they are meanwhile.

`Visits x t` says that `t` gives for each machine the moments of the computation `x` on it. A moment
is a machine together with the calls and handlers that are running, which are kept track of apart
from the machine: a call stands for one frame around the moments of its body, and a handler for one
around those of its lines. Every moment then has a depth of as many calls as run, and a stack of the
failures whose handlers run, and a `raise` without an operand raises the innermost of these.
-/

namespace SnippetGrader

open Source Statement

/-! ## Moments -/

/-- What is running around a moment. -/
inductive Frame where
  | call
  | handler (f : Failure)

namespace Frame

def isCall : Frame → Bool
  | call => true
  | handler _ => false

def failure? : Frame → Option Failure
  | call => none
  | handler f => some f

end Frame

/-- A moment of a run: the machine, the frames around it, innermost first, and the statement that is
attempted next, if it is known. -/
structure Moment where
  machine : Machine
  frames : List Frame := []
  next : Option Line := none

namespace Moment

/-- The number of calls that are running. -/
def calls (k : Moment) : Nat := k.frames.countP Frame.isCall

/-- The failures whose handlers are running, innermost first. -/
def handled (k : Moment) : List Failure := k.frames.filterMap Frame.failure?

/-- The same moment with one more frame around the others. -/
def inside (frame : Frame) (k : Moment) : Moment := { k with frames := k.frames ++ [frame] }

theorem calls_inside (frame : Frame) (k : Moment) :
    (k.inside frame).calls = k.calls + [frame].countP Frame.isCall := List.countP_append

theorem handled_inside (frame : Frame) (k : Moment) :
    (k.inside frame).handled = k.handled ++ [frame].filterMap Frame.failure? :=
  List.filterMap_append

end Moment

/-- The moments of a computation on each machine. -/
abbrev Moments := Machine → List Moment

namespace Moments

variable {α : Type}

/-- The moments before and after a computation. -/
def around (x : Run α) : Moments := fun m => [{ machine := m }, { machine := Outcome.after (x m) }]

/-- The moments of `x` and of what follows its result or its failure. -/
def rescue (x : Run α) (t : Moments) (k : α → Moments) (h : Failure → Moments) : Moments := fun m =>
  t m ++ match x m with
    | .ok a m' => k a m'
    | .error (.failed f) m' => h f m'
    | .error (.exhausted _) _ => []

/-- No moments. -/
def none : Moments := fun _ => []

/-- The moments of a call, given those of the body in each scope. -/
def call (f : Function) (args : List Value) (keywords : Keywords) (t : Nat → Moments) : Moments :=
  fun m =>
    { machine := m } ::
      if (m.callDepth : Int) ≥ m.limits.maxCallDepth then []
      else
        match callScope f (m.store.scope f.scope) args keywords with
        | .error _ => []
        | .ok names =>
          ({ machine := m.entered names } :: t m.store.scopes.size (m.entered names)).map
            (.inside .call)

/-- The moments of a statement, given those that follow its start. -/
def line (line : Line) (t : Moments) : Moments := fun m =>
  { machine := m, next := some line } :: { machine := m.charged line } ::
    match (m.charged line).refusal? with
    | some _ => []
    | .none => t (m.charged line)

/-- The moments of the lines after the next `skip` ones, given those of each statement. -/
def lines (e : Engine) (scope : Nat) (t : Line → List Line → Moments) :
    (skip : Nat) → List Line → Moments
  | _, [] => none
  | skip, l :: rest =>
    if skip > 0 then lines e scope t (skip - 1) rest
    else rescue (executeLine e scope l rest) (line l (t l rest))
      (fun p => if p.2.isNormal then lines e scope t p.1 rest else none) fun _ => none

/-- The moments of a block. -/
def block (e : Engine) (scope : Nat) (t : Line → List Line → Moments) : List Line → Moments :=
  lines e scope t 0

def handler (e : Engine) (scope : Nat) (t : Line → List Line → Moments) (handlers : List Clause)
    (f : Failure) : Moments := fun m =>
  match handlerOf? handlers f with
  | .none => []
  | some h =>
    let caught := catching m scope h.head f
    ({ machine := caught } :: block e scope t h.lines caught).map (.inside (.handler f))

/-- The moments of the body of `try` and of what follows `except` or `else`. -/
def attempt (e : Engine) (scope : Nat) (t : Line → List Line → Moments) (c : Compound) : Moments :=
  rescue (executeBlock e scope c.lines) (block e scope t c.lines)
    (fun flow => match c.clause? "else" with
      | some lines => if flow.isNormal then block e scope t lines else none
      | .none => none)
    fun f => if c.handlers.isEmpty || isFatal f then none else handler e scope t c.handlers f

/-- The moments of what follows `finally`. -/
def ending (e : Engine) (scope : Nat) (t : Line → List Line → Moments) (c : Compound) : Moments :=
  match c.clause? "finally" with
  | some lines => block e scope t lines
  | .none => none

end Moments

/-- The parts of computations in which nothing else runs. -/
inductive Primitive : {α : Type} → Run α → Prop
  | stored {α : Type} (g : Store → Except Stop α × Store) : Primitive (Run.onStore g)
  | context : Primitive Run.context
  | newScope (names : Scope) : Primitive (Run.newScope names)
  | bindName (ref : Nat) (name : String) (v : Value) : Primitive (Run.bindName ref name v)
  | write (text : String) : Primitive (Run.write text)
  | readInput : Primitive Run.readInput
  | warn (text : String) : Primitive (Statement.warn text)

theorem Primitive.pure {α : Type} (a : α) : Primitive (Pure.pure a) := .stored fun s => (.ok a, s)

theorem Primitive.throw {α : Type} (stop : Stop) :
    Primitive (MonadExcept.throw stop : Run α) := .stored fun s => (.error stop, s)

/-- The moments of a computation are given by `t`. -/
inductive Visits : {α : Type} → Run α → Moments → Prop
  | primitive {α : Type} {x : Run α} (h : Primitive x) : Visits x (.around x)
  | bind {α β : Type} {x : Run α} {f : α → Run β} {t : Moments} {u : α → Moments} (hx : Visits x t)
      (hf : ∀ a, Visits (f a) (u a)) : Visits (x >>= f) (.rescue x t u fun _ => .none)
  | guardCall {α : Type} {x : Run α} {t : Moments} (hx : Visits x t) : Visits (Run.guardCall x) t
  | undoing {α β : Type} {x : Run α} {t : Moments} (hx : Visits x t) (b : Store → β)
      (g : Store → Store) : Visits (Run.undoing x (Run.onStore fun s => (.ok (b s), g s))) t
  | call {e : Engine} {f : Function} {t : Nat → Moments}
      (hbody : ∀ scope, Visits (e.block scope f.body) (t scope)) (args : List Value)
      (keywords : Keywords) : Visits (callFunction e f args keywords) (.call f args keywords t)
  | line {e : Engine} {scope : Nat} {l : Line} {rest : List Line} {t : Moments}
      (h : Visits (executeKind e scope l rest (classify l.text)) t) :
      Visits (executeLine e scope l rest) (.line l t)
  | block {e : Engine} {scope : Nat} {t : Line → List Line → Moments}
      (h : ∀ l rest, Visits (executeKind e scope l rest (classify l.text)) (t l rest))
      (lines : List Line) : Visits (executeBlock e scope lines) (.block e scope t lines)
  | guarded {e : Engine} {scope : Nat} {t : Line → List Line → Moments}
      (h : ∀ l rest, Visits (executeKind e scope l rest (classify l.text)) (t l rest))
      (c : Compound) :
      Visits (executeGuarded e.next scope c)
        (.rescue (Statement.guarded e.next scope c) (.attempt e scope t c)
          (fun _ => .ending e scope t c) fun _ => .ending e scope t c)

/-! ## What a computation leaves as it was -/

/-- The limits, the depth of calls and the failures that are being handled are the same. -/
structure Machine.SameFrames (m m' : Machine) : Prop where
  limits : m'.limits = m.limits
  depth : m'.callDepth = m.callDepth
  handling : m'.handling = m.handling

namespace Machine.SameFrames

variable {m m' m'' : Machine}

theorem refl (m : Machine) : m.SameFrames m := ⟨rfl, rfl, rfl⟩

theorem trans (h : m.SameFrames m') (h' : m'.SameFrames m'') : m.SameFrames m'' :=
  ⟨h'.limits.trans h.limits, h'.depth.trans h.depth, h'.handling.trans h.handling⟩

end Machine.SameFrames

/-- However a computation ends, the depth of calls and the failures that are being handled are as
they were when it began. -/
def Balanced {α : Type} (x : Run α) : Prop := ∀ m : Machine, m.SameFrames (Outcome.after (x m))

theorem Primitive.balanced {α : Type} {x : Run α} (h : Primitive x) : Balanced x := by
  intro m
  cases h with
  | stored g =>
    unfold Run.onStore
    obtain ⟨r, s⟩ := g m.store
    cases r <;> exact ⟨rfl, rfl, rfl⟩
  | context => exact .refl m
  | newScope names => exact ⟨rfl, rfl, rfl⟩
  | bindName ref name v => exact ⟨rfl, rfl, rfl⟩
  | write text =>
    rw [Run.write_eq, Machine.printed_eq]
    split <;> exact ⟨rfl, rfl, rfl⟩
  | readInput =>
    rw [Run.readInput_eq]
    cases m.inputs <;> exact ⟨rfl, rfl, rfl⟩
  | warn text =>
    rw [Run.warn_eq, Outcome.after_ok, Machine.warned]
    split <;> exact ⟨rfl, rfl, rfl⟩

/-! ## What holds at every moment -/

/-- At a moment after the machine `m`, the depth of calls has grown by the calls that run and does
not pass the limit, and the failures whose handlers run are on the stack. Each of these has the line
on which it happened. -/
structure Moment.Follows (m : Machine) (k : Moment) : Prop where
  limits : k.machine.limits = m.limits
  depth : k.machine.callDepth = m.callDepth + k.calls
  bound : (k.machine.callDepth : Int) ≤ max (m.callDepth : Int) m.limits.maxCallDepth
  handling : k.machine.handling = k.handled ++ m.handling
  located : ∀ f ∈ k.handled, f.line.isSome

namespace Moment.Follows

variable {m m' : Machine} {k : Moment}

theorem of_same (h : m.SameFrames m') (next : Option Line) :
    Follows m { machine := m', next } where
  limits := h.limits
  depth := h.depth
  bound := by
    have hdepth : m'.callDepth = m.callDepth := h.depth
    dsimp only
    omega
  handling := h.handling
  located := nofun

theorem after (h : m.SameFrames m') (hk : Follows m' k) : Follows m k where
  limits := hk.limits.trans h.limits
  depth := by rw [hk.depth, h.depth]
  bound := by
    have hbound := hk.bound
    rwa [h.depth, h.limits] at hbound
  handling := by rw [hk.handling, h.handling]
  located := hk.located

/-- A moment of the body of a function, which is not called at the limit. -/
theorem call (names : Scope) (hm : (m.callDepth : Int) < m.limits.maxCallDepth)
    (hk : Follows (m.entered names) k) : Follows m (k.inside .call) where
  limits := hk.limits
  depth := by
    have hdepth : k.machine.callDepth = m.callDepth + 1 + k.calls := hk.depth
    have hcalls : (k.inside .call).calls = k.calls + 1 := calls_inside .call k
    have hmachine : (k.inside .call).machine = k.machine := rfl
    rw [hmachine, hdepth, hcalls]
    omega
  bound := by
    have hbound : (k.machine.callDepth : Int) ≤
      max ((m.callDepth + 1 : Nat) : Int) m.limits.maxCallDepth := hk.bound
    have hmachine : (k.inside .call).machine = k.machine := rfl
    rw [hmachine]
    omega
  handling := by
    have hhandled : (k.inside .call).handled = k.handled := by
      rw [handled_inside]
      exact List.append_nil _
    rw [hhandled]
    exact hk.handling
  located := by
    rw [handled_inside]
    simpa only [List.filterMap_cons, Frame.failure?, List.filterMap_nil, List.append_nil]
      using hk.located

theorem handler (scope : Nat) (head : List Char) {f : Failure} (hf : f.line.isSome)
    (hk : Follows (catching m scope head f) k) : Follows m (k.inside (.handler f)) where
  limits := hk.limits
  depth := by
    have hcalls : (k.inside (.handler f)).calls = k.calls := calls_inside (.handler f) k
    rw [hcalls]
    exact hk.depth
  bound := hk.bound
  handling := by
    have hhandled : (k.inside (.handler f)).handled = k.handled ++ [f] :=
      handled_inside (.handler f) k
    have hhandling : k.machine.handling = k.handled ++ (f :: m.handling) := hk.handling
    rw [hhandled, List.append_assoc]
    exact hhandling
  located := by
    have hhandled : (k.inside (.handler f)).handled = k.handled ++ [f] :=
      handled_inside (.handler f) k
    intro g hg
    rw [hhandled, List.mem_append, List.mem_singleton] at hg
    obtain hg | rfl := hg
    · exact hk.located g hg
    · exact hf

end Moment.Follows

/-- A computation leaves depth and stack as they were, and its moments follow the machine on which it
begins. -/
structure Sound {α : Type} (x : Run α) (t : Moments) : Prop where
  balanced : Balanced x
  follows : ∀ m, ∀ k ∈ t m, Moment.Follows m k

theorem isSome_line_locate (f : Failure) (line : Nat) (text : String) :
    (f.locate line text).line.isSome := by
  unfold Failure.locate
  split
  · assumption
  · rfl

theorem executeLine_located {e : Engine} {scope : Nat} {l : Line} {rest : List Line} {m m' : Machine}
    {f : Failure} (h : executeLine e scope l rest m = .error (.failed f) m') : f.line.isSome := by
  rw [executeLine_eq] at h
  unfold Outcome.onFailure at h
  split at h
  · cases h
    exact isSome_line_locate _ _ _
  · next hno => exact absurd h (hno f m')

theorem executeFrom_located {e : Engine} {scope skip : Nat} {lines : List Line} {m m' : Machine}
    {f : Failure} (h : executeFrom e scope skip lines m = .error (.failed f) m') :
    f.line.isSome := by
  -- only a line fails, and it notes itself on its failure
  induction lines generalizing skip m with
  | nil => cases h
  | cons l rest ih =>
    unfold executeFrom at h
    split at h
    · exact ih h
    · rw [Run.bind_eq] at h
      cases hline : executeLine e scope l rest m with
      | ok p m₁ =>
        rw [hline] at h
        dsimp only at h
        split at h
        · exact ih h
        · cases h
      | error stop m₁ =>
        rw [hline] at h
        cases h
        exact executeLine_located hline

namespace Sound

variable {α β : Type}

theorem around {x : Run α} (h : Balanced x) : Sound x (.around x) where
  balanced := h
  follows m k hk := by
    obtain rfl | hk := List.mem_cons.1 hk
    · exact .of_same (.refl m) none
    · obtain rfl := List.mem_singleton.1 hk
      exact .of_same (h m) none

theorem pure (a : α) : Sound (Pure.pure a) .none :=
  ⟨fun m => .refl m, fun _ _ hk => absurd hk List.not_mem_nil⟩

theorem fail (f : Failure) : Sound (Run.fail f : Run α) .none :=
  ⟨fun m => .refl m, fun _ _ hk => absurd hk List.not_mem_nil⟩

/-- What goes on after a failure has to be sound for the failures that there can be. -/
theorem rescue {x : Run α} {k : α → Run β} {h : Failure → Run β} {t : Moments} {tk : α → Moments}
    {th : Failure → Moments} (hx : Sound x t) (hk : ∀ a, Sound (k a) (tk a))
    (hh : ∀ f, (∃ m m', x m = .error (.failed f) m') → Sound (h f) (th f)) :
    Sound (Run.rescue x k h) (.rescue x t tk th) := by
  refine ⟨fun m => ?_, fun m q hq => ?_⟩
  · have hm := hx.balanced m
    unfold Run.rescue
    cases hr : x m with
    | ok a m' =>
      rw [hr] at hm
      exact hm.trans ((hk a).balanced m')
    | error stop m' =>
      rw [hr] at hm
      cases stop with
      | failed f => exact hm.trans ((hh f ⟨m, m', hr⟩).balanced m')
      | exhausted n => exact hm
  · -- what runs after `x` follows the machine that `x` leaves, whose frames are those of `m`
    have hm := hx.balanced m
    obtain hq | hq := List.mem_append.1 hq
    · exact hx.follows m q hq
    · cases hr : x m with
      | ok a m' =>
        rw [hr] at hm hq
        exact ((hk a).follows m' q hq).after hm
      | error stop m' =>
        rw [hr] at hm hq
        cases stop with
        | failed f => exact ((hh f ⟨m, m', hr⟩).follows m' q hq).after hm
        | exhausted n => cases hq

theorem bind {x : Run α} {f : α → Run β} {t : Moments} {u : α → Moments} (hx : Sound x t)
    (hf : ∀ a, Sound (f a) (u a)) : Sound (x >>= f) (.rescue x t u fun _ => .none) := by
  rw [Run.bind_eq_rescue]
  exact hx.rescue hf fun f _ => fail f

theorem guardCall {x : Run α} {t : Moments} (hx : Sound x t) : Sound (Run.guardCall x) t := by
  refine ⟨fun m => ?_, hx.follows⟩
  have hm := hx.balanced m
  rw [Run.guardCall_eq]
  cases hr : x m with
  | ok a m' => rwa [hr] at hm
  | error stop m' =>
    rw [hr] at hm
    cases stop <;> exact hm

theorem undoing {x : Run α} {t : Moments} (hx : Sound x t) (b : Store → β) (g : Store → Store) :
    Sound (Run.undoing x (Run.onStore fun s => (.ok (b s), g s))) t := by
  refine ⟨fun m => ?_, hx.follows⟩
  have hm := hx.balanced m
  rw [Run.undoing_eq]
  cases hr : x m with
  | ok a m' => rwa [hr] at hm
  | error stop m' =>
    rw [hr] at hm
    exact ⟨hm.limits, hm.depth, hm.handling⟩

/-- A computation that runs on a machine in a frame, which is taken off again. -/
theorem between {x : Run α} {g g' : Machine → Machine}
    (hx : Balanced x) (hg : ∀ m m', (g m).SameFrames m' → m.SameFrames (g' m')) :
    Balanced (Run.between g x g') := by
  intro m
  rw [Run.between, Outcome.after_onMachine]
  exact hg m _ (hx (g m))

theorem call {e : Engine} {f : Function} {t : Nat → Moments}
    (hbody : ∀ scope, Sound (e.block scope f.body) (t scope)) (args : List Value)
    (keywords : Keywords) : Sound (callFunction e f args keywords) (.call f args keywords t) := by
  have hleft (names : Scope) (m m' : Machine) (h : (m.entered names).SameFrames m') :
      m.SameFrames m'.left := by
    have hdepth : m'.callDepth = m.callDepth + 1 := h.depth
    refine ⟨h.limits, ?_, h.handling⟩
    rw [Machine.left, hdepth, Nat.add_sub_cancel]
  refine ⟨fun m => ?_, fun m k hk => ?_⟩
  · rw [callFunction_eq]
    split
    · exact .refl m
    · cases callScope f (m.store.scope f.scope) args keywords with
      | error failure => exact .refl m
      | ok names =>
        dsimp only
        -- the frame of the call is taken off whichever way its body ends
        have hbalanced := (between (hbody m.store.scopes.size).balanced (hleft names)) m
        rw [Run.bind_eq]
        cases hr : Run.between (·.entered names) (e.block m.store.scopes.size f.body)
            Machine.left m <;> (rw [hr] at hbalanced; exact hbalanced)
  · obtain rfl | hk := List.mem_cons.1 hk
    · exact .of_same (.refl m) none
    · split at hk
      · cases hk
      · next hdepth =>
        cases hnames : callScope f (m.store.scope f.scope) args keywords with
        | error failure =>
          rw [hnames] at hk
          cases hk
        | ok names =>
          rw [hnames] at hk
          obtain ⟨k', hk', rfl⟩ := List.mem_map.1 hk
          refine .call names (Int.not_le.1 hdepth) ?_
          obtain rfl | hk' := List.mem_cons.1 hk'
          · exact .of_same (.refl _) none
          · exact (hbody _).follows _ k' hk'

theorem line {e : Engine} {scope : Nat} {l : Line} {rest : List Line} {t : Moments}
    (h : Sound (executeKind e scope l rest (classify l.text)) t) :
    Sound (executeLine e scope l rest) (.line l t) := by
  have hcharged (m : Machine) : m.SameFrames (m.charged l) := ⟨rfl, rfl, rfl⟩
  refine ⟨fun m => ?_, fun m k hk => ?_⟩
  · rw [executeLine_eq, Outcome.after_onFailure]
    split
    · exact hcharged m
    · exact (hcharged m).trans (h.balanced (m.charged l))
  · obtain rfl | hk := List.mem_cons.1 hk
    · exact .of_same (.refl m) (some l)
    · obtain rfl | hk := List.mem_cons.1 hk
      · exact .of_same (hcharged m) none
      · split at hk
        · cases hk
        · exact (h.follows (m.charged l) k hk).after (hcharged m)

section Blocks

variable {e : Engine} {scope : Nat} {t : Line → List Line → Moments}
  (h : ∀ l rest, Sound (executeKind e scope l rest (classify l.text)) (t l rest))
include h

theorem lines (skip : Nat) (ls : List Line) :
    Sound (executeFrom e scope skip ls) (.lines e scope t skip ls) := by
  induction ls generalizing skip with
  | nil => exact pure _
  | cons l rest ih =>
    unfold executeFrom Moments.lines
    split
    · exact ih (skip - 1)
    · refine (line (h l rest)).bind fun result => ?_
      obtain ⟨used, flow⟩ := result
      dsimp only
      split
      · exact ih used
      · exact pure flow

theorem block (ls : List Line) : Sound (executeBlock e scope ls) (.block e scope t ls) :=
  lines h 0 ls

theorem handler (handlers : List Clause) {f : Failure} (hf : f.line.isSome) :
    Sound (handle e.next scope handlers f) (.handler e scope t handlers f) := by
  rw [handle_eq]
  unfold Moments.handler
  cases handlerOf? handlers f with
  | none => exact fail f
  | some c =>
    have hblock := block h c.lines
    refine ⟨between hblock.balanced fun m m' hm => ?_, fun m k hk => ?_⟩
    · have hhandling : m'.handling = f :: m.handling := hm.handling
      refine ⟨hm.limits, hm.depth, ?_⟩
      rw [released, hhandling, List.tail_cons]
    · obtain ⟨k', hk', rfl⟩ := List.mem_map.1 hk
      refine .handler scope c.head hf ?_
      obtain rfl | hk' := List.mem_cons.1 hk'
      · exact .of_same (.refl _) none
      · exact hblock.follows _ k' hk'

theorem attempt (c : Compound) :
    Sound (Statement.guarded e.next scope c) (.attempt e scope t c) := by
  rw [guarded_eq, Moments.attempt]
  refine (block h c.lines).rescue (fun flow => ?_) fun f hf => ?_
  · cases c.clause? "else" with
    | none => exact pure flow
    | some ls =>
      dsimp only
      split
      · exact block h ls
      · exact pure flow
  · obtain ⟨m, m', hm⟩ := hf
    split
    · exact fail f
    · exact handler h c.handlers (executeFrom_located hm)

theorem ending (c : Compound) (outcome : Except Failure Flow) :
    Sound (conclude e.next scope c outcome) (.ending e scope t c) := by
  have hlast (last : Flow) :
      Sound (if last.isNormal then Run.ofExcept outcome else return last : Run Flow) .none := by
    split
    · cases outcome with
      | ok flow => exact pure flow
      | error f => exact fail f
    · exact pure last
  unfold conclude Moments.ending
  cases c.clause? "finally" with
  | none => exact hlast .normal
  | some ls =>
    have hblock := (block h ls).bind hlast
    refine ⟨hblock.balanced, fun m k hk => hblock.follows m k (List.mem_append_left _ hk)⟩

end Blocks

end Sound

theorem Visits.sound {α : Type} {x : Run α} {t : Moments} (h : Visits x t) : Sound x t := by
  induction h with
  | primitive h => exact .around h.balanced
  | bind _ _ hx hf => exact .bind hx hf
  | guardCall _ hx => exact .guardCall hx
  | undoing _ b g hx => exact .undoing hx b g
  | call _ args keywords hbody => exact .call hbody args keywords
  | line _ h => exact .line h
  | block _ lines h => exact .block h lines
  | guarded _ c h => exact (Sound.attempt h c).rescue (fun _ => .ending h c _) fun _ _ => .ending h c _

/-! ## Every computation has its moments -/

/-- A level has the moments of all that it offers, and above another level also of each statement. -/
structure Engine.Visited (n : Nat) : Prop where
  all : (Engine.level n).All fun x => ∃ t, Visits x t
  statement : ∀ k, n = k + 1 → ∀ scope l rest,
    ∃ t, Visits (executeKind (Engine.level k) scope l rest (classify l.text)) t

theorem Composed.exists_visits {R : Reach} {α : Type} {x : Engine → Run α} (hx : Composed R x)
    {n : Nat} (hn : Engine.Visited n) : ∃ t, Visits (x (Engine.level n)) t := by
  induction hx with
  | stored g h => exact ⟨_, .primitive (.stored g)⟩
  | define f _ _ _ =>
    exact ⟨_, .bind (.primitive .context) fun c =>
      .primitive (.stored (Store.define (f c.lineNumber)))⟩
  | raiseAgain => exact ⟨_, .bind (.primitive .context) fun c => .primitive (.throw _)⟩
  | setting => exact ⟨_, .bind (.primitive .context) fun c => .primitive (.pure _)⟩
  | newScope names => exact ⟨_, .primitive (.newScope names)⟩
  | inside names _ hf =>
    choose u hu using hf
    exact ⟨_, .bind (.primitive (.newScope names)) hu⟩
  | bindName ref _ name v => exact ⟨_, .primitive (.bindName ref name v)⟩
  | write text => exact ⟨_, .primitive (.write text)⟩
  | readInput => exact ⟨_, .primitive .readInput⟩
  | warn text => exact ⟨_, .primitive (.warn text)⟩
  | eval scope text h => exact hn.all.eval scope text
  | apply v args keywords h => exact hn.all.apply v args keywords
  | block scope _ lines h => exact hn.all.block scope lines
  | call ref args keywords =>
    have hfound (s : Store) : ∃ t, Visits (s.functions[ref]?.elim (return .none)
        fun f => callFunction (Engine.level n) f args keywords) t := by
      cases s.functions[ref]? with
      | none => exact ⟨_, .primitive (.pure _)⟩
      | some f =>
        choose t ht using fun scope => hn.all.block scope f.body
        exact ⟨_, .call ht args keywords⟩
    choose u hu using hfound
    simp only [callStored_eq]
    exact ⟨_, .bind (.primitive (.stored fun s => (.ok s, s))) hu⟩
  | bind _ _ hx hf =>
    obtain ⟨t, ht⟩ := hx
    choose u hu using hf
    exact ⟨_, .bind ht hu⟩
  | guardCall _ hx =>
    obtain ⟨t, ht⟩ := hx
    exact ⟨t, .guardCall ht⟩
  | undoing _ b g _ _ hx =>
    obtain ⟨t, ht⟩ := hx
    exact ⟨t, .undoing ht b g⟩
  | line scope line rest _ _ h =>
    obtain ⟨t, ht⟩ := h
    exact ⟨_, .line ht⟩
  | guarded scope _ c h =>
    cases n with
    | zero =>
      -- the lowest level executes no statement: it only stops
      exact ⟨_, .primitive (.throw _)⟩
    | succ k =>
      choose t ht using hn.statement k rfl scope
      exact ⟨_, .guarded ht c⟩

/-- The moments of a program on a host: its scope is made, and its statements follow, of which each
has its own. -/
def ProgramVisits (host : Host) (code : String) (t : Moments) : Prop :=
  ∃ u : Nat → Line → List Line → Moments,
    (∀ scope l rest,
      Visits (executeKind host.engine scope l rest (classify l.text)) (u scope l rest)) ∧
    ∀ m, t m = { machine := m } ::
      Moments.block host.engine m.store.scopes.size (u m.store.scopes.size)
        (splitLines code.toList) (Outcome.after (Run.newScope [] m))

theorem ProgramVisits.follows {host : Host} {code : String} {t : Moments}
    (h : ProgramVisits host code t) (m : Machine) : ∀ k ∈ t m, Moment.Follows m k := by
  obtain ⟨u, hu, ht⟩ := h
  intro k hk
  rw [ht m] at hk
  obtain rfl | hk := List.mem_cons.1 hk
  · exact .of_same (.refl m) none
  · have hblock := (Visits.block (hu m.store.scopes.size) (splitLines code.toList)).sound
    have hopened : m.SameFrames (Outcome.after (Run.newScope [] m)) := ⟨rfl, rfl, rfl⟩
    exact (hblock.follows _ k hk).after hopened

end SnippetGrader
