import SnippetGrader.Proofs.Isolation
import SnippetGrader.Proofs.Looping.Rounds

/-!
# Warnings and the limit of rounds

The executions of `while` statements in a run, and the warnings that come of them. `Loops x t` says
that `t` gives for each machine the passages of the computation `x` on it, in the order in which they
start. It has a rule for each part that computations are put together from, but none for a warning:
a `while` statement is entered by its own rule alone, which notes the passage, and nothing else
gives a warning. So the warnings of a run can be read off its passages (`Loops.passes`), and every
computation of the interpreter has passages (`Engine.loops`).
-/

namespace SnippetGrader

open Source Statement

/-! ## Passages of computations -/

/-- The passages of a computation on each machine. -/
abbrev Passages := Machine → List Passage

namespace Passages

variable {α : Type}

/-- No `while` statement is executed. -/
def none : Passages := fun _ => []

/-- The passages of `x` and of what follows its result or its failure. -/
def rescue (x : Run α) (t : Passages) (k : α → Passages) (h : Failure → Passages) : Passages :=
  fun m =>
    t m ++ match x m with
      | .ok a m' => k a m'
      | .error (.failed f) m' => h f m'
      | .error (.exhausted _) _ => []

/-- The passages of a call, given those of the body in each scope. -/
def call (f : Function) (args : List Value) (keywords : Keywords) (t : Nat → Passages) : Passages :=
  fun m =>
    if (m.callDepth : Int) ≥ m.limits.maxCallDepth then []
    else
      match callScope f (m.store.scope f.scope) args keywords with
      | .error _ => []
      | .ok names => t m.store.scopes.size (m.entered names)

/-- The passages of a statement, given those that follow its start. -/
def line (l : Line) (t : Passages) : Passages := fun m =>
  match (m.charged l).refusal? with
  | some _ => []
  | .none => t (m.charged l)

/-- The passages of what follows a loop, given those of each block. -/
def otherwise (c : Compound) (u : List Line → Passages) : LoopEnd → Passages
  | .finished =>
    match c.clause? "else" with
    | some lines => u lines
    | .none => none
  | _ => none

/-- The passages of a `while` statement: its own, those inside its rounds and those of what follows
`else`. -/
def loop (e : Engine) (scope : Nat) (c : Compound) (t : Nat → Passages) (u : List Line → Passages) :
    Passages := fun m =>
  (watchLoop e scope c m).1 ::
    rescue (whileTrue e scope c.head c.lines m.limits.maxLoop.toNat) (t m.limits.maxLoop.toNat)
      (otherwise c u) (fun _ => none) m

/-- The passages of the statement on a line that starts with `while`; one that cannot be read is not
executed. -/
def whileLine (e : Engine) (scope : Nat) (l : Line) (rest : List Line)
    (t : Compound → Nat → Passages) (u : List Line → Passages) : Passages :=
  match compound "while" ["else"] ["else"] l rest with
  | .ok c => loop e scope c (t c) u
  | .error _ => none

end Passages

/-- The passages of a computation are given by `t`. -/
inductive Loops : {α : Type} → Run α → Passages → Prop
  | stored {α : Type} (g : Store → Except Stop α × Store) : Loops (Run.onStore g) .none
  | context : Loops Run.context .none
  | write (text : String) : Loops (Run.write text) .none
  | readInput : Loops Run.readInput .none
  | rescue {α β : Type} {x : Run α} {k : α → Run β} {h : Failure → Run β} {t : Passages}
      {u : α → Passages} {v : Failure → Passages} (hx : Loops x t) (hk : ∀ a, Loops (k a) (u a))
      (hh : ∀ f, Loops (h f) (v f)) : Loops (Run.rescue x k h) (.rescue x t u v)
  | guardCall {α : Type} {x : Run α} {t : Passages} (hx : Loops x t) : Loops (Run.guardCall x) t
  | undoing {α β : Type} {x : Run α} {t : Passages} (hx : Loops x t) (b : Store → β)
      (g : Store → Store) : Loops (Run.undoing x (Run.onStore fun s => (.ok (b s), g s))) t
  | call {e : Engine} {f : Function} {t : Nat → Passages}
      (hbody : ∀ scope, Loops (e.block scope f.body) (t scope)) (args : List Value)
      (keywords : Keywords) : Loops (callFunction e f args keywords) (.call f args keywords t)
  | caught {α : Type} {x : Run α} {t : Passages} (hx : Loops x t) (scope : Nat) (head : List Char)
      (f : Failure) : Loops (Run.between (fun m => catching m scope head f) x released)
        fun m => t (catching m scope head f)
  | line {e : Engine} {scope : Nat} {l : Line} {rest : List Line} {t : Passages}
      (hkind : classify l.text ≠ .whileLoop)
      (h : Loops (executeKind e scope l rest (classify l.text)) t) :
      Loops (executeLine e scope l rest) (.line l t)
  | whileLine {e : Engine} {scope : Nat} {l : Line} {rest : List Line}
      {t : Compound → Nat → Passages} {u : List Line → Passages}
      (hkind : classify l.text = .whileLoop)
      (hrounds : ∀ c fuel, Loops (whileTrue e scope c.head c.lines fuel) (t c fuel))
      (helse : ∀ lines, Loops (e.block scope lines) (u lines)) :
      Loops (executeLine e scope l rest) (.line l (.whileLine e scope l rest t u))

/-! ## What passages do to the machine -/

def withWarning (text : String) (warnings : List String) : List String :=
  if warnings.contains text then warnings else warnings ++ [text]

theorem withWarning_withWarning (text : String) (warnings : List String) :
    withWarning text (withWarning text warnings) = withWarning text warnings := by
  unfold withWarning
  by_cases h : warnings.contains text = true
  · rw [if_pos h, if_pos h]
  · rw [if_neg h, if_pos (by simp)]

theorem Machine.warnings_warned (m : Machine) (text : String) :
    (m.warned text).warnings = withWarning text m.warnings := rfl

/-- What two machines with some passages between them have to do with each other: the limits are the
same, the passages are within them, and there is one more warning if a passage exhausted its rounds. -/
structure Machine.Passes (m m' : Machine) (ps : List Passage) : Prop where
  limits : m'.limits = m.limits
  warnings : m'.warnings = if ∃ p ∈ ps, p.Exhausts m.limits.maxLoop then
    withWarning (limitWarning m.limits.maxLoop) m.warnings else m.warnings
  within : ∀ p ∈ ps, p.Within m.limits.maxLoop

namespace Machine.Passes

variable {m m' m'' : Machine} {ps qs : List Passage} {p : Passage}

theorem of_same (hlimits : m'.limits = m.limits) (hwarnings : m'.warnings = m.warnings) :
    m.Passes m' [] :=
  ⟨hlimits, by simpa using hwarnings, by simp⟩

theorem trans (h : m.Passes m' ps) (h' : m'.Passes m'' qs) : m.Passes m'' (ps ++ qs) := by
  have hwarnings := h'.warnings
  rw [h.limits] at hwarnings
  refine ⟨h'.limits.trans h.limits, ?_, fun p hp => ?_⟩
  · rw [hwarnings, h.warnings]
    simp only [List.mem_append, or_and_right, exists_or]
    by_cases hps : ∃ p ∈ ps, p.Exhausts m.limits.maxLoop
    · by_cases hqs : ∃ p ∈ qs, p.Exhausts m.limits.maxLoop
      · rw [if_pos hqs, if_pos hps, if_pos (.inl hps), withWarning_withWarning]
      · rw [if_neg hqs, if_pos hps, if_pos (.inl hps)]
    · by_cases hqs : ∃ p ∈ qs, p.Exhausts m.limits.maxLoop
      · rw [if_pos hqs, if_neg hps, if_pos (.inr hqs)]
      · rw [if_neg hqs, if_neg hps, if_neg (not_or.2 ⟨hps, hqs⟩)]
  · obtain hp | hp := List.mem_append.1 hp
    · exact h.within p hp
    · rw [← h.limits]
      exact h'.within p hp

/-- What comes after the passages changes neither limits nor warnings. -/
theorem then_same (h : m.Passes m' ps) (hlimits : m''.limits = m'.limits)
    (hwarnings : m''.warnings = m'.warnings) : m.Passes m'' ps := by
  have htrans := h.trans (of_same hlimits hwarnings)
  rwa [List.append_nil] at htrans

/-- What comes before the passages changes neither limits nor warnings. -/
theorem after_same (h : m'.Passes m'' ps) (hlimits : m'.limits = m.limits)
    (hwarnings : m'.warnings = m.warnings) : m.Passes m'' ps :=
  (of_same hlimits hwarnings).trans h

/-- A passage that does not exhaust its rounds gives no warning. -/
theorem cons (h : m.Passes m' ps) (hp : p.Within m.limits.maxLoop)
    (hexhausts : ¬ p.Exhausts m.limits.maxLoop) : m.Passes m' (p :: ps) := by
  refine ⟨h.limits, ?_, List.forall_mem_cons.2 ⟨hp, h.within⟩⟩
  rw [h.warnings]
  simp only [List.mem_cons, exists_eq_or_imp, hexhausts, false_or]

/-- A passage that exhausts its rounds gives a warning. -/
theorem cons_warned (h : m.Passes m' ps) (hp : p.Within m.limits.maxLoop)
    (hexhausts : p.Exhausts m.limits.maxLoop) :
    m.Passes (m'.warned (limitWarning m'.limits.maxLoop)) (p :: ps) := by
  refine ⟨h.limits, ?_, List.forall_mem_cons.2 ⟨hp, h.within⟩⟩
  have hsome : ∃ q ∈ p :: ps, q.Exhausts m.limits.maxLoop := ⟨p, List.mem_cons_self, hexhausts⟩
  rw [Machine.warnings_warned, h.limits, h.warnings, if_pos hsome]
  split
  · exact withWarning_withWarning _ _
  · rfl

end Machine.Passes

/-- What a computation does to limits and warnings is what its passages do. -/
def Accounts {α : Type} (x : Run α) (t : Passages) : Prop :=
  ∀ m : Machine, m.Passes (Outcome.after (x m)) (t m)

namespace Accounts

variable {α β : Type}

theorem onStore (g : Store → Except Stop α × Store) : Accounts (Run.onStore g) .none := by
  intro m
  unfold Run.onStore
  obtain ⟨r, s⟩ := g m.store
  cases r <;> exact .of_same rfl rfl

theorem write (text : String) : Accounts (Run.write text) .none := by
  intro m
  rw [Run.write_eq, Machine.printed_eq]
  split <;> exact .of_same rfl rfl

theorem readInput : Accounts Run.readInput .none := by
  intro m
  rw [Run.readInput_eq]
  split <;> exact .of_same rfl rfl

theorem rescue {x : Run α} {k : α → Run β} {h : Failure → Run β} {t : Passages}
    {u : α → Passages} {v : Failure → Passages} (hx : Accounts x t) (hk : ∀ a, Accounts (k a) (u a))
    (hh : ∀ f, Accounts (h f) (v f)) : Accounts (Run.rescue x k h) (.rescue x t u v) := by
  intro m
  have hm := hx m
  unfold Run.rescue Passages.rescue
  cases hr : x m with
  | ok a m' =>
    rw [hr] at hm
    exact hm.trans (hk a m')
  | error stop m' =>
    rw [hr] at hm
    cases stop with
    | failed f => exact hm.trans (hh f m')
    | exhausted n =>
      rw [List.append_nil]
      exact hm

theorem guardCall {x : Run α} {t : Passages} (hx : Accounts x t) : Accounts (Run.guardCall x) t := by
  intro m
  have hm := hx m
  rw [Run.guardCall_eq]
  cases hr : x m with
  | ok a m' => rwa [hr] at hm
  | error stop m' =>
    rw [hr] at hm
    cases stop <;> exact hm

theorem undoing {x : Run α} {t : Passages} (hx : Accounts x t) (b : Store → β)
    (g : Store → Store) :
    Accounts (Run.undoing x (Run.onStore fun s => (.ok (b s), g s))) t := by
  intro m
  have hm := hx m
  rw [Run.undoing_eq]
  cases hr : x m with
  | ok a m' => rwa [hr] at hm
  | error stop m' =>
    rw [hr] at hm
    exact hm.then_same rfl rfl

theorem call {e : Engine} {f : Function} {t : Nat → Passages}
    (hbody : ∀ scope, Accounts (e.block scope f.body) (t scope)) (args : List Value)
    (keywords : Keywords) : Accounts (callFunction e f args keywords) (.call f args keywords t) := by
  intro m
  rw [callFunction_eq, Passages.call]
  split
  · exact .of_same rfl rfl
  · cases callScope f (m.store.scope f.scope) args keywords with
    | error failure => exact .of_same rfl rfl
    | ok names =>
      have hm := (hbody m.store.scopes.size (m.entered names)).after_same (m := m) rfl rfl
      dsimp only
      rw [Run.bind_eq, Run.between]
      cases hr : e.block m.store.scopes.size f.body (m.entered names) with
      | ok flow m' =>
        rw [hr] at hm
        exact hm.then_same rfl rfl
      | error stop m' =>
        rw [hr] at hm
        exact hm.then_same rfl rfl

theorem caught {x : Run α} {t : Passages} (hx : Accounts x t) (scope : Nat) (head : List Char)
    (f : Failure) : Accounts (Run.between (fun m => catching m scope head f) x released)
      fun m => t (catching m scope head f) := by
  intro m
  rw [Run.between, Outcome.after_onMachine]
  have hm := (hx (catching m scope head f)).after_same (m := m) rfl rfl
  exact hm.then_same rfl rfl

theorem line {e : Engine} {scope : Nat} {l : Line} {rest : List Line} {t : Passages}
    (h : Accounts (executeKind e scope l rest (classify l.text)) t) :
    Accounts (executeLine e scope l rest) (.line l t) := by
  intro m
  rw [executeLine_eq, Outcome.after_onFailure, Passages.line]
  cases (m.charged l).refusal? with
  | some f => exact .of_same rfl rfl
  | none => exact (h (m.charged l)).after_same rfl rfl

section Loop

variable {e : Engine} {scope : Nat} {c : Compound} {t : Nat → Passages} {u : List Line → Passages}
  (helse : ∀ lines, Accounts (e.block scope lines) (u lines))
include helse

theorem otherwise {stop : LoopEnd} (hstop : stop ≠ .limited) :
    Accounts (afterLoop e scope (c.clause? "else") stop) (.otherwise c u stop) := by
  cases stop with
  | finished =>
    unfold afterLoop Passages.otherwise
    cases c.clause? "else" with
    | none => exact fun m => .of_same rfl rfl
    | some lines => exact helse lines
  | broke => exact fun m => .of_same rfl rfl
  | returned v => exact fun m => .of_same rfl rfl
  | limited => exact absurd rfl hstop

theorem loop (hrounds : ∀ fuel, Accounts (whileTrue e scope c.head c.lines fuel) (t fuel)) :
    Accounts (executeLoop e scope c) (.loop e scope c t u) := by
  intro m
  have hm := hrounds m.limits.maxLoop.toNat m
  have hwithin := passage_within e scope c m
  have hexhausts := passage_exhausts_iff e scope c m
  rw [roundsOf, ending_watchRounds] at hexhausts
  rw [executeLoop_eq, Passages.loop, Passages.rescue]
  cases hr : whileTrue e scope c.head c.lines m.limits.maxLoop.toNat m with
  | error stop m' =>
    rw [hr] at hm hexhausts
    have hnot : ¬ (watchLoop e scope c m).1.Exhausts m.limits.maxLoop := by simp [hexhausts]
    cases stop <;> exact (hm.trans (.of_same rfl rfl)).cons hwithin hnot
  | ok stop m' =>
    rw [hr] at hm hexhausts
    by_cases hstop : stop = .limited
    · subst hstop
      dsimp only
      rw [afterLoop_limited]
      exact (hm.trans (.of_same rfl rfl)).cons_warned hwithin (hexhausts.2 ⟨m', rfl⟩)
    · have hnot : ¬ (watchLoop e scope c m).1.Exhausts m.limits.maxLoop := by
        simp [hexhausts, hstop]
      exact (hm.trans (otherwise helse hstop m')).cons hwithin hnot

theorem whileLine {l : Line} {rest : List Line} {t : Compound → Nat → Passages}
    (hkind : classify l.text = .whileLoop)
    (hrounds : ∀ c fuel, Accounts (whileTrue e scope c.head c.lines fuel) (t c fuel)) :
    Accounts (executeLine e scope l rest) (.line l (.whileLine e scope l rest t u)) := by
  refine line ?_
  intro m
  rw [hkind]
  change m.Passes (Outcome.after (executeWhile e scope l rest m)) _
  rw [executeWhile_eq_bind, Passages.whileLine]
  cases compound "while" ["else"] ["else"] l rest with
  | error f => exact .of_same rfl rfl
  | ok c =>
    have hm := loop helse (hrounds c) m
    change m.Passes (Outcome.after ((executeLoop e scope c >>= fun flow => pure (c.used, flow)) m)) _
    rw [Run.bind_eq]
    cases hr : executeLoop e scope c m with
    | ok flow m' => rwa [hr] at hm
    | error stop m' => rwa [hr] at hm

end Loop

end Accounts

/-- **The warnings of a computation are those of its passages.** -/
theorem Loops.passes {α : Type} {x : Run α} {t : Passages} (h : Loops x t) (m : Machine) :
    m.Passes (Outcome.after (x m)) (t m) := by
  suffices hx : Accounts x t from hx m
  induction h with
  | stored g => exact .onStore g
  | context => exact fun m => .of_same rfl rfl
  | write text => exact .write text
  | readInput => exact .readInput
  | rescue _ _ _ hx hk hh => exact .rescue hx hk hh
  | guardCall _ hx => exact .guardCall hx
  | undoing _ b g hx => exact .undoing hx b g
  | call _ args keywords hbody => exact .call hbody args keywords
  | caught _ scope head f hx => exact .caught hx scope head f
  | line _ _ h => exact .line h
  | whileLine hkind _ _ hrounds helse => exact .whileLine helse hkind hrounds

/-! ## Every computation has passages -/

namespace Loops

variable {α β : Type}

theorem pure (a : α) : Loops (Pure.pure a) .none := .stored fun s => (.ok a, s)

theorem throw (stop : Stop) : Loops (MonadExcept.throw stop : Run α) .none :=
  .stored fun s => (.error stop, s)

theorem bind {x : Run α} {f : α → Run β} {t : Passages} {u : α → Passages} (hx : Loops x t)
    (hf : ∀ a, Loops (f a) (u a)) : Loops (x >>= f) (.rescue x t u fun _ => .none) := by
  rw [Run.bind_eq_rescue]
  exact .rescue hx hf fun f => .throw (.failed f)

end Loops

/-- A computation has passages. -/
def Looping {α : Type} (x : Run α) : Prop := ∃ t, Loops x t

namespace Looping

variable {α β : Type}

theorem pure (a : α) : Looping (Pure.pure a) := ⟨_, .pure a⟩

theorem fail (f : Failure) : Looping (Run.fail f : Run α) := ⟨_, .throw (.failed f)⟩

theorem onStore (g : Store → Except Stop α × Store) : Looping (Run.onStore g) := ⟨_, .stored g⟩

theorem newScope (names : Scope) : Looping (Run.newScope names) :=
  onStore fun s => (.ok s.scopes.size, { s with scopes := s.scopes.push names })

theorem bindName (ref : Nat) (name : String) (v : Value) : Looping (Run.bindName ref name v) :=
  onStore fun s => (.ok (), { s with scopes := s.scopes.modify ref fun sc => sc.set name v })

theorem newFunction (f : Function) : Looping (Expression.newFunction f) :=
  onStore fun s => (.ok (Value.function s.functions.size), { s with functions := s.functions.push f })

theorem rescue {x : Run α} {k : α → Run β} {h : Failure → Run β} (hx : Looping x)
    (hk : ∀ a, Looping (k a)) (hh : ∀ f, Looping (h f)) : Looping (Run.rescue x k h) := by
  obtain ⟨t, ht⟩ := hx
  choose u hu using hk
  choose v hv using hh
  exact ⟨_, .rescue ht hu hv⟩

theorem bind {x : Run α} {f : α → Run β} (hx : Looping x) (hf : ∀ a, Looping (f a)) :
    Looping (x >>= f) := by
  obtain ⟨t, ht⟩ := hx
  choose u hu using hf
  exact ⟨_, .bind ht hu⟩

section Blocks

variable {e : Engine} {scope : Nat} (hblock : ∀ lines, Looping (e.block scope lines))
include hblock

/-- A `while` statement, when the condition and the blocks have passages. -/
theorem whileLine {l : Line} {rest : List Line} (hkind : classify l.text = .whileLoop)
    (heval : ∀ text, Looping (e.eval scope text)) : Looping (executeLine e scope l rest) := by
  have hrounds (c : Compound) (fuel : Nat) :
      Looping (whileTrue e scope c.head c.lines fuel) := by
    induction fuel with
    | zero => exact .pure _
    | succ fuel ih =>
      refine .bind (heval c.head) fun v => .bind (.onStore fun s => (.ok (v.truthy s), s)) fun b => ?_
      split
      · refine .bind (hblock c.lines) fun flow => ?_
        cases flow with
        | normal => exact ih
        | continued => exact ih
        | broke => exact .pure _
        | returned v => exact .pure _
      · exact .pure _
  choose t ht using hrounds
  choose u hu using hblock
  exact ⟨_, .whileLine hkind ht hu⟩

theorem handle (handlers : List Clause) (f : Failure) :
    Looping (Statement.handle e scope handlers f) := by
  rw [handle_eq]
  cases handlerOf? handlers f with
  | none => exact .fail f
  | some h =>
    obtain ⟨t, ht⟩ := hblock h.lines
    exact ⟨_, .caught ht scope h.head f⟩

theorem guarded (c : Compound) : Looping (Statement.guarded e scope c) := by
  rw [guarded_eq]
  refine .rescue (hblock c.lines) (fun flow => ?_) fun f => ?_
  · cases c.clause? "else" with
    | none => exact .pure flow
    | some lines =>
      dsimp only
      split
      · exact hblock lines
      · exact .pure flow
  · split
    · exact .fail f
    · exact handle hblock c.handlers f

theorem conclude (c : Compound) (outcome : Except Failure Flow) :
    Looping (Statement.conclude e scope c outcome) := by
  have hlast (last : Flow) :
      Looping (if last.isNormal then Run.ofExcept outcome else return last : Run Flow) := by
    split
    · cases outcome with
      | ok flow => exact .pure flow
      | error f => exact .fail f
    · exact .pure last
  unfold Statement.conclude
  cases c.clause? "finally" with
  | none => exact hlast .normal
  | some lines => exact .bind (hblock lines) hlast

theorem executeGuarded (c : Compound) : Looping (Statement.executeGuarded e scope c) :=
  .rescue (guarded hblock c) (fun _ => conclude hblock c _) fun _ => conclude hblock c _

end Blocks

end Looping

/-- What is put together without warnings has passages above an engine that has them. -/
theorem Composed.looping {R : Reach} {α : Type} {x : Engine → Run α} (hx : Composed R x)
    (hR : ¬ R.warns) {e : Engine} (he : e.All Looping) : Looping (x e) := by
  induction hx with
  | stored g h => exact .onStore g
  | define f _ _ _ => exact .bind ⟨_, .context⟩ fun c => .newFunction _
  | raiseAgain => exact .bind ⟨_, .context⟩ fun c => .fail _
  | setting => exact .bind ⟨_, .context⟩ fun c => .pure _
  | newScope names => exact .newScope names
  | inside names _ hf => exact .bind (.newScope names) fun scope => hf scope hR
  | bindName ref _ name v => exact .bindName ref name v
  | write text => exact ⟨_, .write text⟩
  | readInput => exact ⟨_, .readInput⟩
  | warn text h => exact absurd h hR
  | eval scope text h => exact he.eval scope text
  | apply v args keywords h => exact he.apply v args keywords
  | block scope _ lines h => exact he.block scope lines
  | call ref args keywords =>
    dsimp only
    rw [callStored_eq]
    refine .bind (.onStore fun s => (.ok s, s)) fun s => ?_
    cases s.functions[ref]? with
    | none => exact .pure _
    | some f =>
      choose t ht using fun scope => he.block scope f.body
      exact ⟨_, .call ht args keywords⟩
  | bind _ _ hx hf => exact .bind (hx hR) fun a => hf a hR
  | guardCall _ hx =>
    obtain ⟨t, ht⟩ := hx hR
    exact ⟨t, .guardCall ht⟩
  | undoing _ b g h _ hx =>
    obtain ⟨t, ht⟩ := hx hR
    exact ⟨t, .undoing ht b g⟩
  | line scope line rest _ _ h =>
    by_cases hkind : classify line.text = .whileLoop
    · exact .whileLine (he.block scope) hkind (he.eval scope)
    · obtain ⟨t, ht⟩ := h hR
      exact ⟨_, .line hkind ht⟩
  | guarded scope _ c h => exact .executeGuarded (he.block scope) c

/-- Everything may be asked for, and no warning given. -/
def Reach.calm : Reach :=
  ⟨fun _ => True, fun _ _ => True, fun _ => True, fun _ => True, fun _ => True, False⟩

theorem Engine.All.executeLine {e : Engine} (he : e.All Looping) (scope : Nat) (l : Line)
    (rest : List Line) : Looping (Statement.executeLine e scope l rest) := by
  by_cases hkind : classify l.text = .whileLoop
  · exact .whileLine (he.block scope) hkind (he.eval scope)
  · have hother : Composed Reach.calm fun e =>
        Statement.executeKind e scope l rest (classify l.text) :=
      .executeOther scope trivial (fun _ => trivial) l rest
        ⟨fun _ _ => trivial, fun _ _ => trivial⟩ hkind
    obtain ⟨t, ht⟩ := hother.looping id he
    exact ⟨_, .line hkind ht⟩

theorem Engine.All.executeFrom {e : Engine} (he : e.All Looping) (scope skip : Nat)
    (lines : List Line) : Looping (Statement.executeFrom e scope skip lines) := by
  induction lines generalizing skip with
  | nil => exact .pure _
  | cons l rest ih =>
    unfold Statement.executeFrom
    split
    · exact ih _
    · refine .bind (he.executeLine scope l rest) fun p => ?_
      dsimp only
      split
      · exact ih _
      · exact .pure _

theorem Engine.looping (n : Nat) : (Engine.level n).All Looping := by
  induction n with
  | zero =>
    have hstop {α : Type} : Looping (MonadExcept.throw (.exhausted .evaluation) : Run α) :=
      ⟨_, .throw _⟩
    exact ⟨fun _ _ => hstop, fun _ _ _ => hstop, fun _ _ => hstop⟩
  | succ n ih =>
    exact ⟨fun scope text => (Composed.evaluate scope text).looping id ih,
      fun v args keywords => (Composed.apply_calls v args keywords).looping id ih,
      fun scope lines => ih.executeFrom scope 0 lines⟩

/-! ## Programs -/

/-- A loop that is ended in the last round that it may make gives no warning. -/
example : (run { maxLoop := 1 } (.text "") "while True: break").warnings = [] ∧
    (run { maxLoop := 1 } (.text "") "while True: continue").warnings =
      ["While iterations limited to 1"] := by decide +kernel

end SnippetGrader
