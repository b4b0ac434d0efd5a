import SnippetGrader.Proofs.Course

/-!
# The limit of statements

A run starts no more statements than its limit allows. Once a further one is attempted, only
refusals follow: no handler is entered, the first statement after each `finally` is refused in its
turn, and the run ends with the failure of the limit.

The invariant is `Heeds`: on a machine that has not spent its statements, all events are within the
limit, and a computation that leaves the machine spent has failed with the failure of the limit.
-/

namespace SnippetGrader

open Source Statement

/-! ## Events within a limit -/

/-- Every event but a refusal happens while the limit is not passed, if `k` statements were
attempted before. -/
def InBudget (limit : Int) : (k : Nat) → List Event → Prop
  | _, [] => True
  | k, event :: events =>
    ((∃ line, event = .refused line) ∨ (k : Int) + event.attempts ≤ limit) ∧
      InBudget limit (k + event.attempts) events

namespace InBudget

variable {limit : Int} {k : Nat} {events events' : List Event}

theorem append_iff : InBudget limit k (events ++ events') ↔
    InBudget limit k events ∧ InBudget limit (k + (events.map Event.attempts).sum) events' := by
  induction events generalizing k with
  | nil => simp [InBudget]
  | cons event events ih =>
    simp only [List.cons_append, InBudget, ih, List.map_cons, List.sum_cons, Nat.add_assoc,
      and_assoc]

theorem of_no_attempt (hk : (k : Int) ≤ limit) (h : ∀ event ∈ events, event.attempts = 0) :
    InBudget limit k events := by
  induction events with
  | nil => trivial
  | cons event events ih =>
    have hzero := h event List.mem_cons_self
    rw [InBudget, hzero]
    exact ⟨.inr (by simpa using hk), ih fun e he => h e (List.mem_cons_of_mem _ he)⟩

end InBudget

/-! ## Computations that heed the limit -/

def StepLimited {α : Type} (r : Outcome α) : Prop :=
  ∃ f m, r = .error (.failed f) m ∧ f.kind = "StepLimitError"

/-- On this machine the events are within the limit, and the statements are spent afterwards only
if the limit ended the computation. -/
structure Goes {α : Type} (m : Machine) (r : Outcome α) (events : List Event) : Prop where
  budget : InBudget m.limits.maxSteps m.steps events
  ends : (Outcome.after r).Spent → StepLimited r

/-- A computation heeds the limit on each machine that has statements left. -/
def Heeds {α : Type} (x : Run α) (t : Events) : Prop := ∀ m : Machine, ¬ m.Spent → Goes m (x m) (t m)

namespace Goes

variable {α β : Type} {m m' : Machine} {events events' : List Event}

theorem limits_of_surface (h : m'.surface = (m.replay events).surface) : m'.limits = m.limits :=
  (congrArg (·.limits) h).trans (m.limits_replay events)

theorem steps_of_surface (h : m'.surface = (m.replay events).surface) :
    m'.steps = m.steps + (events.map Event.attempts).sum :=
  (congrArg (·.steps) h).trans (m.steps_replay events)

/-- What follows on a changed machine. -/
theorem after {r : Outcome β} (hb : InBudget m.limits.maxSteps m.steps events)
    (hfit : m'.surface = (m.replay events).surface) (h : Goes m' r events') :
    Goes m r (events ++ events') := by
  refine ⟨InBudget.append_iff.2 ⟨hb, ?_⟩, h.ends⟩
  rw [← limits_of_surface hfit, ← steps_of_surface hfit]
  exact h.budget

/-- A computation that attempts no statement. -/
theorem idle {r : Outcome α} (hm : ¬ m.Spent)
    (hfit : (Outcome.after r).surface = (m.replay events).surface)
    (hzero : ∀ event ∈ events, event.attempts = 0) : Goes m r events := by
  have hsteps : (Outcome.after r).steps = m.steps := by
    have hsum : (events.map Event.attempts).sum = 0 := by
      rw [List.sum_eq_zero_iff_forall_eq_nat]
      intro n hn
      obtain ⟨event, hmem, rfl⟩ := List.mem_map.1 hn
      exact hzero event hmem
    rw [steps_of_surface hfit, hsum, Nat.add_zero]
  refine ⟨.of_no_attempt (Int.not_lt.1 hm) hzero, fun hspent => absurd ?_ hm⟩
  unfold Machine.Spent at *
  rwa [limits_of_surface hfit, hsteps] at hspent

theorem passed_on {f : Failure} (hkind : f.kind = "StepLimitError") :
    Goes m (.error (.failed f) m' : Outcome α) [] :=
  ⟨trivial, fun _ => ⟨f, m', rfl, hkind⟩⟩

/-- The result is changed and nothing else. -/
theorem map {x : Run α} (h : Goes m (x m) events) (g : α → β) :
    Goes m ((x >>= fun a => pure (g a)) m) events := by
  obtain ⟨hbudget, hends⟩ := h
  refine ⟨hbudget, ?_⟩
  rw [Run.bind_eq]
  cases hr : x m with
  | ok a m' =>
    rw [hr] at hends
    intro hspent
    obtain ⟨f, _, hstop, -⟩ := hends hspent
    cases hstop
  | error stop m' =>
    rw [hr] at hends
    intro hspent
    obtain ⟨f, m'', hstop, hkind⟩ := hends hspent
    cases hstop
    exact ⟨f, m', rfl, hkind⟩

end Goes

namespace Heeds

variable {α β : Type}

theorem pure (a : α) : Heeds (Pure.pure a) .none :=
  fun _ hm => .idle hm rfl fun _ h => absurd h List.not_mem_nil

theorem fail (f : Failure) : Heeds (Run.fail f : Run α) .none :=
  fun _ hm => .idle hm rfl fun _ h => absurd h List.not_mem_nil

/-- Going on after a failure, provided that the failure of the limit is passed on. -/
theorem rescue {x : Run α} {k : α → Run β} {h : Failure → Run β} {t : Events} {tk : α → Events}
    {th : Failure → Events} (hfit : Matches x t) (hx : Heeds x t) (hk : ∀ a, Heeds (k a) (tk a))
    (hh : ∀ f, Heeds (h f) (th f))
    (hend : ∀ f (m : Machine), f.kind = "StepLimitError" → m.Spent → Goes m (h f m) (th f m)) :
    Heeds (Run.rescue x k h) (.rescue x t tk th) := by
  intro m hm
  have hsurface := hfit m
  obtain ⟨hbudget, hends⟩ := hx m hm
  unfold Run.rescue Events.rescue
  cases hr : x m with
  | ok a m' =>
    rw [hr] at hsurface hends
    have hm' : ¬ m'.Spent := fun hspent => by
      obtain ⟨f, _, hstop, -⟩ := hends hspent
      cases hstop
    exact .after hbudget hsurface (hk a m' hm')
  | error stop m' =>
    rw [hr] at hsurface hends
    cases stop with
    | failed f =>
      refine .after hbudget hsurface ?_
      by_cases hspent : m'.Spent
      · obtain ⟨f', _, hstop, hkind⟩ := hends hspent
        cases hstop
        exact hend f m' hkind hspent
      · exact hh f m' hspent
    | exhausted n =>
      refine .after hbudget hsurface ⟨trivial, fun hspent => ?_⟩
      obtain ⟨f, _, hstop, -⟩ := hends hspent
      cases hstop

theorem bind {x : Run α} {f : α → Run β} {t : Events} {u : α → Events} (hfit : Matches x t)
    (hx : Heeds x t) (hf : ∀ a, Heeds (f a) (u a)) :
    Heeds (x >>= f) (.rescue x t u fun _ => .none) := by
  rw [Run.bind_eq_rescue]
  exact rescue hfit hx hf fail fun f m hkind _ => .passed_on hkind

theorem guardCall {x : Run α} {t : Events} (hx : Heeds x t) : Heeds (Run.guardCall x) t := by
  intro m hm
  obtain ⟨hbudget, hends⟩ := hx m hm
  refine ⟨hbudget, ?_⟩
  rw [Run.guardCall_eq]
  cases hr : x m with
  | ok a m' => rwa [hr] at hends
  | error stop m' =>
    rw [hr] at hends
    cases stop with
    | failed f => exact hends
    | exhausted n =>
      intro hspent
      obtain ⟨f, _, hstop, -⟩ := hends hspent
      cases hstop

theorem undoing {x : Run α} {t : Events} (hx : Heeds x t) (b : Store → β) (g : Store → Store) :
    Heeds (Run.undoing x (Run.onStore fun s => (.ok (b s), g s))) t := by
  intro m hm
  obtain ⟨hbudget, hends⟩ := hx m hm
  refine ⟨hbudget, ?_⟩
  rw [Run.undoing_eq]
  cases hr : x m with
  | ok a m' => rwa [hr] at hends
  | error stop m' =>
    rw [hr] at hends
    intro hspent
    obtain ⟨f, _, hstop, hkind⟩ := hends hspent
    cases hstop
    exact ⟨f, _, rfl, hkind⟩

/-- Changes around a computation that cannot be noticed after it. -/
theorem between {x : Run α} {t : Events} (hx : Heeds x t) {g g' : Machine → Machine}
    {events : Events} (hidle : ∀ m, ∀ event ∈ events m, event.attempts = 0)
    (hg : ∀ m, (g m).surface = (m.replay (events m)).surface)
    (hg' : ∀ m, (g' m).surface = m.surface) :
    Heeds (Run.between g x g') fun m => events m ++ t (g m) := by
  intro m hm
  have hfirst : Goes m (.ok () (g m) : Outcome Unit) (events m) := .idle hm (hg m) (hidle m)
  have hgm : ¬ (g m).Spent := fun hspent => by
    obtain ⟨f, _, hstop, -⟩ := hfirst.ends hspent
    cases hstop
  obtain ⟨hbudget, hends⟩ := hx (g m) hgm
  refine .after hfirst.budget (hg m) ⟨hbudget, fun hspent => ?_⟩
  have hsame (m : Machine) : (g' m).Spent → m.Spent := by
    intro h
    have hlimits : (g' m).limits = m.limits := congrArg (·.limits) (hg' m)
    have hsteps : (g' m).steps = m.steps := congrArg (·.steps) (hg' m)
    unfold Machine.Spent at *
    rwa [hlimits, hsteps] at h
  rw [Run.between, Outcome.after_onMachine] at hspent
  obtain ⟨f, m', hstop, hkind⟩ := hends (hsame _ hspent)
  exact ⟨f, g' m', by rw [Run.between, hstop]; rfl, hkind⟩

theorem call {e : Engine} {f : Function} {t : Nat → Events}
    (hbody : ∀ scope, Heeds (e.block scope f.body) (t scope)) (args : List Value)
    (keywords : Keywords) : Heeds (callFunction e f args keywords) (.call f args keywords t) := by
  intro m hm
  rw [callFunction_eq, Events.call]
  split
  · exact fail _ m hm
  · cases callScope f (m.store.scope f.scope) args keywords with
    | error failure => exact fail failure m hm
    | ok names =>
      have hopened : ∀ event ∈ [Event.opened names], event.attempts = 0 := by
        intro event hevent
        rw [List.mem_singleton.1 hevent]
        rfl
      have hinside : Heeds
          (Run.between (·.entered names) (e.block m.store.scopes.size f.body) Machine.left)
          fun m' => [.opened names] ++ t m.store.scopes.size (m'.entered names) :=
        (hbody m.store.scopes.size).between (fun _ => hopened) (fun _ => rfl) fun _ => rfl
      exact (hinside m hm).map Flow.result

theorem line {e : Engine} {scope : Nat} {l : Line} {rest : List Line} {t : Events}
    (h : Heeds (executeKind e scope l rest (classify l.text)) t) :
    Heeds (executeLine e scope l rest) (.line l t) := by
  intro m hm
  rw [executeLine_eq, Events.line]
  by_cases hspent : (m.charged l).Spent
  · rw [Machine.refusal?, if_pos hspent]
    exact ⟨⟨.inl ⟨l, rfl⟩, trivial⟩, fun _ => ⟨_, _, rfl, Failure.kind_locate _ _ _⟩⟩
  · cases hrefusal : (m.charged l).refusal? with
    | some f =>
      exact ⟨⟨.inl ⟨l, rfl⟩, trivial⟩, fun h => absurd h hspent⟩
    | none =>
      obtain ⟨hbudget, hends⟩ := h (m.charged l) hspent
      refine ⟨⟨.inr (Int.not_lt.1 hspent), hbudget⟩, ?_⟩
      rw [Outcome.after_onFailure]
      intro hafter
      obtain ⟨f, m', hstop, hkind⟩ := hends hafter
      refine ⟨f.locate l.number (String.ofList l.text), m', ?_, ?_⟩
      · rw [hstop]
        rfl
      · rw [Failure.kind_locate, hkind]

section Blocks

variable {e : Engine} {scope : Nat} {t : Line → List Line → Events}
  (hfit : ∀ l rest, Matches (executeKind e scope l rest (classify l.text)) (t l rest))
  (h : ∀ l rest, Heeds (executeKind e scope l rest (classify l.text)) (t l rest))
include hfit h

theorem lines (skip : Nat) (ls : List Line) :
    Heeds (executeFrom e scope skip ls) (.lines e scope t skip ls) := by
  induction ls generalizing skip with
  | nil => exact pure _
  | cons l rest ih =>
    unfold executeFrom Events.lines
    split
    · exact ih (skip - 1)
    · refine bind (.line (hfit l rest)) (line (h l rest)) fun result => ?_
      obtain ⟨used, flow⟩ := result
      dsimp only
      split
      · exact ih used
      · exact pure flow

theorem block (ls : List Line) : Heeds (executeBlock e scope ls) (.block e scope t ls) :=
  lines hfit h 0 ls

theorem handler (handlers : List Clause) (f : Failure) :
    Heeds (handle e.next scope handlers f) (.handler e scope t handlers f) := by
  rw [handle_eq]
  unfold Events.handler
  cases handlerOf? handlers f with
  | none => exact fail f
  | some c =>
    refine (block hfit h c.lines).between (fun m event hevent => ?_) (fun m => ?_) fun _ => rfl
    · split at hevent
      · cases hevent
      · rw [List.mem_singleton.1 hevent]
        rfl
    · unfold catching
      dsimp only
      split <;> rfl

theorem attempt (c : Compound) :
    Heeds (Statement.guarded e.next scope c) (.attempt e scope t c) := by
  rw [guarded_eq, Events.attempt]
  refine rescue (.block hfit c.lines) (block hfit h c.lines) (fun flow => ?_) (fun f => ?_)
    fun f m hkind _ => ?_
  · cases c.clause? "else" with
    | none => exact pure flow
    | some ls =>
      dsimp only
      split
      · exact block hfit h ls
      · exact pure flow
  · split
    · exact fail f
    · exact handler hfit h c.handlers f
  · -- no handler is entered with the failure of the limit
    have hfatal : isFatal f = true := by simp [isFatal, hkind]
    rw [hfatal, Bool.or_true, if_pos rfl, if_pos rfl]
    exact .passed_on hkind

theorem ending (c : Compound) (outcome : Except Failure Flow) :
    Heeds (conclude e.next scope c outcome) (.ending e scope t c) := by
  have hlast (last : Flow) :
      Heeds (if last.isNormal then Run.ofExcept outcome else return last : Run Flow) .none := by
    split
    · cases outcome with
      | ok flow => exact pure flow
      | error f => exact fail f
    · exact pure last
  unfold conclude Events.ending
  cases c.clause? "finally" with
  | none => exact hlast .normal
  | some ls =>
    dsimp only
    rw [← Events.rescue_none (e.next.block scope ls) (.block e scope t ls)]
    exact bind (.block hfit ls) (block hfit h ls) hlast

end Blocks

end Heeds

end SnippetGrader
