import SnippetGrader.Proofs.Composition.Statement
import SnippetGrader.Proofs.Output

/-!
# Runs under two step limits

A program runs under a limit of statements and under a higher one. As long as the lower limit is
not passed, both machines differ in the limit alone. Once it is passed, the run under the lower
limit has failed, no handler and no `finally` can turn this into anything else, and what it has
printed is the beginning of what the other run prints.
-/

namespace SnippetGrader

open Source Statement

def Machine.withSteps (m : Machine) (n : Int) : Machine :=
  { m with limits := { m.limits with maxSteps := n } }

/-! ## What a computation never takes back -/

/-- A machine comes from another one: the limits are the same, statements were only added and text
was only printed. -/
structure Machine.Leads (m m' : Machine) : Prop where
  limits : m'.limits = m.limits
  steps : m.steps ≤ m'.steps
  text : m.text <+: m'.text
  tidy : m.Tidy → m'.Tidy

theorem Machine.Leads.refl (m : Machine) : m.Leads m := ⟨rfl, Nat.le_refl _, List.prefix_rfl, id⟩

theorem Machine.Leads.trans {m m' m'' : Machine} (h : m.Leads m') (h' : m'.Leads m'') :
    m.Leads m'' :=
  ⟨h'.limits.trans h.limits, h.steps.trans h'.steps, h.text.trans h'.text, h'.tidy ∘ h.tidy⟩

/-- A change of the machine that concerns neither limits, statements nor output. -/
structure Neutral (g : Machine → Machine) : Prop where
  limits : ∀ m, (g m).limits = m.limits
  steps : ∀ m, (g m).steps = m.steps
  finished : ∀ m, (g m).finished = m.finished
  pending : ∀ m, (g m).pending = m.pending
  withSteps : ∀ m n, g (m.withSteps n) = (g m).withSteps n

namespace Neutral

variable {g : Machine → Machine} (hg : Neutral g) (m : Machine)
include hg

theorem text : (g m).text = m.text := by
  rw [Machine.text, hg.finished, hg.pending, Machine.text]

theorem leads : m.Leads (g m) :=
  ⟨hg.limits m, (hg.steps m).ge, hg.text m ▸ List.prefix_rfl,
    fun h => by rwa [Machine.Tidy, hg.pending]⟩

theorem spent : (g m).Spent ↔ m.Spent := by
  rw [Machine.Spent, hg.limits, hg.steps, Machine.Spent]

end Neutral

/-! ## Two runs side by side -/

/-- A computation was ended by the step limit, after it had printed the beginning of what the other
one prints. -/
def Cut {α β : Type} (r : Outcome α) (r' : Outcome β) : Prop :=
  ∃ f m, r = .error (.failed f) m ∧ f.kind = "StepLimitError" ∧ m.Spent ∧
    m.text <+: (Outcome.after r').text

/-- Two outcomes differ in the limit of statements alone, or the first was ended by the limit. -/
def Twin {α : Type} (n : Int) (r r' : Outcome α) : Prop :=
  (¬ (Outcome.after r).Spent ∧ r' = Outcome.onMachine (·.withSteps n) r) ∨ Cut r r'

/-- A failure of the step limit is passed on and nothing is printed. -/
def Ended {α : Type} (r : Outcome α) (m : Machine) : Prop :=
  ∃ f m', r = .error (.failed f) m' ∧ f.kind = "StepLimitError" ∧ m'.Spent ∧ m'.text = m.text

/-- A computation that takes nothing back and that a higher limit does not change until the lower
one is passed. -/
structure Tame {α : Type} (x : Run α) : Prop where
  leads : ∀ m : Machine, m.Leads (Outcome.after (x m))
  twin : ∀ (m : Machine) (n : Int), ¬ m.Spent → m.limits.maxSteps ≤ n →
    Twin n (x m) (x (m.withSteps n))

namespace Tame

variable {α β : Type}

/-- A computation that neither prints nor executes statements. -/
theorem of_neutral {x : Run α} {g : Machine → Machine} (hg : Neutral g) (r : Machine → Except Stop α)
    (hr : ∀ m n, r (m.withSteps n) = r m)
    (hx : ∀ m, x m = match r m with
      | .ok a => .ok a (g m)
      | .error stop => .error stop (g m)) : Tame x where
  leads m := by
    rw [hx]
    cases r m <;> exact hg.leads m
  twin m n hm _ := by
    left
    rw [hx, hx, hr, hg.withSteps]
    cases r m <;> exact ⟨fun h => hm ((hg.spent m).1 h), rfl⟩

theorem pure (a : α) : Tame (Pure.pure a : Run α) :=
  of_neutral (g := id) ⟨fun _ => rfl, fun _ => rfl, fun _ => rfl, fun _ => rfl, fun _ _ => rfl⟩
    (fun _ => .ok a) (fun _ _ => rfl) fun _ => rfl

theorem throw (stop : Stop) : Tame (MonadExcept.throw stop : Run α) :=
  of_neutral (g := id) ⟨fun _ => rfl, fun _ => rfl, fun _ => rfl, fun _ => rfl, fun _ _ => rfl⟩
    (fun _ => .error stop) (fun _ _ => rfl) fun _ => rfl

/-- Goes on after an outcome: what it does next takes nothing back, does the same under both limits
and passes the step limit on. -/
theorem andThen {x : Run α} {y : Run β} (hx : Tame x) (next : Outcome α → Outcome β)
    (hy : ∀ m, y m = next (x m))
    (hleads : ∀ r, (Outcome.after r).Leads (Outcome.after (next r)))
    (htwin : ∀ r n, ¬ (Outcome.after r).Spent → (Outcome.after r).limits.maxSteps ≤ n →
      Twin n (next r) (next (Outcome.onMachine (·.withSteps n) r)))
    (hend : ∀ f (m : Machine), f.kind = "StepLimitError" → m.Spent →
      Ended (next (.error (.failed f) m)) m) : Tame y := by
  refine ⟨fun m => ?_, fun m n hm hn => ?_⟩
  · rw [hy]
    exact (hx.leads m).trans (hleads _)
  · have hlimits := (hx.leads m).limits
    rw [hy, hy]
    obtain ⟨hspent, hsame⟩ | ⟨f, m', hcut, hkind, hspent, htext⟩ := hx.twin m n hm hn
    · rw [hsame]
      exact htwin _ n hspent (by rw [hlimits]; exact hn)
    · obtain ⟨f', m'', hnext, hkind', hspent', htext'⟩ := hend f m' hkind hspent
      refine .inr ⟨f', m'', by rw [hcut, hnext], hkind', hspent', ?_⟩
      rw [htext']
      exact htext.trans (hleads _).text

theorem ended_error {f : Failure} {m : Machine} (hkind : f.kind = "StepLimitError")
    (hspent : m.Spent) : Ended (.error (.failed f) m : Outcome α) m :=
  ⟨f, m, rfl, hkind, hspent, rfl⟩

/-- Going on after a failure, provided that the step limit is passed on. -/
theorem rescue {x : Run α} {k : α → Run β} {h : Failure → Run β} (hx : Tame x)
    (hk : ∀ a, Tame (k a)) (hh : ∀ f, Tame (h f))
    (hend : ∀ f (m : Machine), f.kind = "StepLimitError" → m.Spent → Ended (h f m) m) :
    Tame (Run.rescue x k h) := by
  refine hx.andThen (fun r => match r with
    | .ok a m => k a m
    | .error (.failed f) m => h f m
    | .error (.exhausted n) m => .error (.exhausted n) m) (fun _ => rfl) (fun r => ?_)
    (fun r n hspent hn => ?_) hend
  · match r with
    | .ok a m => exact (hk a).leads m
    | .error (.failed f) m => exact (hh f).leads m
    | .error (.exhausted n) m => exact .refl m
  · match r with
    | .ok a m => exact (hk a).twin m n hspent hn
    | .error (.failed f) m => exact (hh f).twin m n hspent hn
    | .error (.exhausted _) m => exact .inl ⟨hspent, rfl⟩

theorem bind {x : Run α} {f : α → Run β} (hx : Tame x) (hf : ∀ a, Tame (f a)) :
    Tame (x >>= f) := by
  rw [Run.bind_eq_rescue]
  exact hx.rescue hf (fun f => throw _) fun f m => ended_error

theorem guardCall {x : Run α} (hx : Tame x) : Tame (Run.guardCall x) := by
  refine hx.andThen (fun r => match r with
    | .ok a m => .ok a m
    | .error (.failed f) m => .error (.failed f) m
    | .error (.exhausted n) m => .error (.failed n.failure) m) (Run.guardCall_eq x) (fun r => ?_)
    (fun r n hspent hn => ?_) fun f m => ended_error
  · match r with
    | .ok a m | .error (.failed f) m | .error (.exhausted n) m => exact .refl m
  · match r with
    | .ok a m | .error (.failed f) m | .error (.exhausted _) m => exact .inl ⟨hspent, rfl⟩

theorem between {x : Run α} (hx : Tame x) {g g' : Machine → Machine} (hg : Neutral g)
    (hg' : Neutral g') : Tame (Run.between g x g') := by
  have hfirst : Tame fun m => x (g m) := by
    refine ⟨fun m => (hg.leads m).trans (hx.leads _), fun m n hm hn => ?_⟩
    rw [hg.withSteps]
    exact hx.twin (g m) n (fun h => hm ((hg.spent m).1 h)) (by rw [hg.limits]; exact hn)
  refine hfirst.andThen (Outcome.onMachine g') (fun _ => rfl) (fun r => ?_)
    (fun r n hspent hn => ?_) fun f m hkind hspent => ?_
  · rw [Outcome.after_onMachine]
    exact hg'.leads _
  · left
    rw [Outcome.after_onMachine, hg'.spent]
    refine ⟨hspent, ?_⟩
    cases r with
    | ok a m => exact congrArg (EStateM.Result.ok a) (hg'.withSteps m n)
    | error stop m => exact congrArg (EStateM.Result.error stop) (hg'.withSteps m n)
  · exact ⟨f, g' m, rfl, hkind, (hg'.spent m).2 hspent, hg'.text m⟩

/-! ## Parts of the interpreter -/

theorem onStore (g : Store → Except Stop α × Store) : Tame (Run.onStore g) := by
  refine of_neutral (g := fun m => { m with store := (g m.store).2 })
    ⟨fun _ => rfl, fun _ => rfl, fun _ => rfl, fun _ => rfl, fun _ _ => rfl⟩
    (fun m => (g m.store).1) (fun _ _ => rfl) fun m => ?_
  unfold Run.onStore
  obtain ⟨r, s⟩ := g m.store
  cases r <;> rfl

theorem context : Tame Run.context :=
  of_neutral (g := id) ⟨fun _ => rfl, fun _ => rfl, fun _ => rfl, fun _ => rfl, fun _ _ => rfl⟩
    (fun m => .ok m.context) (fun _ _ => rfl) fun _ => rfl

theorem newScope (names : Scope) : Tame (Run.newScope names) :=
  of_neutral (g := fun m => { m with store := { m.store with scopes := m.store.scopes.push names } })
    ⟨fun _ => rfl, fun _ => rfl, fun _ => rfl, fun _ => rfl, fun _ _ => rfl⟩
    (fun m => .ok m.store.scopes.size) (fun _ _ => rfl) fun _ => rfl

theorem bindName (ref : Nat) (name : String) (v : Value) : Tame (Run.bindName ref name v) :=
  of_neutral (g := fun m => { m with store := { m.store with
      scopes := m.store.scopes.modify ref fun sc => sc.set name v } })
    ⟨fun _ => rfl, fun _ => rfl, fun _ => rfl, fun _ => rfl, fun _ _ => rfl⟩
    (fun _ => .ok ()) (fun _ _ => rfl) fun _ => rfl

theorem readInput : Tame Run.readInput := by
  refine of_neutral (g := fun m => { m with inputs := m.inputs.tail })
    ⟨fun _ => rfl, fun _ => rfl, fun _ => rfl, fun _ => rfl, fun _ _ => rfl⟩
    (fun m => m.inputs.head?.elim
      (.error (.failed { kind := "EOFError", message := "EOF when reading a line" })) .ok)
    (fun _ _ => rfl) fun m => ?_
  rw [Run.readInput_eq]
  obtain ⟨limits, store, attached, finished, pending, written, warnings, inputs, callDepth, steps,
    handling, lineNumber⟩ := m
  cases inputs <;> rfl

theorem warn (text : String) : Tame (Statement.warn text) :=
  of_neutral (g := fun m => m.warned text)
    ⟨fun _ => rfl, fun _ => rfl, fun _ => rfl, fun _ => rfl, fun _ _ => rfl⟩
    (fun _ => .ok ()) (fun _ _ => rfl) (Run.warn_eq text)

theorem write (text : String) : Tame (Run.write text) := by
  refine ⟨fun m => ?_, fun m n hm _ => .inl ?_⟩
  · rw [Run.write_eq]
    split
    · exact ⟨rfl, Nat.le_refl _, List.prefix_rfl, id⟩
    · have hprefix : m.text <+: (m.printed text).text := by
        rw [Machine.text_printed]
        exact List.prefix_append _ _
      have htidy := m.tidy_printed text
      rw [Outcome.after_ok]
      rw [Machine.printed_eq] at hprefix htidy ⊢
      exact ⟨rfl, Nat.le_refl _, hprefix, fun _ => htidy⟩
  · have hsame : Run.write text (m.withSteps n) =
        Outcome.onMachine (·.withSteps n) (Run.write text m) := by
      rw [Run.write_eq, Run.write_eq, Machine.printed_eq, Machine.printed_eq]
      change (if ((m.counted text).written : Int) > m.limits.maxOutputChars then _ else _) = _
      split <;> rfl
    refine ⟨?_, hsame⟩
    rw [Run.write_eq]
    split <;> exact hm

/-- An outcome whose store is changed where it is a failure. -/
def undone (g : Store → Store) : Outcome α → Outcome α
  | .ok a m => .ok a m
  | .error stop m => .error stop { m with store := g m.store }

theorem undoing {x : Run α} (hx : Tame x) (b : Store → β) (g : Store → Store) :
    Tame (Run.undoing x (Run.onStore fun s => (.ok (b s), g s))) := by
  refine hx.andThen (undone g) (Run.undoing_eq x b g) (fun r => ?_) (fun r n hspent hn => ?_)
    fun f m hkind hspent => ?_
  · cases r with
    | ok a m => exact .refl m
    | error stop m => exact ⟨rfl, Nat.le_refl _, List.prefix_rfl, id⟩
  · cases r <;> exact .inl ⟨hspent, rfl⟩
  · exact ⟨f, _, rfl, hkind, hspent, rfl⟩

theorem line {e : Engine} {scope : Nat} {line : Line} {rest : List Line}
    (h : Tame (executeKind e scope line rest (classify line.text))) :
    Tame (executeLine e scope line rest) := by
  have hcharged (m : Machine) : m.Leads (m.charged line) :=
    ⟨rfl, Nat.le_succ _, List.prefix_rfl, id⟩
  have hleads (m : Machine) : m.Leads (Outcome.after (executeLine e scope line rest m)) := by
    rw [executeLine_eq, Outcome.after_onFailure]
    cases (m.charged line).refusal? with
    | some f => exact hcharged m
    | none => exact (hcharged m).trans (h.leads _)
  refine ⟨hleads, fun m n hm hn => ?_⟩
  by_cases hspent : (m.charged line).Spent
  · -- the lower limit is passed here, and nothing was printed since
    refine .inr ⟨m.limits.stepFailure.locate line.number (String.ofList line.text),
      m.charged line, ?_, Failure.kind_locate _ _ _, hspent, (hleads (m.withSteps n)).text⟩
    rw [executeLine_eq, Machine.refusal?, if_pos hspent]
    rfl
  · have hspent' : ¬ ((m.withSteps n).charged line).Spent := by
      unfold Machine.Spent Machine.charged Machine.withSteps at *
      dsimp only at *
      omega
    have hrefusal : ((m.withSteps n).charged line).refusal? = (m.charged line).refusal? := by
      rw [Machine.refusal?, Machine.refusal?, if_neg hspent, if_neg hspent']
      rfl
    rw [executeLine_eq, executeLine_eq, hrefusal]
    cases (m.charged line).refusal? with
    | some f => exact .inl ⟨by rw [Outcome.after_onFailure]; exact hspent, rfl⟩
    | none =>
      dsimp only
      obtain ⟨hsp, hsame⟩ | ⟨f, m', hcut, hkind, hsp, htext⟩ :=
        h.twin (m.charged line) n hspent hn
      · left
        rw [Outcome.after_onFailure]
        refine ⟨hsp, ?_⟩
        have hm' : (m.withSteps n).charged line = (m.charged line).withSteps n := rfl
        rw [hm', hsame]
        cases executeKind e scope line rest (classify line.text) (m.charged line) with
        | ok a m' => rfl
        | error stop m' => cases stop <;> rfl
      · right
        refine ⟨f.locate line.number (String.ofList line.text), m', by rw [hcut]; rfl, ?_, hsp, ?_⟩
        · rw [Failure.kind_locate, hkind]
        · rw [Outcome.after_onFailure]
          exact htext

/-- A computation that is a tame one on each machine and on the same machine with another limit. -/
theorem of_each {x : Run α} (h : ∀ m, ∃ y : Run α, Tame y ∧ x m = y m ∧
    ∀ n, x (m.withSteps n) = y (m.withSteps n)) : Tame x := by
  refine ⟨fun m => ?_, fun m n hm hn => ?_⟩
  · obtain ⟨y, hy, hxy, -⟩ := h m
    rw [hxy]
    exact hy.leads m
  · obtain ⟨y, hy, hxy, hxy'⟩ := h m
    rw [hxy, hxy']
    exact hy.twin m n hm hn

theorem call {e : Engine} {f : Function} (hbody : ∀ scope, Tame (e.block scope f.body))
    (args : List Value) (keywords : Keywords) : Tame (callFunction e f args keywords) := by
  refine of_each fun m => ?_
  have hstore (n : Int) : (m.withSteps n).store = m.store := rfl
  simp only [callFunction_eq, hstore]
  by_cases hdepth : (m.callDepth : Int) ≥ m.limits.maxCallDepth
  · exact ⟨_, throw _, if_pos hdepth, fun n => if_pos hdepth⟩
  · cases callScope f (m.store.scope f.scope) args keywords with
    | error failure => exact ⟨_, throw _, if_neg hdepth, fun n => if_neg hdepth⟩
    | ok names =>
      have hentered : Neutral (·.entered names) :=
        ⟨fun _ => rfl, fun _ => rfl, fun _ => rfl, fun _ => rfl, fun _ _ => rfl⟩
      have hleft : Neutral Machine.left :=
        ⟨fun _ => rfl, fun _ => rfl, fun _ => rfl, fun _ => rfl, fun _ _ => rfl⟩
      exact ⟨_, ((hbody m.store.scopes.size).between hentered hleft).bind fun flow => pure _,
        if_neg hdepth, fun n => if_neg hdepth⟩

section Handlers

variable {e : Engine} {scope : Nat} (hb : ∀ lines, Tame (e.block scope lines))
include hb

theorem handle (handlers : List Clause) (f : Failure) :
    Tame (Statement.handle e scope handlers f) := by
  have hreleased : Neutral released :=
    ⟨fun _ => rfl, fun _ => rfl, fun _ => rfl, fun _ => rfl, fun _ _ => rfl⟩
  rw [handle_eq]
  cases handlerOf? handlers f with
  | none => exact throw (.failed f)
  | some h =>
    have hcatching : Neutral fun m => catching m scope h.head f :=
      ⟨fun _ => rfl, fun _ => rfl, fun _ => rfl, fun _ => rfl, fun _ _ => rfl⟩
    exact (hb h.lines).between hcatching hreleased

theorem guarded (c : Compound) : Tame (Statement.guarded e scope c) := by
  rw [guarded_eq]
  refine (hb c.lines).rescue (fun flow => ?_) (fun f => ?_) fun f m hkind hspent => ?_
  · cases c.clause? "else" with
    | none => exact pure flow
    | some lines =>
      dsimp only
      split
      · exact hb lines
      · exact pure flow
  · split
    · exact throw (.failed f)
    · exact handle hb c.handlers f
  · -- no handler catches the step limit
    have hfatal : isFatal f = true := by simp [isFatal, hkind]
    rw [hfatal, Bool.or_true, if_pos rfl]
    exact ended_error hkind hspent

theorem conclude (c : Compound) (outcome : Except Failure Flow) :
    Tame (Statement.conclude e scope c outcome) := by
  have hend (last : Flow) :
      Tame (if last.isNormal then Run.ofExcept outcome else return last : Run Flow) := by
    split
    · cases outcome with
      | ok flow => exact pure flow
      | error f => exact throw (.failed f)
    · exact pure last
  unfold Statement.conclude
  cases c.clause? "finally" with
  | none => exact (pure Flow.normal).bind hend
  | some lines => exact (hb lines).bind hend

end Handlers

/-- What follows `finally` does not hide the step limit: its first statement is refused. -/
theorem conclude_ended (e : Engine) (scope : Nat) (c : Compound) {f : Failure} {m : Machine}
    (hkind : f.kind = "StepLimitError") (hspent : m.Spent) :
    Ended (Statement.conclude e.next scope c (.error f) m) m := by
  unfold Statement.conclude
  cases c.clause? "finally" with
  | none => exact ended_error hkind hspent
  | some lines =>
    dsimp only
    rw [Run.bind_eq, Engine.next_block, executeBlock_spent e scope lines hspent]
    cases lines with
    | nil => exact ended_error hkind hspent
    | cons line rest => exact ⟨_, _, rfl, Failure.kind_locate _ _ _, hspent.charged line, rfl⟩

theorem executeGuarded {n : Nat} (hn : (Engine.level n).All Tame) (scope : Nat) (c : Compound) :
    Tame (Statement.executeGuarded (Engine.level n) scope c) := by
  cases n with
  | zero => exact throw (.exhausted .evaluation)
  | succ n =>
    have hb (lines : List Line) := hn.block scope lines
    exact (guarded hb c).rescue (fun flow => conclude hb c (.ok flow))
      (fun f => conclude hb c (.error f)) fun f m => conclude_ended (Engine.level n) scope c

end Tame

end SnippetGrader
