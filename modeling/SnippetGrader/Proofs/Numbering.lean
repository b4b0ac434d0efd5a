import SnippetGrader.Proofs.Handling
import SnippetGrader.Proofs.Isolation

/-!
# The numbers of lines

Lines come from more than one place: a body on the line of its header is cut into lines of its own,
functions keep the lines of their bodies, and a lambda makes a line when it is evaluated. Here it is
shown that all of them have numbers of lines of the program, and so has a failure on which a line is
noted: `Machine.Numbered S` says it of all that a machine holds, `Numbered S` of a computation, which
keeps it.
-/

namespace SnippetGrader

open Source Statement

/-! ## Machines and outcomes -/

/-- The numbers of the lines in stored bodies, of the last statement and on the failures that are
being handled are in `S`. -/
structure Machine.Numbered (S : Nat → Prop) (m : Machine) : Prop where
  last : S m.lineNumber
  bodies : ∀ f ∈ m.store.functions, ∀ l ∈ f.body, S l.number
  handled : ∀ f ∈ m.handling, ∀ n ∈ f.line, S n

/-- If a failure stops a computation and has a line, its number is in `S`. -/
def Stop.Numbered (S : Nat → Prop) : Stop → Prop
  | .failed f => ∀ n ∈ f.line, S n
  | .exhausted _ => True

/-- The machine after a computation and the failure, if there is one, have numbers in `S`. -/
def Outcome.Numbered {α : Type} (S : Nat → Prop) : Outcome α → Prop
  | .ok _ m => m.Numbered S
  | .error stop m => stop.Numbered S ∧ m.Numbered S

theorem Failure.Unplaced.numbered {S : Nat → Prop} {f : Failure} (h : f.Unplaced) :
    ∀ n ∈ f.line, S n := by
  have hline : f.line = none := h
  rw [hline]
  nofun

theorem Stop.Unplaced.numbered {S : Nat → Prop} {stop : Stop} (h : stop.Unplaced) :
    stop.Numbered S := by
  cases stop with
  | failed f => exact Failure.Unplaced.numbered h
  | exhausted n => trivial

def Numbered {α : Type} (S : Nat → Prop) (x : Run α) : Prop :=
  ∀ m : Machine, m.Numbered S → Outcome.Numbered S (x m)

theorem Machine.refusal?_unplaced {m : Machine} {f : Failure} (h : m.refusal? = some f) :
    f.Unplaced := by
  unfold Machine.refusal? at h
  split at h
  · cases h
    rfl
  · split at h <;> cases h
    rfl

/-! ## The parts of computations -/

namespace Numbered

variable {α β : Type} {S : Nat → Prop}

theorem pure (a : α) : Numbered S (Pure.pure a) := fun _ h => h

theorem fail {f : Failure} (hf : ∀ n ∈ f.line, S n) : Numbered S (Run.fail f : Run α) :=
  fun _ h => ⟨hf, h⟩

theorem throw {stop : Stop} (hstop : stop.Unplaced) :
    Numbered S (MonadExcept.throw stop : Run α) := fun _ h => ⟨hstop.numbered, h⟩

/-- Work on the store that adds bodies with numbers in `S` at most. -/
theorem onStore {g : Store → Except Stop α × Store}
    (hbodies : ∀ s, ∀ f ∈ (g s).2.functions, f ∈ s.functions ∨ ∀ l ∈ f.body, S l.number)
    (hg : ∀ s, UnplacedStop (g s).1) : Numbered S (Run.onStore g) := by
  intro m h
  have hstored := hbodies m.store
  have hstop := hg m.store
  unfold Run.onStore
  generalize g m.store = p at hstored hstop
  obtain ⟨r, s⟩ := p
  have hafter : Machine.Numbered S { m with store := s } :=
    ⟨h.last, fun f hf => (hstored f hf).elim (h.bodies f) id, h.handled⟩
  cases r with
  | ok a => exact hafter
  | error stop => exact ⟨hstop.numbered, hafter⟩

theorem plain {g : Store → Except Stop α × Store} (h : Plain g) : Numbered S (Run.onStore g) :=
  onStore (fun s f hf => .inl (by rwa [h.kept] at hf)) h.unplaced

theorem define {f : Function} (h : ∀ l ∈ f.body, S l.number) :
    Numbered S (Expression.newFunction f) :=
  onStore (g := Store.define f)
    (fun _ g hg => (Array.mem_push.1 hg).imp_right (by rintro rfl; exact h))
    fun _ => onlyErrors_ok _

theorem context : Numbered S Run.context := fun _ h => h

theorem newScope (names : Scope) : Numbered S (Run.newScope names) :=
  fun _ h => ⟨h.last, h.bodies, h.handled⟩

theorem bindName (ref : Nat) (name : String) (v : Value) :
    Numbered S (Run.bindName ref name v) := fun _ h => ⟨h.last, h.bodies, h.handled⟩

theorem write (text : String) : Numbered S (Run.write text) := by
  intro m h
  rw [Run.write_eq, Machine.printed_eq]
  split
  · exact ⟨nofun, h.last, h.bodies, h.handled⟩
  · exact ⟨h.last, h.bodies, h.handled⟩

theorem readInput : Numbered S Run.readInput := by
  intro m h
  rw [Run.readInput_eq]
  split
  · exact ⟨nofun, h⟩
  · exact ⟨h.last, h.bodies, h.handled⟩

theorem warn (text : String) : Numbered S (Statement.warn text) := by
  intro m h
  rw [Run.warn_eq]
  exact ⟨h.last, h.bodies, h.handled⟩

/-- The failure that is raised again is one of those that are handled. -/
theorem raiseAgain : Numbered S (Run.raiseAgain : Run α) := by
  intro m h
  refine ⟨?_, h⟩
  change ∀ n ∈ (m.handling.head?.getD _).line, S n
  cases hm : m.handling with
  | nil => nofun
  | cons f fs => exact h.handled f (by rw [hm]; exact List.mem_cons_self)

theorem rescue {x : Run α} {k : α → Run β} {g : Failure → Run β} (hx : Numbered S x)
    (hk : ∀ a, Numbered S (k a)) (hg : ∀ f : Failure, (∀ n ∈ f.line, S n) → Numbered S (g f)) :
    Numbered S (Run.rescue x k g) := by
  intro m h
  have hm := hx m h
  unfold Run.rescue
  cases hr : x m with
  | ok a m' =>
    rw [hr] at hm
    exact hk a m' hm
  | error stop m' =>
    rw [hr] at hm
    cases stop with
    | failed f => exact hg f hm.1 m' hm.2
    | exhausted n => exact hm

theorem bind {x : Run α} {f : α → Run β} (hx : Numbered S x) (hf : ∀ a, Numbered S (f a)) :
    Numbered S (x >>= f) := by
  rw [Run.bind_eq_rescue]
  exact hx.rescue hf fun _ => fail

theorem guardCall {x : Run α} (hx : Numbered S x) : Numbered S (Run.guardCall x) := by
  intro m h
  have hm := hx m h
  rw [Run.guardCall_eq]
  cases hr : x m with
  | ok a m' => rwa [hr] at hm
  | error stop m' =>
    rw [hr] at hm
    cases stop with
    | failed f => exact hm
    | exhausted n => exact ⟨by cases n <;> nofun, hm.2⟩

theorem undoing {x : Run α} (hx : Numbered S x) (b : Store → β) {g : Store → Store}
    (hg : ∀ s, (g s).functions = s.functions) :
    Numbered S (Run.undoing x (Run.onStore fun s => (.ok (b s), g s))) := by
  intro m h
  have hm := hx m h
  rw [Run.undoing_eq]
  cases hr : x m with
  | ok a m' => rwa [hr] at hm
  | error stop m' =>
    rw [hr] at hm
    exact ⟨hm.1, hm.2.last, by rw [hg]; exact hm.2.bodies, hm.2.handled⟩

/-- A computation between two changes of the machine, of which none adds numbers. -/
theorem between {x : Run α} (hx : Numbered S x) {g g' : Machine → Machine}
    (hg : ∀ m : Machine, m.Numbered S → (g m).Numbered S)
    (hg' : ∀ m : Machine, m.Numbered S → (g' m).Numbered S) : Numbered S (Run.between g x g') := by
  intro m h
  have hm := hx (g m) (hg m h)
  unfold Run.between
  cases hr : x (g m) with
  | ok a m' =>
    rw [hr] at hm
    exact hg' m' hm
  | error stop m' =>
    rw [hr] at hm
    exact ⟨hm.1, hg' m' hm.2⟩

/-! ## Calls, statements and handlers -/

theorem callFunction {e : Engine} {f : Function} (hbody : ∀ scope, Numbered S (e.block scope f.body))
    (args : List Value) (keywords : Keywords) :
    Numbered S (Statement.callFunction e f args keywords) := by
  intro m h
  rw [callFunction_eq]
  split
  · exact ⟨nofun, h⟩
  · have hnames := callScope_unplaced f (m.store.scope f.scope) keywords args
    cases hscope : callScope f (m.store.scope f.scope) args keywords with
    | error failure =>
      rw [hscope] at hnames
      exact ⟨Failure.Unplaced.numbered hnames, h⟩
    | ok names =>
      have hcall : Numbered S
          (Run.between (·.entered names) (e.block m.store.scopes.size f.body) Machine.left) :=
        (hbody m.store.scopes.size).between (fun m h => ⟨h.last, h.bodies, h.handled⟩)
          fun m h => ⟨h.last, h.bodies, h.handled⟩
      exact hcall.bind (fun flow => pure (Flow.result flow)) m h

theorem callStored {e : Engine}
    (hblock : ∀ scope lines, (∀ l ∈ lines, S l.number) → Numbered S (e.block scope lines))
    (ref : Nat) (args : List Value) (keywords : Keywords) :
    Numbered S (Statement.callStored e ref args keywords) := by
  intro m h
  have hrun : Statement.callStored e ref args keywords m =
      m.store.functions[ref]?.elim (return .none)
        (fun f => Statement.callFunction e f args keywords) m := by
    rw [Statement.callStored_eq]
    rfl
  rw [hrun]
  cases hf : m.store.functions[ref]? with
  | none => exact h
  | some f =>
    have hbody := h.bodies f (Array.mem_of_getElem? hf)
    exact callFunction (fun scope => hblock scope f.body hbody) args keywords m h

theorem executeLine {e : Engine} {scope : Nat} {l : Line} {rest : List Line} (hl : S l.number)
    (hkind : Numbered S (executeKind e scope l rest (classify l.text))) :
    Numbered S (Statement.executeLine e scope l rest) := by
  intro m h
  have hcharged : (m.charged l).Numbered S := ⟨hl, h.bodies, h.handled⟩
  have hlocated (f : Failure) (hf : ∀ n ∈ f.line, S n) :
      ∀ n ∈ (f.locate l.number (String.ofList l.text)).line, S n := by
    unfold Failure.locate
    split
    · exact hf
    · rintro n ⟨⟩
      exact hl
  rw [executeLine_eq]
  cases hrefusal : (m.charged l).refusal? with
  | some f =>
    exact ⟨hlocated f (Machine.refusal?_unplaced hrefusal).numbered, hcharged⟩
  | none =>
    have hm := hkind (m.charged l) hcharged
    dsimp only
    cases hr : executeKind e scope l rest (classify l.text) (m.charged l) with
    | ok a m' => rwa [hr] at hm
    | error stop m' =>
      rw [hr] at hm
      cases stop with
      | failed f => exact ⟨hlocated f hm.1, hm.2⟩
      | exhausted n => exact hm

section Handlers

variable {e : Engine} {scope : Nat} {c : Compound}
  (hb : ∀ lines ∈ c.bodies, Numbered S (e.block scope lines))
include hb

theorem handle {f : Failure} (hf : ∀ n ∈ f.line, S n) :
    Numbered S (Statement.handle e scope c.handlers f) := by
  rw [handle_eq]
  cases h : handlerOf? c.handlers f with
  | none => exact fail hf
  | some clause =>
    refine (hb _ (Composed.handlerOf?_bodies h)).between (fun m hm => ⟨hm.last, ?_, ?_⟩) fun m hm =>
      ⟨hm.last, hm.bodies, fun g hg => hm.handled g (List.mem_of_mem_tail hg)⟩
    · unfold catching
      dsimp only
      split <;> exact hm.bodies
    · intro g hg
      obtain rfl | hg := List.mem_cons.1 hg
      · exact hf
      · exact hm.handled g hg

theorem guarded : Numbered S (Statement.guarded e scope c) := by
  rw [guarded_eq]
  refine (hb _ List.mem_cons_self).rescue (fun flow => ?_) fun f hf => ?_
  · cases h : c.clause? "else" with
    | none => exact pure flow
    | some lines =>
      dsimp only
      split
      · exact hb _ (Composed.clause_bodies h)
      · exact pure flow
  · split
    · exact fail hf
    · exact handle hb hf

theorem conclude {outcome : Except Failure Flow}
    (houtcome : OnlyErrors (fun f => ∀ n ∈ f.line, S n) outcome) :
    Numbered S (Statement.conclude e scope c outcome) := by
  have hend (last : Flow) : Numbered S
      (if last.isNormal then Run.ofExcept outcome else return last : Run Flow) := by
    split
    · cases outcome with
      | ok flow => exact pure flow
      | error f => exact fail houtcome
    · exact pure last
  unfold Statement.conclude
  cases h : c.clause? "finally" with
  | none => exact bind (pure _) hend
  | some lines => exact bind (hb _ (Composed.clause_bodies h)) hend

theorem executeGuarded : Numbered S (Statement.executeGuarded e scope c) :=
  (guarded hb).rescue (fun flow => conclude hb (onlyErrors_ok flow)) fun _ hf => conclude hb hf

end Handlers

end Numbered

/-! ## All levels -/

/-- An engine adds no numbers to those in `S` if the blocks that it executes have numbers in `S`. -/
structure Engine.Numbered (S : Nat → Prop) (e : Engine) : Prop where
  eval : ∀ scope text, SnippetGrader.Numbered S (e.eval scope text)
  apply : ∀ v args keywords, SnippetGrader.Numbered S (e.apply v args keywords)
  block : ∀ scope lines, (∀ l ∈ lines, S l.number) → SnippetGrader.Numbered S (e.block scope lines)

section Levels

variable {S : Nat → Prop} {α : Type}

/-- What is put together above such an engine adds no numbers to those that it may use. -/
theorem Composed.numbered {R : Reach} {x : Engine → Run α} (hx : Composed R x) {e : Engine}
    (he : e.Numbered S) (hR : ∀ n, R.numbers n → S n) : Numbered S (x e) := by
  induction hx with
  | stored g h => exact .plain h
  | define f h _ _ =>
    intro m hm
    exact Numbered.define (fun l hl => (h m.lineNumber l hl).elim (hR _) fun hn => hn ▸ hm.last) m hm
  | raiseAgain => exact .raiseAgain
  | setting => exact .bind .context fun c => .pure _
  | newScope names => exact .newScope names
  | inside names _ hf => exact .bind (.newScope names) fun scope => hf scope hR
  | bindName ref _ name v => exact .bindName ref name v
  | write text => exact .write text
  | readInput => exact .readInput
  | warn text => exact .warn text
  | eval scope text _ => exact he.eval scope text
  | apply v args keywords _ => exact he.apply v args keywords
  | block scope _ lines h => exact he.block scope lines fun l hl => hR _ (h.numbers l hl)
  | call ref args keywords => exact .callStored he.block ref args keywords
  | bind _ _ hx hf => exact .bind (hx hR) fun a => hf a hR
  | guardCall _ hx => exact .guardCall (hx hR)
  | undoing _ b g _ hkept hx => exact .undoing (hx hR) b hkept
  | line scope line rest hnumber _ h => exact .executeLine (hR _ hnumber) (h hR)
  | guarded scope _ c h =>
    exact .executeGuarded fun lines hlines =>
      he.block scope lines fun l hl => hR _ ((h lines hlines).numbers l hl)

theorem Engine.numbered_level (S : Nat → Prop) (n : Nat) : (Engine.level n).Numbered S := by
  induction n with
  | zero =>
    have hstop {α : Type} :
        SnippetGrader.Numbered S (MonadExcept.throw (.exhausted .evaluation) : Run α) :=
      .throw trivial
    exact ⟨fun _ _ => hstop, fun _ _ _ => hstop, fun _ _ _ => hstop⟩
  | succ n ih =>
    refine ⟨fun scope text => (Composed.evaluate scope text).numbered ih fun _ => False.elim,
      fun v args keywords => (Composed.apply_calls v args keywords).numbered ih fun _ => False.elim,
      fun scope lines hlines => (Composed.executeBlock scope lines).numbered ih fun k hk => ?_⟩
    obtain ⟨l, hl, rfl⟩ := List.mem_map.1 hk
    exact hlines l hl

end Levels

/-! ## Programs -/

mutual

theorem Composed.toValue {R : Reach} : (d : Datum) → Composed R fun _ => d.toValue
  | .plain v => by
    simp only [Datum.toValue]
    exact fresh v
  | .lock => by
    simp only [Datum.toValue]
    exact newLock
  | .exception kind message => by
    simp only [Datum.toValue]
    exact newException kind message
  | .list items => by
    simp only [Datum.toValue]
    exact .bind (Composed.toValues items) fun _ => newList _
  | .dict entries => by
    simp only [Datum.toValue]
    exact pure _

theorem Composed.toValues {R : Reach} : (ds : List Datum) → Composed R fun _ => Datum.toValues ds
  | [] => by
    simp only [Datum.toValues]
    exact pure _
  | d :: ds => by
    simp only [Datum.toValues]
    exact .bind (Composed.toValue d) fun _ => .bind (Composed.toValues ds) fun _ => pure _

end

/-- The machine on which the program of a submission starts. -/
def Machine.beginning (m : Machine) (s : Submission) : Machine :=
  Machine.serving ({ m with limits := (m.limits.update s.settings).1 }.renewed s.host.toSurroundings) s.inputs

/-- The report of a submission is that of its program on this machine. -/
theorem Machine.report_submit {m : Machine} {s : Submission} {r : Report}
    (h : (m.submit s).1 = .ok r) :
    Outcome.report (program s.code s.host.engine (m.beginning s)) = r := by
  rw [Machine.submit_eq] at h
  unfold Machine.beginning
  generalize m.limits.update s.settings = p at h ⊢
  obtain ⟨limits, failure⟩ := p
  cases failure with
  | some f => cases h
  | none =>
    dsimp only at h
    rw [Machine.run_eq] at h
    exact Except.ok.inj h

/-- A failure that is reported is the one of the program, unless the program is exhausted. -/
theorem Machine.program_of_failure {m : Machine} {s : Submission} {r : Report} {f : Failure}
    (hr : (m.submit s).1 = .ok r) (hf : r.failure = some f) :
    (∃ n m', program s.code s.host.engine (m.beginning s) = .error (.exhausted n) m') ∨
      ∃ m', program s.code s.host.engine (m.beginning s) = .error (.failed f) m' := by
  rw [← Machine.report_submit hr] at hf
  cases hprogram : program s.code s.host.engine (m.beginning s) with
  | ok flow m' =>
    rw [hprogram] at hf
    cases hf
  | error stop m' =>
    rw [hprogram] at hf
    cases stop with
    | exhausted n => exact .inl ⟨n, m', rfl⟩
    | failed g =>
      cases hf
      exact .inr ⟨m', rfl⟩

theorem Machine.Numbered.serving {S : Nat → Prop} {m : Machine} (h : m.Numbered S)
    (inputs : Inputs) : (m.serving inputs).Numbered S := by
  have hvalues : Composed Reach.nothing fun _ => inputs.values := by
    cases inputs with
    | text t => exact .pure _
    | items data => exact .toValues data
  have hm := hvalues.numbered (Engine.numbered_level S 0) (fun _ => False.elim) m h
  unfold Machine.serving Machine.perform
  cases hr : inputs.values m with
  | ok values m' =>
    rw [hr] at hm
    exact ⟨hm.last, hm.bodies, hm.handled⟩
  | error stop m' =>
    rw [hr] at hm
    exact hm.2

/-- A program starts without functions and without failures that are handled. -/
theorem Machine.beginning_numbered {S : Nat → Prop} (m : Machine) (s : Submission) {n : Nat}
    (hn : S n) : ((m.beginning s).withLine n).Numbered S := by
  obtain ⟨store, values, -, hserving⟩ := Machine.exists_serving_eq s.inputs s.host.toSurroundings
  let fresh : Machine :=
    Machine.renewed { m with limits := (m.limits.update s.settings).1 } s.host.toSurroundings
  have hfresh : (fresh.withLine n).Numbered S := ⟨hn, nofun, nofun⟩
  have hsame : (m.beginning s).withLine n = (fresh.withLine n).serving s.inputs := by
    rw [Machine.beginning, hserving _ rfl rfl, hserving (fresh.withLine n) rfl rfl]
    rfl
  rw [hsame]
  exact hfresh.serving s.inputs

/-- What stops a program on a machine with numbers of its lines is reported with such a number. -/
theorem program_numbered {host : Host} {code : String} {m m' : Machine} {stop : Stop}
    (hm : m.Numbered fun n => n ∈ (splitLines code.toList).map (·.number))
    (h : program code host.engine m = .error stop m') :
    ∃ l ∈ splitLines code.toList, (stop.failure m'.lineNumber).line = some l.number := by
  have houtcome := (Composed.program code).numbered (Engine.numbered_level _ host.levels)
    (fun _ hn => hn) m hm
  change Outcome.Numbered _ (program code host.engine m) at houtcome
  rw [h] at houtcome
  obtain ⟨hstop, hafter⟩ := houtcome
  cases stop with
  | failed f =>
    have hblock : executeBlock host.engine m.store.scopes.size (splitLines code.toList)
        ((Event.opened []).on m) = .error (.failed f) m' := h
    obtain ⟨n, hn⟩ := Option.isSome_iff_exists.1 (executeFrom_located hblock)
    obtain ⟨l, hl, rfl⟩ := List.mem_map.1 (hstop n hn)
    exact ⟨l, hl, hn⟩
  | exhausted k =>
    obtain ⟨l, hl, hnumber⟩ := List.mem_map.1 hafter.last
    exact ⟨l, hl, congrArg some hnumber.symm⟩

/-- If a submission fails, its failure has the number of a line of the program. -/
theorem Machine.submit_numbered {m : Machine} {s : Submission} {r : Report} {f : Failure}
    (hr : (m.submit s).1 = .ok r) (hf : r.failure = some f) :
    ∃ l ∈ splitLines s.code.toList, f.line = some l.number := by
  cases hlines : splitLines s.code.toList with
  | nil =>
    have hdone : (Outcome.report (program s.code s.host.engine (m.beginning s))).failure = none := by
      unfold program
      rw [hlines]
      rfl
    rw [Machine.report_submit hr, hf] at hdone
    cases hdone
  | cons l rest =>
    -- the number of the last line before the program starts does not matter
    have hreport := report_program_withLine s.code s.host.engine (m.beginning s) l.number
    have hstart := m.beginning_numbered (S := fun n => n ∈ (splitLines s.code.toList).map (·.number))
      s (n := l.number) (by rw [hlines]; exact List.mem_cons_self)
    rw [Machine.report_submit hr] at hreport
    rw [← hlines]
    cases hprogram : program s.code s.host.engine ((m.beginning s).withLine l.number) with
    | ok flow m' =>
      rw [hprogram] at hreport
      rw [← hreport] at hf
      cases hf
    | error stop m' =>
      rw [hprogram] at hreport
      rw [← hreport] at hf
      cases hf
      exact program_numbered hstart hprogram

end SnippetGrader
