import SnippetGrader.Proofs.Numbering

/-!
# Where failures come from

A failure passes through everything that goes on around the place where it is raised: statements,
calls, handlers that raise it again and `finally`. `Raises x t` follows it back. For the lines that
are being executed around the computation `x`, and for such lines of each failure that is being
handled, `t` gives for each machine the lines that were being executed when the failure with which
`x` ends was raised for the first time. The lines are kept track of apart from failures and
machines: a statement puts its line on top for the time that it is executed, the body of a function
brings lines of its own, a failure that is caught is remembered with its lines, and these are given
back when it is raised once more.

Every computation has such an account (`Composed.exists_raises`), and the line on the failure is
always the innermost of the lines that it gives (`Raises.sound`).
-/

namespace SnippetGrader

open Source Statement

/-! ## Accounts of failures -/

/-- The lines that are being executed, innermost first. -/
abbrev Stack := List Line

/-- The lines that were being executed when the failure of a computation was first raised: for those
around the computation, those of each failure that is being handled, innermost first, and the
machine. They mean nothing if the computation ends without a failure. -/
abbrev Origins := Stack → List Stack → Machine → Stack

namespace Origins

variable {α : Type}

/-- The failure is raised for the first time. -/
def here : Origins := fun k _ _ => k

/-- The failure is known to come from some lines. -/
def kept (s : Stack) : Origins := fun _ _ _ => s

/-- The failure is the innermost that is being handled, if there is one. -/
def again : Origins := fun k hs _ => hs.head?.getD k

/-- The failure of what follows the result or the failure of `x`. Exhaustion is no failure. -/
def rescue (x : Run α) (t : Origins) (u : α → Origins) (h : Failure → Stack → Origins) : Origins :=
  fun k hs m =>
    match x m with
    | .ok a m' => u a k hs m'
    | .error (.failed f) m' => h f (t k hs m) k hs m'
    | .error (.exhausted _) _ => k

/-- The failure of `x`, or of what follows its result. -/
def bind (x : Run α) (t : Origins) (u : α → Origins) : Origins := rescue x t u fun _ => kept

/-- A call fails where exhaustion inside it becomes a failure. -/
def guardCall (x : Run α) (t : Origins) : Origins := fun k hs m =>
  match x m with
  | .error (.exhausted _) _ => k
  | _ => t k hs m

/-- The failure of a call, given that of the body in each scope. -/
def call (f : Function) (args : List Value) (keywords : Keywords) (t : Nat → Origins) : Origins :=
  fun k hs m =>
    if (m.callDepth : Int) ≥ m.limits.maxCallDepth then k
    else
      match callScope f (m.store.scope f.scope) args keywords with
      | .error _ => k
      | .ok names => t m.store.scopes.size k hs (m.entered names)

/-- The failure of a statement: its line is the innermost while it is executed. -/
def line (l : Line) (t : Origins) : Origins := fun k hs m =>
  match (m.charged l).refusal? with
  | some _ => l :: k
  | none => t (l :: k) hs (m.charged l)

/-- The failure of the lines after the next `skip` ones, given that of each statement. -/
def lines (e : Engine) (scope : Nat) (t : Line → List Line → Origins) :
    (skip : Nat) → List Line → Origins
  | _, [] => here
  | skip, l :: rest =>
    if skip > 0 then lines e scope t (skip - 1) rest
    else bind (executeLine e scope l rest) (line l (t l rest))
      fun p => if p.2.isNormal then lines e scope t p.1 rest else here

/-- The failure of a block. -/
def block (e : Engine) (scope : Nat) (t : Line → List Line → Origins) : List Line → Origins :=
  lines e scope t 0

def handler (e : Engine) (scope : Nat) (t : Line → List Line → Origins) (handlers : List Clause)
    (f : Failure) (s : Stack) : Origins := fun k hs m =>
  match handlerOf? handlers f with
  | none => s
  | some h => block e scope t h.lines k (s :: hs) (catching m scope h.head f)

/-- The failure of the body of `try` and of what follows `except` or `else`. -/
def attempt (e : Engine) (scope : Nat) (t : Line → List Line → Origins) (c : Compound) : Origins :=
  rescue (executeBlock e scope c.lines) (block e scope t c.lines)
    (fun flow => match c.clause? "else" with
      | some lines => if flow.isNormal then block e scope t lines else here
      | none => here)
    fun f s => if c.handlers.isEmpty || isFatal f then kept s else handler e scope t c.handlers f s

/-- The failure of what follows `finally`, or that of the rest, which comes from `before`. -/
def ending (e : Engine) (scope : Nat) (t : Line → List Line → Origins) (c : Compound)
    (before : Origins) : Origins :=
  match c.clause? "finally" with
  | some lines => bind (executeBlock e scope lines) (block e scope t lines)
    fun last => if last.isNormal then before else here
  | none => before

end Origins

/-- Where the failure of a computation comes from is given by `t`. -/
inductive Raises : {α : Type} → Run α → Origins → Prop
  /-- A failure that is raised for the first time has no line yet. -/
  | primitive {α : Type} {x : Run α} (h : Primitive x)
      (hfirst : ∀ m f m', x m = .error (.failed f) m' → f.Unplaced) : Raises x .here
  | again {α : Type} : Raises (Run.raiseAgain : Run α) .again
  | bind {α β : Type} {x : Run α} {f : α → Run β} {t : Origins} {u : α → Origins} (hx : Raises x t)
      (hf : ∀ a, Raises (f a) (u a)) : Raises (x >>= f) (.bind x t u)
  | guardCall {α : Type} {x : Run α} {t : Origins} (hx : Raises x t) :
      Raises (Run.guardCall x) (.guardCall x t)
  | undoing {α β : Type} {x : Run α} {t : Origins} (hx : Raises x t) (b : Store → β)
      (g : Store → Store) : Raises (Run.undoing x (Run.onStore fun s => (.ok (b s), g s))) t
  | call {e : Engine} {f : Function} {t : Nat → Origins}
      (hbody : ∀ scope, Raises (e.block scope f.body) (t scope)) (args : List Value)
      (keywords : Keywords) : Raises (callFunction e f args keywords) (.call f args keywords t)
  | line {e : Engine} {scope : Nat} {l : Line} {rest : List Line} {t : Origins}
      (h : Raises (executeKind e scope l rest (classify l.text)) t) :
      Raises (executeLine e scope l rest) (.line l t)
  | block {e : Engine} {scope : Nat} {t : Line → List Line → Origins}
      (h : ∀ l rest, Raises (executeKind e scope l rest (classify l.text)) (t l rest))
      (lines : List Line) : Raises (executeBlock e scope lines) (.block e scope t lines)
  | guarded {e : Engine} {scope : Nat} {t : Line → List Line → Origins}
      (h : ∀ l rest, Raises (executeKind e scope l rest (classify l.text)) (t l rest))
      (c : Compound) :
      Raises (executeGuarded e.next scope c)
        (.rescue (Statement.guarded e.next scope c) (.attempt e scope t c)
          (fun _ => .ending e scope t c .here) fun _ s => .ending e scope t c (.kept s))

/-- A computation with such an account has moments too, so it leaves the failures that are being
handled as they were. -/
theorem Raises.exists_visits {α : Type} {x : Run α} {t : Origins} (h : Raises x t) :
    ∃ u, Visits x u := by
  induction h with
  | primitive h _ => exact ⟨_, .primitive h⟩
  | again => exact ⟨_, .bind (.primitive .context) fun c => .primitive (.throw _)⟩
  | bind _ _ hx hf =>
    obtain ⟨u, hu⟩ := hx
    choose v hv using hf
    exact ⟨_, .bind hu hv⟩
  | guardCall _ hx =>
    obtain ⟨u, hu⟩ := hx
    exact ⟨_, .guardCall hu⟩
  | undoing _ b g hx =>
    obtain ⟨u, hu⟩ := hx
    exact ⟨_, .undoing hu b g⟩
  | call _ args keywords hbody =>
    choose u hu using hbody
    exact ⟨_, .call hu args keywords⟩
  | line _ h =>
    obtain ⟨u, hu⟩ := h
    exact ⟨_, .line hu⟩
  | block _ lines h =>
    choose u hu using h
    exact ⟨_, .block hu lines⟩
  | guarded _ c h =>
    choose u hu using h
    exact ⟨_, .guarded hu c⟩

theorem Raises.balanced {α : Type} {x : Run α} {t : Origins} (h : Raises x t) : Balanced x := by
  obtain ⟨u, hu⟩ := h.exists_visits
  exact hu.sound.balanced

/-! ## The line on a failure -/

/-- The line on a failure is the innermost of some lines. -/
def Failure.At (f : Failure) (s : Stack) : Prop :=
  ∃ l outer, s = l :: outer ∧ f.line = some l.number ∧ f.text = some (String.ofList l.text)

/-- A failure comes from the lines `s`, and around it `k` are being executed: either it has just been
raised there and has no line, or its line is the innermost of `s`. -/
def Failure.From (f : Failure) (k s : Stack) : Prop := f.Unplaced ∧ s = k ∨ f.At s

theorem Failure.At.isSome {f : Failure} {s : Stack} (h : f.At s) : f.line.isSome := by
  obtain ⟨l, outer, -, hline, -⟩ := h
  rw [hline]
  rfl

theorem Failure.From.at {f : Failure} {k s : Stack} (h : f.From k s) (hf : f.line.isSome) :
    f.At s := by
  refine h.resolve_left fun ⟨hunplaced, _⟩ => ?_
  rw [Failure.Unplaced] at hunplaced
  rw [hunplaced] at hf
  cases hf

/-- A statement notes its line on the failures that have none. -/
theorem Failure.From.locate {f : Failure} {k s : Stack} {l : Line} (h : f.From (l :: k) s) :
    (f.locate l.number (String.ofList l.text)).At s := by
  unfold Failure.locate
  split
  · next hline => exact h.at hline
  · next hline =>
    obtain ⟨-, rfl⟩ | hat := h
    · exact ⟨l, k, rfl, rfl, rfl⟩
    · exact absurd hat.isSome hline

/-- The failures that are being handled come from the lines `hs`. -/
def Machine.Handles (m : Machine) (hs : List Stack) : Prop :=
  List.Forall₂ Failure.At m.handling hs

/-- With `k` being executed around a computation and failures from `hs` being handled, the failure of
the computation comes from where `t` says. -/
def Tells {α : Type} (k : Stack) (hs : List Stack) (x : Run α) (t : Origins) : Prop :=
  ∀ m : Machine, m.Handles hs → ∀ f m', x m = .error (.failed f) m' → f.From k (t k hs m)

namespace Tells

variable {α β : Type} {k : Stack} {hs : List Stack}

theorem pure (a : α) (t : Origins) : Tells k hs (Pure.pure a) t := fun _ _ _ _ h => by cases h

theorem fail {f : Failure} {s : Stack} (hf : f.From k s) :
    Tells k hs (Run.fail f : Run α) (.kept s) := by
  rintro m - _ _ ⟨⟩
  exact hf

theorem again : Tells k hs (Run.raiseAgain : Run α) .again := by
  rintro m hm _ _ ⟨⟩
  change Failure.From (m.handling.head?.getD _) k (hs.head?.getD k)
  unfold Machine.Handles at hm
  generalize m.handling = fs at hm
  cases hm with
  | nil => exact .inl ⟨rfl, rfl⟩
  | cons hat _ => exact .inr hat

theorem rescue {x : Run α} {g : α → Run β} {h : Failure → Run β} {t : Origins} {u : α → Origins}
    {v : Failure → Stack → Origins} (hx : Tells k hs x t) (hbalanced : Balanced x)
    (hg : ∀ a, Tells k hs (g a) (u a))
    (hh : ∀ f s, f.From k s → (∃ m m', x m = .error (.failed f) m') → Tells k hs (h f) (v f s)) :
    Tells k hs (Run.rescue x g h) (.rescue x t u v) := by
  intro m hm f m' hr
  have hafter : (Outcome.after (x m)).Handles hs := by
    have hhandling : (Outcome.after (x m)).handling = m.handling := (hbalanced m).handling
    unfold Machine.Handles
    rwa [hhandling]
  unfold Run.rescue at hr
  unfold Origins.rescue
  cases hxm : x m with
  | ok a m₁ =>
    rw [hxm] at hr hafter
    exact hg a m₁ hafter f m' hr
  | error stop m₁ =>
    rw [hxm] at hr hafter
    cases stop with
    | failed f₁ => exact hh f₁ _ (hx m hm f₁ m₁ hxm) ⟨m, m₁, hxm⟩ m₁ hafter f m' hr
    | exhausted n => cases hr

theorem bind {x : Run α} {g : α → Run β} {t : Origins} {u : α → Origins} (hx : Tells k hs x t)
    (hbalanced : Balanced x) (hg : ∀ a, Tells k hs (g a) (u a)) :
    Tells k hs (x >>= g) (.bind x t u) := by
  rw [Run.bind_eq_rescue]
  exact hx.rescue hbalanced hg fun _ _ hf _ => fail hf

theorem guardCall {x : Run α} {t : Origins} (hx : Tells k hs x t) :
    Tells k hs (Run.guardCall x) (.guardCall x t) := by
  intro m hm f m' hr
  rw [Run.guardCall_eq] at hr
  unfold Origins.guardCall
  cases hxm : x m with
  | ok a m₁ =>
    rw [hxm] at hr
    cases hr
  | error stop m₁ =>
    rw [hxm] at hr
    cases stop with
    | failed f₁ =>
      cases hr
      exact hx m hm f m' hxm
    | exhausted n =>
      cases hr
      exact .inl ⟨by cases n <;> rfl, rfl⟩

theorem undoing {x : Run α} {t : Origins} (hx : Tells k hs x t) (b : Store → β)
    (g : Store → Store) :
    Tells k hs (Run.undoing x (Run.onStore fun s => (.ok (b s), g s))) t := by
  intro m hm f m' hr
  rw [Run.undoing_eq] at hr
  cases hxm : x m with
  | ok a m₁ =>
    rw [hxm] at hr
    cases hr
  | error stop m₁ =>
    rw [hxm] at hr
    cases hr
    exact hx m hm f m₁ hxm

theorem call {e : Engine} {f : Function} {t : Nat → Origins}
    (hbody : ∀ scope, Tells k hs (e.block scope f.body) (t scope)) (args : List Value)
    (keywords : Keywords) :
    Tells k hs (callFunction e f args keywords) (.call f args keywords t) := by
  intro m hm failure m' hr
  rw [callFunction_eq] at hr
  unfold Origins.call
  split at hr
  · next hdepth =>
    rw [if_pos hdepth]
    cases hr
    exact .inl ⟨rfl, rfl⟩
  · next hdepth =>
    rw [if_neg hdepth]
    have hnames := callScope_unplaced f (m.store.scope f.scope) keywords args
    cases hscope : callScope f (m.store.scope f.scope) args keywords with
    | error failure' =>
      rw [hscope] at hr hnames
      cases hr
      exact .inl ⟨hnames, rfl⟩
    | ok names =>
      rw [hscope] at hr
      dsimp only at hr ⊢
      rw [Run.bind_eq, Run.between] at hr
      cases hblock : e.block m.store.scopes.size f.body (m.entered names) with
      | ok flow m₁ =>
        rw [hblock] at hr
        cases hr
      | error stop m₁ =>
        rw [hblock] at hr
        cases hr
        exact hbody _ (m.entered names) hm failure m₁ hblock

/-- Around the failure of a statement its line is the innermost. -/
theorem line {e : Engine} {scope : Nat} {l : Line} {rest : List Line} {t : Origins}
    (h : Tells (l :: k) hs (executeKind e scope l rest (classify l.text)) t) :
    Tells k hs (executeLine e scope l rest) (.line l t) := by
  intro m hm f m' hr
  refine .inr ?_
  rw [executeLine_eq] at hr
  unfold Origins.line
  cases hrefusal : (m.charged l).refusal? with
  | some f₁ =>
    rw [hrefusal] at hr
    cases hr
    exact Failure.From.locate (.inl ⟨Machine.refusal?_unplaced hrefusal, rfl⟩)
  | none =>
    rw [hrefusal] at hr
    dsimp only at hr ⊢
    cases hkind : executeKind e scope l rest (classify l.text) (m.charged l) with
    | ok p m₁ =>
      rw [hkind] at hr
      cases hr
    | error stop m₁ =>
      rw [hkind] at hr
      cases stop with
      | failed f₁ =>
        cases hr
        exact (h (m.charged l) hm f₁ _ hkind).locate
      | exhausted n => cases hr

section Blocks

variable {e : Engine} {scope : Nat} {t : Line → List Line → Origins}
  (hraises : ∀ l rest, Raises (executeKind e scope l rest (classify l.text)) (t l rest))
  (h : ∀ k hs l rest, Tells k hs (executeKind e scope l rest (classify l.text)) (t l rest))
include hraises h

theorem lines (skip : Nat) (ls : List Line) :
    Tells k hs (executeFrom e scope skip ls) (.lines e scope t skip ls) := by
  induction ls generalizing skip with
  | nil => exact pure _ _
  | cons l rest ih =>
    unfold executeFrom Origins.lines
    split
    · exact ih (skip - 1)
    · refine (line (h (l :: k) hs l rest)).bind (Raises.line (hraises l rest)).balanced fun p => ?_
      dsimp only
      split
      · exact ih p.1
      · exact pure _ _

theorem block (ls : List Line) : Tells k hs (executeBlock e scope ls) (.block e scope t ls) :=
  lines hraises h 0 ls

/-- In the handler of a failure the lines from which it comes are remembered. -/
theorem handler (handlers : List Clause) {f : Failure} {s : Stack} (hf : f.At s) :
    Tells k hs (handle e.next scope handlers f) (.handler e scope t handlers f s) := by
  intro m hm f₁ m' hr
  rw [handle_eq] at hr
  unfold Origins.handler
  cases hfound : handlerOf? handlers f with
  | none =>
    rw [hfound] at hr
    cases hr
    exact .inr hf
  | some c =>
    rw [hfound] at hr
    dsimp only at hr ⊢
    rw [Run.between] at hr
    cases hblock : e.next.block scope c.lines (catching m scope c.head f) with
    | ok flow m₁ =>
      rw [hblock] at hr
      cases hr
    | error stop m₁ =>
      rw [hblock] at hr
      cases hr
      exact block hraises h c.lines (catching m scope c.head f) (.cons hf hm) f₁ m₁ hblock

theorem attempt (c : Compound) :
    Tells k hs (Statement.guarded e.next scope c) (.attempt e scope t c) := by
  rw [guarded_eq, Origins.attempt]
  refine (block hraises h c.lines).rescue (Raises.block hraises c.lines).balanced (fun flow => ?_)
    fun f s hf hfails => ?_
  · cases c.clause? "else" with
    | none => exact pure _ _
    | some ls =>
      dsimp only
      split
      · exact block hraises h ls
      · exact pure _ _
  · obtain ⟨m, m', hm⟩ := hfails
    split
    · exact fail hf
    · exact handler hraises h c.handlers (hf.at (executeFrom_located hm))

/-- What follows `finally` gives the failure back if it ends as usual. -/
theorem ending (c : Compound) (outcome : Except Failure Flow) {before : Origins}
    (hbefore : Tells k hs (Run.ofExcept outcome) before) :
    Tells k hs (conclude e.next scope c outcome) (.ending e scope t c before) := by
  have hlast (last : Flow) :
      Tells k hs (if last.isNormal then Run.ofExcept outcome else return last : Run Flow)
        (if last.isNormal then before else .here) := by
    split
    · exact hbefore
    · exact pure _ _
  unfold conclude Origins.ending
  cases c.clause? "finally" with
  | none => exact hbefore
  | some ls =>
    exact (block hraises h ls).bind (Raises.block hraises ls).balanced hlast

theorem guarded (c : Compound) : Tells k hs (executeGuarded e.next scope c)
    (.rescue (Statement.guarded e.next scope c) (.attempt e scope t c)
      (fun _ => .ending e scope t c .here) fun _ s => .ending e scope t c (.kept s)) := by
  choose u hu using fun l rest => (hraises l rest).exists_visits
  have hbalanced := (Sound.attempt (fun l rest => (hu l rest).sound) c).balanced
  exact (attempt hraises h c).rescue hbalanced (fun flow => ending hraises h c _ (pure flow _))
    fun f s hf _ => ending hraises h c _ (fail hf)

end Blocks

end Tells

/-- The failure of a computation comes from where its account says. -/
theorem Raises.sound {α : Type} {x : Run α} {t : Origins} (h : Raises x t) (k : Stack)
    (hs : List Stack) : Tells k hs x t := by
  induction h generalizing k hs with
  | primitive _ hfirst => exact fun m _ f m' hr => .inl ⟨hfirst m f m' hr, rfl⟩
  | again => exact .again
  | bind hx _ ihx ihf => exact (ihx k hs).bind hx.balanced fun a => ihf a k hs
  | guardCall _ ih => exact (ih k hs).guardCall
  | undoing _ b g ih => exact (ih k hs).undoing b g
  | call _ args keywords ih => exact .call (fun scope => ih scope k hs) args keywords
  | line _ ih => exact .line (ih _ hs)
  | block h lines ih => exact .block h (fun k hs l rest => ih l rest k hs) lines
  | guarded h c ih => exact .guarded h (fun k hs l rest => ih l rest k hs) c

/-! ## Every failure has an account -/

namespace Raises

variable {α : Type}

theorem stored {g : Store → Except Stop α × Store} (h : ∀ s, UnplacedStop (g s).1) :
    Raises (Run.onStore g) .here := by
  refine .primitive (.stored g) fun m f m' hr => ?_
  have hm := h m.store
  unfold Run.onStore at hr
  generalize g m.store = p at hm hr
  obtain ⟨r, s⟩ := p
  cases r with
  | ok a => cases hr
  | error stop =>
    cases hr
    exact hm

theorem pure (a : α) : Raises (Pure.pure a) .here :=
  stored (g := fun s => (.ok a, s)) fun _ => trivial

/-- What never fails raises nothing. -/
theorem of_ok {x : Run α} (h : Primitive x) (hok : ∀ m, ∃ a m', x m = .ok a m') :
    Raises x .here := by
  refine .primitive h fun m f m' hr => ?_
  obtain ⟨a, m₁, ha⟩ := hok m
  rw [ha] at hr
  cases hr

theorem context : Raises Run.context .here := .of_ok .context fun _ => ⟨_, _, rfl⟩

theorem newScope (names : Scope) : Raises (Run.newScope names) .here :=
  .of_ok (.newScope names) fun _ => ⟨_, _, rfl⟩

theorem throw {stop : Stop} (h : stop.Unplaced) :
    Raises (MonadExcept.throw stop : Run α) .here :=
  stored (g := fun s => (.error stop, s)) fun _ => h

theorem write (text : String) : Raises (Run.write text) .here := by
  refine .primitive (.write text) fun m f m' hr => ?_
  rw [Run.write_eq] at hr
  split at hr <;> cases hr
  rfl

theorem readInput : Raises Run.readInput .here := by
  refine .primitive .readInput fun m f m' hr => ?_
  rw [Run.readInput_eq] at hr
  split at hr <;> cases hr
  rfl

end Raises

/-- A level has accounts of all that it offers, and above another level also of each statement. -/
structure Engine.Raising (n : Nat) : Prop where
  all : (Engine.level n).All fun x => ∃ t, Raises x t
  statement : ∀ k, n = k + 1 → ∀ scope l rest,
    ∃ t, Raises (executeKind (Engine.level k) scope l rest (classify l.text)) t

theorem Composed.exists_raises {R : Reach} {α : Type} {x : Engine → Run α} (hx : Composed R x)
    {n : Nat} (hn : Engine.Raising n) : ∃ t, Raises (x (Engine.level n)) t := by
  induction hx with
  | stored g h => exact ⟨_, .stored h.unplaced⟩
  | define f _ _ _ =>
    exact ⟨_, .bind .context fun c => .stored (g := Store.define (f c.lineNumber)) fun _ => trivial⟩
  | raiseAgain => exact ⟨_, .again⟩
  | setting => exact ⟨_, .bind .context fun c => .pure _⟩
  | newScope names => exact ⟨_, .newScope names⟩
  | inside names _ hf =>
    choose u hu using hf
    exact ⟨_, .bind (.newScope names) hu⟩
  | bindName ref _ name v => exact ⟨_, .of_ok (.bindName ref name v) fun _ => ⟨_, _, rfl⟩⟩
  | write text => exact ⟨_, .write text⟩
  | readInput => exact ⟨_, .readInput⟩
  | warn text => exact ⟨_, .of_ok (.warn text) fun m => ⟨_, _, Run.warn_eq text m⟩⟩
  | eval scope text h => exact hn.all.eval scope text
  | apply v args keywords h => exact hn.all.apply v args keywords
  | block scope _ lines h => exact hn.all.block scope lines
  | call ref args keywords =>
    have hfound (s : Store) : ∃ t, Raises (s.functions[ref]?.elim (return .none)
        fun f => callFunction (Engine.level n) f args keywords) t := by
      cases s.functions[ref]? with
      | none => exact ⟨_, .pure Value.none⟩
      | some f =>
        choose t ht using fun scope => hn.all.block scope f.body
        exact ⟨_, .call ht args keywords⟩
    choose u hu using hfound
    simp only [callStored_eq]
    exact ⟨_, .bind (.stored (g := fun s => (.ok s, s)) fun _ => trivial) hu⟩
  | bind _ _ hx hf =>
    obtain ⟨t, ht⟩ := hx
    choose u hu using hf
    exact ⟨_, .bind ht hu⟩
  | guardCall _ hx =>
    obtain ⟨t, ht⟩ := hx
    exact ⟨_, .guardCall ht⟩
  | undoing _ b g _ _ hx =>
    obtain ⟨t, ht⟩ := hx
    exact ⟨t, .undoing ht b g⟩
  | line scope line rest _ _ h =>
    obtain ⟨t, ht⟩ := h
    exact ⟨_, .line ht⟩
  | guarded scope _ c h =>
    cases n with
    | zero => exact ⟨_, .throw trivial⟩
    | succ k =>
      choose t ht using hn.statement k rfl scope
      exact ⟨_, .guarded ht c⟩

theorem Engine.raising (n : Nat) : Engine.Raising n := by
  induction n with
  | zero =>
    have hstop {α : Type} : ∃ t, Raises (MonadExcept.throw (.exhausted .evaluation) : Run α) t :=
      ⟨_, .throw trivial⟩
    exact ⟨⟨fun _ _ => hstop, fun _ _ _ => hstop, fun _ _ => hstop⟩, fun k hk => by omega⟩
  | succ n ih =>
    have hkind (scope : Nat) (l : Line) (rest : List Line) :
        ∃ t, Raises (executeKind (Engine.level n) scope l rest (classify l.text)) t :=
      (Composed.executeKind scope ((Reach.lighter _).adding_scope scope) (fun _ => trivial) l rest
        (Reach.within_admits scope (l :: rest)) _).exists_raises ih
    refine ⟨⟨fun scope text => (Composed.evaluate scope text).exists_raises ih,
      fun v args keywords => (Composed.apply_calls v args keywords).exists_raises ih,
      fun scope lines => ?_⟩, fun k hk => ?_⟩
    · choose t ht using hkind scope
      exact ⟨_, .block ht lines⟩
    · obtain rfl : n = k := by omega
      exact hkind

/-! ## Programs -/

/-- The account of a program on a host: no line is being executed around it and no failure is being handled,
and its statements follow, of which each has its own. -/
def ProgramRaises (host : Host) (code : String) (t : Machine → Stack) : Prop :=
  ∃ u : Nat → Line → List Line → Origins,
    (∀ scope l rest,
      Raises (executeKind host.engine scope l rest (classify l.text)) (u scope l rest)) ∧
    ∀ m, t m = Origins.block host.engine m.store.scopes.size (u m.store.scopes.size)
      (splitLines code.toList) [] [] (Outcome.after (Run.newScope [] m))

theorem exists_programRaises (host : Host) (code : String) : ∃ t, ProgramRaises host code t := by
  choose u hu using (Engine.raising (host.levels + 1)).statement host.levels rfl
  exact ⟨_, u, hu, fun _ => rfl⟩

/-- A program that starts while no failure is being handled fails with the innermost of the lines
that its account gives. -/
theorem ProgramRaises.at {host : Host} {code : String} {t : Machine → Stack}
    (h : ProgramRaises host code t) {m m' : Machine} {f : Failure} (hm : m.handling = [])
    (hr : program code host.engine m = .error (.failed f) m') : f.At (t m) := by
  obtain ⟨u, hu, ht⟩ := h
  have hblock : executeBlock host.engine m.store.scopes.size (splitLines code.toList)
      (Outcome.after (Run.newScope [] m)) = .error (.failed f) m' := hr
  have hhandles : (Outcome.after (Run.newScope [] m)).Handles [] := by
    have hhandling : (Outcome.after (Run.newScope [] m)).handling = [] := hm
    unfold Machine.Handles
    rw [hhandling]
    exact .nil
  have hfrom := (Raises.block (hu m.store.scopes.size) (splitLines code.toList)).sound [] []
    _ hhandles f m' hblock
  rw [ht m]
  exact hfrom.at (executeFrom_located hblock)

theorem Machine.handling_beginning (m : Machine) (s : Submission) :
    (m.beginning s).handling = [] := by
  obtain ⟨store, values, -, hserving⟩ := Machine.exists_serving_eq s.inputs s.host.toSurroundings
  rw [Machine.beginning, hserving _ rfl rfl]
  rfl

/-- If a submission fails, whatever was submitted before, its failure has the number of a line of its
program. Unless the program is nested too deeply to go on, this is the innermost of the lines that
were being executed when the failure was raised for the first time, wherever it has passed since. -/
theorem failure_located (m : Machine) (s : Submission) :
    (∃ t, ProgramRaises s.host s.code t) ∧
    ∀ r f, (m.submit s).1 = .ok r → r.failure = some f →
      (∃ l ∈ splitLines s.code.toList, f.line = some l.number) ∧
      ((∃ n m', program s.code s.host.engine (m.beginning s) = .error (.exhausted n) m') ∨
        ∀ t, ProgramRaises s.host s.code t → ∃ l outer, t (m.beginning s) = l :: outer ∧
          f.line = some l.number ∧ f.text = some (String.ofList l.text)) := by
  refine ⟨exists_programRaises s.host s.code, fun r f hr hf => ⟨Machine.submit_numbered hr hf, ?_⟩⟩
  have hreport := Machine.report_submit hr
  cases hprogram : program s.code s.host.engine (m.beginning s) with
  | ok flow m' =>
    rw [hprogram] at hreport
    rw [← hreport] at hf
    cases hf
  | error stop m' =>
    cases stop with
    | exhausted n => exact .inl ⟨n, m', rfl⟩
    | failed g =>
      rw [hprogram] at hreport
      rw [← hreport] at hf
      cases hf
      exact .inr fun t ht => ht.at (m.handling_beginning s) hprogram

/-- A failure in a lambda keeps its line when it is raised again and passes `finally`. -/
example : ((Machine.submit {} { code :=
    "f = lambda: 1 / 0\ntry:\n    f()\nexcept ZeroDivisionError:\n    raise\nfinally:\n    x = 2"
    }).1.toOption.bind Report.failure).map (·.line) = some (some 1) := by decide +kernel

end SnippetGrader
