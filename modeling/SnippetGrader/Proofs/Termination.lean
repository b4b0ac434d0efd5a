import Mathlib.Algebra.Group.Int.Defs
import SnippetGrader.Proofs.Numbering
import SnippetGrader.Proofs.Refusal

/-!
# Every run comes to an end

`bottom.over n` is an engine of `n` levels above any other engine. A run settles at `n` levels if
its outcome does not depend on what lies below them: then nothing below was ever asked, and more
levels change nothing. Every run settles, for all programs, inputs and limits.

The measure has four parts. A call of a function of the program leaves fewer nested calls to
make. Between two such calls, blocks become lighter, texts shorter, and calls of other values are
nested at most once.
-/

namespace SnippetGrader

open Source Statement

/-! ## Engines above an engine -/

/-- The engine of `n` levels above `bottom`. -/
def Engine.over (bottom : Engine) : Nat → Engine
  | 0 => bottom
  | n + 1 => (bottom.over n).next

theorem Engine.level_eq_over (n : Nat) : Engine.level n = Engine.exhausted.over n := by
  induction n with
  | zero => rfl
  | succ n ih => rw [Engine.level, Engine.over, Engine.next, ih]

theorem Engine.over_add (bottom : Engine) (k n : Nat) :
    bottom.over (k + n) = (bottom.over k).over n := by
  induction n with
  | zero => rfl
  | succ n ih => rw [← Nat.add_assoc, Engine.over, Engine.over, ih]

/-! ## Computations that settle -/

/-- How many calls of functions of the program can still be nested. -/
def Machine.callsLeft (m : Machine) : Nat := (m.limits.maxCallDepth - m.callDepth).toNat

/-- Two machines agree on the limits and on the number of calls that are being made. -/
structure Machine.SameDepth (m m' : Machine) : Prop where
  limits : m'.limits = m.limits
  callDepth : m'.callDepth = m.callDepth

theorem Machine.SameDepth.refl (m : Machine) : m.SameDepth m := ⟨rfl, rfl⟩

theorem Machine.SameDepth.trans {m m' m'' : Machine} (h : m.SameDepth m') (h' : m'.SameDepth m'') :
    m.SameDepth m'' :=
  ⟨h'.limits.trans h.limits, h'.callDepth.trans h.callDepth⟩

theorem Machine.SameDepth.callsLeft {m m' : Machine} (h : m.SameDepth m') :
    m'.callsLeft = m.callsLeft := by
  rw [Machine.callsLeft, Machine.callsLeft, h.limits, h.callDepth]

/-- An outcome above some levels does not depend on what lies below them, and the machine after it
is as deep in calls as `m`. -/
def Settling {α : Type} (o : Engine → Outcome α) (m : Machine) : Prop :=
  ∃ n r, (∀ bottom : Engine, o (bottom.over n) = r) ∧ m.SameDepth (Outcome.after r)

/-- A computation settles on every machine on which at most `k` calls can still be nested. -/
def Settled {α : Type} (k : Nat) (x : Engine → Run α) : Prop :=
  ∀ m : Machine, m.callsLeft ≤ k → Settling (fun e => x e m) m

variable {α β : Type} {k : Nat} {m : Machine}

theorem Settling.const {r : Outcome α} (h : m.SameDepth (Outcome.after r)) :
    Settling (fun _ => r) m :=
  ⟨0, r, fun _ => rfl, h⟩

/-- What goes on after a settled outcome settles if it does so for each outcome; it has as many
levels as both need. -/
theorem Settling.andThen {o : Engine → Outcome α} {p : Engine → Outcome β} (ho : Settling o m)
    (hp : ∀ r, m.SameDepth (Outcome.after r) →
      ∃ q, (∀ e, o e = r → p e = q e) ∧ Settling q m) :
    Settling p m := by
  obtain ⟨n, r, hr, hdepth⟩ := ho
  obtain ⟨q, hpq, n', s, hs, hdepth'⟩ := hp r hdepth
  refine ⟨n + n', s, fun bottom => ?_, hdepth'⟩
  have hfirst : o (bottom.over (n + n')) = r := by rw [Nat.add_comm, Engine.over_add, hr]
  rw [hpq _ hfirst, Engine.over_add, hs]

namespace Settled

theorem at_depth {x : Engine → Run α} (hx : Settled k x) (hm : m.callsLeft ≤ k) {m' : Machine}
    (h : m.SameDepth m') : Settling (fun e => x e m') m := by
  obtain ⟨n, r, hr, hdepth⟩ := hx m' (by rw [h.callsLeft]; exact hm)
  exact ⟨n, r, hr, h.trans hdepth⟩

/-- A computation that asks nothing settles if it keeps the depth. -/
theorem const {x : Run α} (h : ∀ m : Machine, m.SameDepth (Outcome.after (x m))) :
    Settled k fun _ => x :=
  fun m _ => .const (h m)

/-- One level more answers what is asked of an engine. -/
theorem asked {x y : Engine → Run α} (hxy : ∀ e : Engine, x e.next = y e) (hy : Settled k y) :
    Settled k x := by
  intro m hm
  obtain ⟨n, r, hr, hdepth⟩ := hy m hm
  refine ⟨n + 1, r, fun bottom => ?_, hdepth⟩
  exact (congrFun (hxy (bottom.over n)) m).trans (hr bottom)

theorem bind {x : Engine → Run α} {f : α → Engine → Run β} (hx : Settled k x)
    (hf : ∀ a, Settled k (f a)) : Settled k fun e => x e >>= fun a => f a e := by
  intro m hm
  simp only [Run.bind_eq]
  refine (hx m hm).andThen fun r hr => ?_
  cases r with
  | ok a m' => exact ⟨fun e => f a e m', fun e he => by rw [he], (hf a).at_depth hm hr⟩
  | error stop m' => exact ⟨fun _ => .error stop m', fun e he => by rw [he], .const hr⟩

theorem rescue {x : Engine → Run α} {f : α → Engine → Run β} {h : Failure → Engine → Run β}
    (hx : Settled k x) (hf : ∀ a, Settled k (f a)) (hh : ∀ failure, Settled k (h failure)) :
    Settled k fun e => Run.rescue (x e) (fun a => f a e) fun failure => h failure e := by
  intro m hm
  simp only [Run.rescue]
  refine (hx m hm).andThen fun r hr => ?_
  cases r with
  | ok a m' => exact ⟨fun e => f a e m', fun e he => by rw [he], (hf a).at_depth hm hr⟩
  | error stop m' =>
    cases stop with
    | failed failure =>
      exact ⟨fun e => h failure e m', fun e he => by rw [he], (hh failure).at_depth hm hr⟩
    | exhausted n =>
      exact ⟨fun _ => .error (.exhausted n) m', fun e he => by rw [he], .const hr⟩

theorem ite {c : Prop} [Decidable c] {x y : Engine → Run α} (hx : Settled k x)
    (hy : Settled k y) : Settled k fun e => if c then x e else y e := by
  by_cases h : c
  · simpa only [if_pos h] using hx
  · simpa only [if_neg h] using hy

theorem guardCall {x : Engine → Run α} (hx : Settled k x) :
    Settled k fun e => Run.guardCall (x e) := by
  intro m hm
  simp only [Run.guardCall_eq]
  refine (hx m hm).andThen fun r hr => ?_
  cases r with
  | ok a m' => exact ⟨fun _ => .ok a m', fun e he => by rw [he], .const hr⟩
  | error stop m' =>
    cases stop with
    | failed f => exact ⟨fun _ => .error (.failed f) m', fun e he => by rw [he], .const hr⟩
    | exhausted n =>
      exact ⟨fun _ => .error (.failed n.failure) m', fun e he => by rw [he], .const hr⟩

theorem undoing {x : Engine → Run α} (hx : Settled k x) (b : Store → β) (g : Store → Store) :
    Settled k fun e => Run.undoing (x e) (Run.onStore fun s => (.ok (b s), g s)) := by
  intro m hm
  simp only [Run.undoing_eq]
  refine (hx m hm).andThen fun r hr => ?_
  cases r with
  | ok a m' => exact ⟨fun _ => .ok a m', fun e he => by rw [he], .const hr⟩
  | error stop m' =>
    exact ⟨fun _ => .error stop { m' with store := g m'.store }, fun e he => by rw [he],
      .const (hr.trans ⟨rfl, rfl⟩)⟩

theorem line {scope : Nat} {line : Line} {rest : List Line}
    (h : Settled k fun e => executeKind e scope line rest (classify line.text)) :
    Settled k fun e => executeLine e scope line rest := by
  intro m hm
  have hcharged : m.SameDepth (m.charged line) := ⟨rfl, rfl⟩
  simp only [executeLine_eq]
  cases (m.charged line).refusal? with
  | some f => exact .const hcharged
  | none =>
    refine (h.at_depth hm hcharged).andThen fun r hr => ?_
    exact ⟨_, fun e he => by rw [he], .const (by rwa [Outcome.after_onFailure])⟩

/-- The body of a function runs where one call less can be nested. -/
theorem call {f : Function} {args : List Value} {keywords : Keywords}
    (hbody : ∀ j < k, ∀ scope, Settled j fun e => e.block scope f.body) :
    Settled k fun e => callFunction e f args keywords := by
  intro m hm
  simp only [callFunction_eq]
  split
  · exact .const (.refl m)
  · next hdepth =>
    cases callScope f (m.store.scope f.scope) args keywords with
    | error failure => exact .const (.refl m)
    | ok names =>
      have hleft : (m.entered names).callsLeft < m.callsLeft := by
        simp only [Machine.callsLeft, Machine.entered]
        omega
      obtain ⟨n, r, hr, hlimits, hcalls⟩ := hbody _ (Nat.lt_of_lt_of_le hleft hm)
        m.store.scopes.size (m.entered names) (Nat.le_refl _)
      have hback : m.SameDepth (Outcome.after r).left := by
        refine ⟨hlimits, ?_⟩
        rw [Machine.left, hcalls, Machine.entered, Nat.add_sub_cancel]
      dsimp only at hr
      simp only [Run.bind_eq, Run.between]
      cases r with
      | ok flow m' =>
        refine ⟨n, .ok (Flow.result flow) m'.left, fun bottom => ?_, hback⟩
        simp only [hr]
        rfl
      | error stop m' =>
        refine ⟨n, .error stop m'.left, fun bottom => ?_, hback⟩
        simp only [hr]
        rfl

section Handlers

variable {scope : Nat} {c : Compound}
  (hb : ∀ lines ∈ c.bodies, Settled k fun e => e.block scope lines)
include hb

theorem handle (f : Failure) : Settled k fun e => Statement.handle e scope c.handlers f := by
  intro m hm
  simp only [handle_eq]
  cases h : handlerOf? c.handlers f with
  | none => exact .const (.refl m)
  | some clause =>
    have hcatching : m.SameDepth (catching m scope clause.head f) := ⟨rfl, rfl⟩
    refine ((hb _ (Composed.handlerOf?_bodies h)).at_depth hm hcatching).andThen fun r hr => ?_
    refine ⟨fun _ => Outcome.onMachine released r, fun e he => by simp only [Run.between, he],
      .const ?_⟩
    rw [Outcome.after_onMachine]
    exact hr.trans ⟨rfl, rfl⟩

theorem guarded : Settled k fun e => Statement.guarded e scope c := by
  simp only [guarded_eq]
  refine .rescue (hb _ List.mem_cons_self) (fun flow => ?_) fun f => ?_
  · cases h : c.clause? "else" with
    | none => exact .const fun m => .refl m
    | some lines => exact .ite (hb _ (Composed.clause_bodies h)) (.const fun m => .refl m)
  · exact .ite (.const fun m => .refl m) (handle hb f)

theorem conclude (outcome : Except Failure Flow) :
    Settled k fun e => Statement.conclude e scope c outcome := by
  have hend (last : Flow) : Settled k fun _ =>
      (if last.isNormal then Run.ofExcept outcome else return last : Run Flow) := by
    refine .ite (.const fun m => ?_) (.const fun m => .refl m)
    cases outcome <;> exact .refl m
  unfold Statement.conclude
  cases h : c.clause? "finally" with
  | none => exact .bind (.const fun m => .refl m) hend
  | some lines => exact .bind (hb _ (Composed.clause_bodies h)) hend

theorem executeGuarded : Settled k fun e => Statement.executeGuarded e scope c :=
  .rescue (guarded hb) (fun flow => conclude hb (.ok flow)) fun f => conclude hb (.error f)

end Handlers

end Settled

/-- All that a reach allows settles, and so do all blocks where fewer calls can be nested. -/
structure Granted (R : Reach) (k : Nat) : Prop where
  texts : ∀ scope text, R.texts text → Settled k fun e => e.eval scope text
  calls : ∀ v args keywords, R.calls args keywords → Settled k fun e => e.apply v args keywords
  blocks : ∀ scope lines, R.blocks lines → Settled k fun e => e.block scope lines
  deeper : ∀ j < k, ∀ scope lines, Settled j fun e => e.block scope lines

theorem Run.onStore_sameDepth (g : Store → Except Stop α × Store) (m : Machine) :
    m.SameDepth (Outcome.after (Run.onStore g m)) := by
  unfold Run.onStore
  cases h : g m.store with
  | mk r s => cases r <;> exact ⟨rfl, rfl⟩

/-- What is put together from settled parts settles. -/
theorem Composed.settled {R : Reach} {x : Engine → Run α} (hx : Composed R x)
    (hR : Granted R k) : Settled k x := by
  induction hx with
  | stored g h => exact .const (Run.onStore_sameDepth g)
  | define f _ _ _ => exact .const fun m => ⟨rfl, rfl⟩
  | raiseAgain => exact .const fun m => .refl m
  | setting => exact .const fun m => .refl m
  | newScope names => exact .const fun m => ⟨rfl, rfl⟩
  | inside names _ hf =>
    exact .bind (.const fun m => ⟨rfl, rfl⟩) fun scope =>
      hf scope ⟨hR.texts, hR.calls, hR.blocks, hR.deeper⟩
  | bindName ref _ name v => exact .const fun m => ⟨rfl, rfl⟩
  | write text =>
    refine .const fun m => ?_
    rw [Run.write_eq, Machine.printed_eq]
    split <;> exact ⟨rfl, rfl⟩
  | readInput =>
    refine .const fun m => ?_
    rw [Run.readInput_eq]
    split <;> exact ⟨rfl, rfl⟩
  | warn text =>
    refine .const fun m => ?_
    rw [Run.warn_eq, Outcome.after_ok, Machine.warned]
    split <;> exact ⟨rfl, rfl⟩
  | eval scope text h => exact hR.texts scope text h
  | apply v args keywords h => exact hR.calls v args keywords h
  | block scope _ lines h => exact hR.blocks scope lines h.block
  | call ref args keywords =>
    refine .bind (.const fun m => .refl m) fun s => ?_
    cases s.functions[ref]? with
    | none => exact .const fun m => .refl m
    | some f => exact .call fun j hj scope => hR.deeper j hj scope f.body
  | bind _ _ hx hf => exact .bind (hx hR) fun a => hf a hR
  | guardCall _ hx => exact .guardCall (hx hR)
  | undoing _ b g _ _ hx => exact .undoing (hx hR) b g
  | line scope line rest _ _ h => exact .line (h hR)
  | guarded scope _ c h =>
    exact .executeGuarded fun lines hl => hR.blocks scope lines (h lines hl).block

/-! ## Texts, calls and blocks

For a fixed number of calls that can be nested, calls with one argument settle first, then all
calls, then texts by their length, then blocks by their weight. -/

section Measure

variable (hdeeper : ∀ j < k, ∀ scope lines, Settled j fun e => e.block scope lines)
include hdeeper

end Measure

end SnippetGrader
