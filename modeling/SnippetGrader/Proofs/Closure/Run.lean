import SnippetGrader.Proofs.Closure.Statement
import SnippetGrader.Proofs.Isolation

/-!
# Machines that hold nothing from outside

A machine is sound if all that it holds refers to things of its own store. A machine on which
nothing was done is sound, inputs keep it so, and every statement, block and expression does, on
every level of nesting and whatever the outcome (`Machine.Sound.executeLine`). So the machines that
programs reach are closed in each of their scopes (`Machine.Sound.isClosed`), and what is left
after a run is sound for the next one (`Machine.sound_run`, `Machine.Sound.submitAll`).
-/

namespace SnippetGrader

open Text Source

/-! ## Inputs -/

mutual

/-- A datum has no value in it that refers to something. -/
def Datum.IsBare : Datum → Prop
  | .plain v => v.IsBare
  | .list data => Datum.AllBare data
  | _ => True

def Datum.AllBare : List Datum → Prop
  | [] => True
  | d :: rest => d.IsBare ∧ Datum.AllBare rest

end

def Inputs.IsBare : Inputs → Prop
  | .text _ => True
  | .items data => Datum.AllBare data

namespace Keeps

variable {S : Store}

mutual

theorem toValue {C : Prop} {d : Datum} (h : d.IsBare) : Keeps S C (Value.Within S) d.toValue := by
  cases d with
  | plain v =>
    rw [Datum.IsBare] at h
    rw [Datum.toValue]
    exact fresh fun _ => h.within S
  | lock =>
    rw [Datum.toValue]
    exact newLock
  | exception kind message =>
    rw [Datum.toValue]
    exact newException
  | list data =>
    rw [Datum.IsBare] at h
    rw [Datum.toValue]
    exact .bind (toValues h) fun _ => newListOf And.right
  | dict entries =>
    rw [Datum.toValue]
    exact pure fun _ => trivial

theorem toValues {C : Prop} {data : List Datum} (h : Datum.AllBare data) :
    Keeps S C (Value.AllWithin S) (Datum.toValues data) := by
  cases data with
  | nil =>
    rw [Datum.toValues]
    exact pure fun _ => nofun
  | cons d rest =>
    rw [Datum.AllBare] at h
    rw [Datum.toValues]
    exact .bind (toValue h.1) fun v => .bind (toValues h.2) fun vs =>
      pure fun hC => List.forall_mem_cons.2 ⟨hC.1.2, hC.2⟩

end

theorem values {C : Prop} {inputs : Inputs} (h : inputs.IsBare) :
    Keeps S C (Value.AllWithin S) inputs.values := by
  cases inputs with
  | text t =>
    refine pure fun _ v hv => ?_
    obtain ⟨line, -, rfl⟩ := List.mem_map.1 hv
    trivial
  | items data => exact toValues h

end Keeps

/-! ## Sound machines -/

/-- All that a machine holds refers to things of its own store. -/
def Machine.Sound (m : Machine) : Prop := m.HeldIn m.store

namespace Machine.Sound

variable {α : Type} {m : Machine}

/-- What only adds things is carried out on a sound machine with the store that it ends with. -/
theorem held {Q : Store → α → Prop} {x : Run α} (hm : m.Sound) (hx : ∀ S, Keeps S True (Q S) x) :
    Outcome.HeldIn (Outcome.after (x m)).store (Q (Outcome.after (x m)).store) (x m) :=
  (hx _).held trivial m (Machine.HeldIn.mono hm ((hx m.store).grows m)) (.refl _)

/-- What only adds things keeps a machine sound, whatever its outcome. -/
theorem after {Q : Store → α → Prop} {x : Run α} (hm : m.Sound) (hx : ∀ S, Keeps S True (Q S) x) :
    (Outcome.after (x m)).Sound := by
  have hheld := hm.held hx
  unfold Sound
  cases hr : x m with
  | ok a m' =>
    rw [hr] at hheld
    exact hheld.1
  | error stop m' =>
    rw [hr] at hheld
    exact hheld

/-- A sound machine is closed in each of its scopes. -/
theorem isClosed (hm : m.Sound) (scope : Nat) : m.IsClosed scope :=
  ⟨hm.store.items, fun _ _ hv => (hm.store.scope scope).get? hv⟩

theorem fresh (limits : Limits) (host : Surroundings) : (Machine.fresh limits host).Sound :=
  ⟨⟨nofun, nofun, nofun, nofun, nofun⟩, nofun⟩

theorem serving (hm : m.Sound) {inputs : Inputs} (h : inputs.IsBare) :
    (m.serving inputs).Sound := by
  have hheld := hm.held fun S => Keeps.values (S := S) h
  unfold Machine.serving Machine.perform
  cases hr : inputs.values m with
  | ok values m' =>
    rw [hr] at hheld
    exact ⟨hheld.1.store, hheld.2⟩
  | error stop m' =>
    rw [hr] at hheld
    exact hheld

theorem start (limits : Limits) {inputs : Inputs} (h : inputs.IsBare) (host : Host) :
    (Machine.start limits inputs host).Sound := (fresh limits host.toSurroundings).serving h

/-! ### Runs -/

variable (hm : m.Sound) (n scope : Nat)
include hm

theorem evaluate (text : List Char) :
    (Outcome.after (Expression.evaluate (Engine.level n) scope text m)).Sound :=
  hm.after fun S => .evaluate (Engine.level_keeps S n) scope text

/-- The value of an expression refers to nothing that is not there. -/
theorem evaluate_within {text : List Char} {v : Value} {m' : Machine}
    (h : Expression.evaluate (Engine.level n) scope text m = .ok v m') : v.Within m'.store := by
  have hheld := hm.held fun S => Keeps.evaluate (Engine.level_keeps S n) scope text
  rw [h] at hheld
  exact hheld.2

/-- A statement keeps a machine sound, whether it ends, fails or is stopped. -/
theorem executeLine (line : Line) (rest : List Line) :
    (Outcome.after (Statement.executeLine (Engine.level n) scope line rest m)).Sound :=
  hm.after fun S => .executeLine (Engine.level_keeps S n) scope line rest

theorem executeBlock (lines : List Line) :
    (Outcome.after (Statement.executeBlock (Engine.level n) scope lines m)).Sound :=
  hm.after fun S => .executeBlock (Engine.level_keeps S n) scope lines

end Machine.Sound

theorem Keeps.program {S : Store} {e : Engine} (he : e.Keeps S) (code : String) :
    Keeps S True (Flow.Within S) (SnippetGrader.program code e) :=
  .seq (newScope fun _ => .nil) fun scope => executeBlock he scope _

/-- The machine after a run is sound, whatever machine the run found and whatever the program did. -/
theorem Machine.sound_run (m : Machine) {inputs : Inputs} (h : inputs.IsBare) (code : String)
    (host : Host) : (m.run inputs code host).2.Sound := by
  have hrenewed : (m.renewed host.toSurroundings).Sound :=
    ⟨⟨nofun, nofun, nofun, nofun, nofun⟩, nofun⟩
  have hend := (hrenewed.serving h).after fun S =>
    Keeps.program (Engine.level_keeps S host.levels) code
  rw [Machine.run_eq]
  exact Machine.HeldIn.congr hend rfl rfl

namespace Machine.Sound

variable {m : Machine} (hm : m.Sound)
include hm

/-- A submission leaves a sound machine, also if its settings are refused. -/
theorem submit {s : Submission} (h : s.inputs.IsBare) : (m.submit s).2.Sound := by
  rw [Machine.submit_eq]
  split
  · exact Machine.sound_run _ h s.code s.host
  · exact Machine.HeldIn.congr hm rfl rfl

theorem submitAll {submissions : List Submission} (h : ∀ s ∈ submissions, s.inputs.IsBare) :
    (m.submitAll submissions).2.Sound := by
  induction submissions generalizing m with
  | nil => exact hm
  | cons s rest ih =>
    obtain ⟨hs, hrest⟩ := List.forall_mem_cons.1 h
    exact ih (hm.submit hs) hrest

end Machine.Sound

end SnippetGrader
