import SnippetGrader.Proofs.Provenance

/-!
# Where functions are made

A lambda keeps the number of the line of the statement that was attempted last. This is the statement
that it stands in, unless evaluating this statement has called a function before or executed a body:
the statements in there have been attempted since, and the number of the last one stays when they are
done.

`Records x t` gives the marks of the computation `x` on each machine: the statements that it attempts
and the functions that it makes, in the order in which this happens, each with the lines that are being
executed around it. Every computation has such marks (`Composed.recorded`). They nest as statements do,
and they tell what the computation leaves behind: the number of the last line, how many statements were
attempted, and all functions (`Records.sound`).
-/

namespace SnippetGrader

open Source Statement

/-! ## Marks -/

/-- A statement that is attempted or a function that is made, with the lines that are being executed
around it. -/
inductive Mark where
  | attempted (l : Line) (around : Stack)
  | made (f : Function) (around : Stack)

namespace Mark

/-- The lines that are being executed. -/
def around : Mark → Stack
  | attempted _ k | made _ k => k

/-- The statement that is attempted. -/
def line? : Mark → Option Line
  | attempted l _ => some l
  | made _ _ => none

def function? : Mark → Option Function
  | attempted _ _ => none
  | made f _ => some f

end Mark

/-- The number of the statement that was attempted last, which is `n` before all marks. -/
def lastNumber : (n : Nat) → List Mark → Nat
  | n, [] => n
  | _, .attempted l _ :: marks => lastNumber l.number marks
  | n, .made _ _ :: marks => lastNumber n marks

theorem lastNumber_append (n : Nat) (first second : List Mark) :
    lastNumber n (first ++ second) = lastNumber (lastNumber n first) second := by
  induction first generalizing n with
  | nil => rfl
  | cons mark marks ih => cases mark <;> exact ih _

theorem lastNumber_of_no_line {n : Nat} {marks : List Mark} (h : ∀ mark ∈ marks, mark.line? = none) :
    lastNumber n marks = n := by
  induction marks with
  | nil => rfl
  | cons mark marks ih =>
    rw [List.forall_mem_cons] at h
    cases mark with
    | attempted l k => cases h.1
    | made f k => exact ih h.2

/-- What these marks make of a machine. -/
structure Machine.Leaves (m : Machine) (marks : List Mark) (m' : Machine) : Prop where
  lineNumber : m'.lineNumber = lastNumber m.lineNumber marks
  functions : m'.store.functions.toList =
    m.store.functions.toList ++ marks.filterMap Mark.function?
  steps : m'.steps = m.steps + (marks.filterMap Mark.line?).length

namespace Machine.Leaves

variable {m m' m'' : Machine}

theorem none (hline : m'.lineNumber = m.lineNumber)
    (hfunctions : m'.store.functions = m.store.functions) (hsteps : m'.steps = m.steps) :
    m.Leaves [] m' :=
  ⟨hline, by rw [hfunctions, List.filterMap_nil, List.append_nil], hsteps⟩

theorem refl (m : Machine) : m.Leaves [] m := none rfl rfl rfl

theorem trans {first second : List Mark} (h : m.Leaves first m') (h' : m'.Leaves second m'') :
    m.Leaves (first ++ second) m'' where
  lineNumber := by rw [h'.lineNumber, h.lineNumber, lastNumber_append]
  functions := by rw [h'.functions, h.functions, List.filterMap_append, List.append_assoc]
  steps := by rw [h'.steps, h.steps, List.filterMap_append, List.length_append, Nat.add_assoc]

theorem attempted (m : Machine) (l : Line) (k : Stack) :
    m.Leaves [.attempted l k] (m.charged l) :=
  ⟨rfl, (List.append_nil _).symm, rfl⟩

end Machine.Leaves

/-! ## Accounts of computations -/

/-- The marks of a computation on each machine, for the lines that are being executed around it. -/
abbrev Marks := Stack → Machine → List Mark

namespace Marks

variable {α : Type}

/-- No marks. -/
def none : Marks := fun _ _ => []

/-- The mark of a function that gets the number of the last line. -/
def made (f : Nat → Function) : Marks := fun k m => [.made (f m.lineNumber) k]

/-- The marks of `x` and of what follows its result or its failure. -/
def rescue (x : Run α) (t : Marks) (u : α → Marks) (h : Failure → Marks) : Marks := fun k m =>
  t k m ++ match x m with
    | .ok a m' => u a k m'
    | .error (.failed f) m' => h f k m'
    | .error (.exhausted _) _ => []

/-- The marks of what runs on a machine that `g` prepares. -/
def between (g : Machine → Machine) (t : Marks) : Marks := fun k m => t k (g m)

/-- The marks of a statement, whose line is the innermost for the rest of them. -/
def line (l : Line) (t : Marks) : Marks := fun k m =>
  .attempted l k :: match (m.charged l).refusal? with
    | some _ => []
    | .none => t (l :: k) (m.charged l)

/-- The marks of a computation that depends on the machine. -/
def onMachine (t : Machine → Marks) : Marks := fun k m => t m k m

/-- The marks of the lines after the next `skip` ones, given those of each statement. -/
def lines (e : Engine) (scope : Nat) (t : Line → List Line → Marks) :
    (skip : Nat) → List Line → Marks
  | _, [] => none
  | skip, l :: rest =>
    if skip > 0 then lines e scope t (skip - 1) rest
    else rescue (executeLine e scope l rest) (line l (t l rest))
      (fun p => if p.2.isNormal then lines e scope t p.1 rest else none) fun _ => none

/-- The marks of a block. -/
def block (e : Engine) (scope : Nat) (t : Line → List Line → Marks) : List Line → Marks :=
  lines e scope t 0

end Marks

/-- The marks of a computation are given by `t`. -/
inductive Records : {α : Type} → Run α → Marks → Prop
  /-- What attempts no statement and makes no function. -/
  | quiet {α : Type} {x : Run α} (h : ∀ m : Machine, m.Leaves [] (Outcome.after (x m))) :
      Records x .none
  /-- The body of a lambda is one line, which gets the number of the last one. -/
  | make (f : Nat → Function)
      (hlambda : ∀ n, (f n).name = "<lambda>" → ∃ l, (f n).body = [l] ∧ l.number = n) :
      Records (Run.context >>= fun c => Expression.newFunction (f c.lineNumber)) (.made f)
  | rescue {α β : Type} {x : Run α} {g : α → Run β} {h : Failure → Run β} {t : Marks}
      {u : α → Marks} {v : Failure → Marks} (hx : Records x t) (hg : ∀ a, Records (g a) (u a))
      (hh : ∀ f, Records (h f) (v f)) : Records (Run.rescue x g h) (.rescue x t u v)
  | guardCall {α : Type} {x : Run α} {t : Marks} (hx : Records x t) :
      Records (Run.guardCall x) t
  | undoing {α β : Type} {x : Run α} {t : Marks} (hx : Records x t) (b : Store → β)
      (g : Store → Store) (hg : ∀ s, (g s).functions = s.functions) :
      Records (Run.undoing x (Run.onStore fun s => (.ok (b s), g s))) t
  | between {α : Type} {x : Run α} {t : Marks} (hx : Records x t) {g g' : Machine → Machine}
      (hg : ∀ m : Machine, m.Leaves [] (g m)) (hg' : ∀ m : Machine, m.Leaves [] (g' m)) :
      Records (Run.between g x g') (.between g t)
  | line {e : Engine} {scope : Nat} {l : Line} {rest : List Line} {t : Marks}
      (h : Records (executeKind e scope l rest (classify l.text)) t) :
      Records (executeLine e scope l rest) (.line l t)
  | onMachine {α : Type} {x : Run α} {y : Machine → Run α} {t : Machine → Marks}
      (h : ∀ m, Records (y m) (t m)) (hx : ∀ m, x m = y m m) : Records x (.onMachine t)

theorem Records.pure {α : Type} (a : α) : Records (Pure.pure a : Run α) .none :=
  .quiet fun m => .refl m

theorem Records.fail {α : Type} (f : Failure) : Records (Run.fail f : Run α) .none :=
  .quiet fun m => .refl m

section Blocks

variable {e : Engine} {scope : Nat} {t : Line → List Line → Marks}
  (h : ∀ l rest, Records (executeKind e scope l rest (classify l.text)) (t l rest))
include h

theorem Records.lines (skip : Nat) (ls : List Line) :
    Records (executeFrom e scope skip ls) (.lines e scope t skip ls) := by
  induction ls generalizing skip with
  | nil => exact .pure _
  | cons l rest ih =>
    unfold executeFrom Marks.lines
    split
    · exact ih (skip - 1)
    · rw [Run.bind_eq_rescue]
      refine .rescue (.line (h l rest)) (fun p => ?_) .fail
      dsimp only
      split
      · exact ih p.1
      · exact .pure _

theorem Records.block (ls : List Line) :
    Records (executeBlock e scope ls) (.block e scope t ls) := .lines h 0 ls

end Blocks

/-! ## Marks nest -/

/-- The marks of a computation that begins after a statement with the number `n` and around which `k`
are being executed: those of a statement follow its attempt and have its line around them, and a
lambda gets the number of the last attempt. -/
inductive Nested : Nat → Stack → List Mark → Prop
  | nil (n : Nat) (k : Stack) : Nested n k []
  | made {n : Nat} (k : Stack) {f : Function}
      (h : f.name = "<lambda>" → ∃ l, f.body = [l] ∧ l.number = n) : Nested n k [.made f k]
  | append {n : Nat} {k : Stack} {first second : List Mark} (h : Nested n k first)
      (h' : Nested (lastNumber n first) k second) : Nested n k (first ++ second)
  | attempted (n : Nat) {k : Stack} {l : Line} {inner : List Mark}
      (h : Nested l.number (l :: k) inner) : Nested n k (.attempted l k :: inner)

namespace Nested

variable {n : Nat} {k : Stack} {marks : List Mark}

/-- All marks have the lines around the computation around them. -/
theorem suffix_around (h : Nested n k marks) : ∀ mark ∈ marks, k <:+ mark.around := by
  induction h with
  | nil n k => nofun
  | made k h =>
    intro mark hmark
    obtain rfl := List.mem_singleton.1 hmark
    exact List.suffix_rfl
  | append _ _ ih ih' => exact fun mark hmark => (List.mem_append.1 hmark).elim (ih mark) (ih' mark)
  | attempted n _ ih =>
    intro mark hmark
    obtain rfl | hmark := List.mem_cons.1 hmark
    · exact List.suffix_rfl
    · exact (List.suffix_cons _ _).trans (ih mark hmark)

/-- A lambda that is made after the marks `before` gets the number of the last statement among them. A
function is made outside of all statements that a computation attempts, or in one of them: this is then
the innermost line, and all that happens from its attempt to the making of the function happens in
it. -/
theorem of_made (h : Nested n k marks) {before after : List Mark} {f : Function} {around : Stack}
    (hmarks : marks = before ++ .made f around :: after) :
    (f.name = "<lambda>" → ∃ l, f.body = [l] ∧ l.number = lastNumber n before) ∧
    (around = k ∨ ∃ l outer start since, around = l :: outer ∧
      before = start ++ .attempted l outer :: since ∧ ∀ mark ∈ since, around <:+ mark.around) := by
  induction h generalizing before after with
  | nil n k => simp at hmarks
  | made k h =>
    obtain ⟨rfl, ⟨rfl, rfl⟩, -⟩ : before = [] ∧ (f = _ ∧ around = k) ∧ after = [] := by
      simpa [List.singleton_eq_append_iff] using hmarks
    exact ⟨h, .inl rfl⟩
  | @append n k first second _ _ ih ih' =>
    obtain ⟨c, rfl, hc⟩ | ⟨c, rfl, hc⟩ := List.append_eq_append_iff.1 hmarks
    · obtain ⟨hnumber, hplace⟩ := ih' hc
      rw [lastNumber_append]
      refine ⟨hnumber, hplace.imp_right fun ⟨l, outer, start, since, haround, hsince, hwithin⟩ => ?_⟩
      exact ⟨l, outer, first ++ start, since, haround, by rw [hsince, List.append_assoc], hwithin⟩
    · cases c with
      | nil =>
        have hfirst : second = [] ++ .made f around :: after := hc.symm
        obtain ⟨hnumber, hplace⟩ := ih' hfirst
        rw [List.append_nil] at hnumber
        refine ⟨hnumber, hplace.imp_right fun ⟨l, outer, start, since, _, hsince, _⟩ => ?_⟩
        simp at hsince
      | cons mark c =>
        obtain ⟨rfl, rfl⟩ := List.cons.inj hc
        exact ih rfl
  | @attempted n k l inner h ih =>
    cases before with
    | nil => cases hmarks
    | cons mark before =>
      obtain ⟨rfl, rfl⟩ := List.cons.inj hmarks
      obtain ⟨hnumber, hplace⟩ := ih rfl
      refine ⟨hnumber, .inr ?_⟩
      obtain rfl | ⟨l', outer, start, since, haround, rfl, hwithin⟩ := hplace
      · exact ⟨l, k, [], before, rfl, rfl, fun mark hmark =>
          h.suffix_around mark (List.mem_append_left _ hmark)⟩
      · exact ⟨l', outer, .attempted l k :: start, since, haround, rfl, hwithin⟩

end Nested

/-- With `k` being executed around a computation, its marks nest and tell what it leaves. -/
structure Traced {α : Type} (k : Stack) (x : Run α) (t : Marks) : Prop where
  nested : ∀ m : Machine, Nested m.lineNumber k (t k m)
  leaves : ∀ m : Machine, m.Leaves (t k m) (Outcome.after (x m))

namespace Traced

variable {α β : Type} {k : Stack}

theorem make {f : Nat → Function}
    (hlambda : ∀ n, (f n).name = "<lambda>" → ∃ l, (f n).body = [l] ∧ l.number = n) :
    Traced k (Run.context >>= fun c => Expression.newFunction (f c.lineNumber)) (.made f) where
  nested m := .made k (hlambda m.lineNumber)
  leaves _ := ⟨rfl, Array.toList_push, rfl⟩

theorem rescue {x : Run α} {g : α → Run β} {h : Failure → Run β} {t : Marks} {u : α → Marks}
    {v : Failure → Marks} (hx : Traced k x t) (hg : ∀ a, Traced k (g a) (u a))
    (hh : ∀ f, Traced k (h f) (v f)) : Traced k (Run.rescue x g h) (.rescue x t u v) := by
  have hboth (m : Machine) : Nested m.lineNumber k (Marks.rescue x t u v k m) ∧
      m.Leaves (Marks.rescue x t u v k m) (Outcome.after (Run.rescue x g h m)) := by
    have hnested := hx.nested m
    have hleaves := hx.leaves m
    have hline := hleaves.lineNumber
    unfold Run.rescue Marks.rescue
    cases hr : x m with
    | ok a m' =>
      rw [hr] at hleaves hline
      exact ⟨hnested.append (hline ▸ (hg a).nested m'), hleaves.trans ((hg a).leaves m')⟩
    | error stop m' =>
      rw [hr] at hleaves hline
      cases stop with
      | failed f =>
        exact ⟨hnested.append (hline ▸ (hh f).nested m'), hleaves.trans ((hh f).leaves m')⟩
      | exhausted n => exact ⟨hnested.append (.nil _ _), hleaves.trans (.refl m')⟩
  exact ⟨fun m => (hboth m).1, fun m => (hboth m).2⟩

theorem guardCall {x : Run α} {t : Marks} (hx : Traced k x t) : Traced k (Run.guardCall x) t := by
  refine ⟨hx.nested, fun m => ?_⟩
  have hleaves := hx.leaves m
  rw [Run.guardCall_eq]
  cases hr : x m with
  | ok a m' => rwa [hr] at hleaves
  | error stop m' =>
    rw [hr] at hleaves
    cases stop <;> exact hleaves

theorem undoing {x : Run α} {t : Marks} (hx : Traced k x t) (b : Store → β) {g : Store → Store}
    (hg : ∀ s, (g s).functions = s.functions) :
    Traced k (Run.undoing x (Run.onStore fun s => (.ok (b s), g s))) t := by
  refine ⟨hx.nested, fun m => ?_⟩
  have hleaves := hx.leaves m
  rw [Run.undoing_eq]
  cases hr : x m with
  | ok a m' => rwa [hr] at hleaves
  | error stop m' =>
    rw [hr] at hleaves
    have hfunctions : m'.store.functions.toList = _ := hleaves.functions
    rw [← hg] at hfunctions
    exact ⟨hleaves.lineNumber, hfunctions, hleaves.steps⟩

theorem between {x : Run α} {t : Marks} (hx : Traced k x t) {g g' : Machine → Machine}
    (hg : ∀ m : Machine, m.Leaves [] (g m)) (hg' : ∀ m : Machine, m.Leaves [] (g' m)) :
    Traced k (Run.between g x g') (.between g t) := by
  refine ⟨fun m => ?_, fun m => ?_⟩
  · have hline : (g m).lineNumber = m.lineNumber := (hg m).lineNumber
    exact hline ▸ hx.nested (g m)
  · rw [Run.between, Outcome.after_onMachine]
    have hleaves := ((hg m).trans (hx.leaves (g m))).trans (hg' _)
    rwa [List.append_nil] at hleaves

theorem line {e : Engine} {scope : Nat} {l : Line} {rest : List Line} {t : Marks}
    (h : Traced (l :: k) (executeKind e scope l rest (classify l.text)) t) :
    Traced k (executeLine e scope l rest) (.line l t) := by
  have hboth (m : Machine) : Nested m.lineNumber k (Marks.line l t k m) ∧
      m.Leaves (Marks.line l t k m) (Outcome.after (executeLine e scope l rest m)) := by
    rw [executeLine_eq, Outcome.after_onFailure]
    unfold Marks.line
    cases (m.charged l).refusal? with
    | some f => exact ⟨.attempted _ (.nil _ _), .attempted m l k⟩
    | none =>
      exact ⟨.attempted _ (h.nested (m.charged l)),
        (Machine.Leaves.attempted m l k).trans (h.leaves (m.charged l))⟩
  exact ⟨fun m => (hboth m).1, fun m => (hboth m).2⟩

end Traced

/-- The marks of a computation nest and tell what it leaves. -/
theorem Records.sound {α : Type} {x : Run α} {t : Marks} (h : Records x t) (k : Stack) :
    Traced k x t := by
  induction h generalizing k with
  | quiet h => exact ⟨fun m => .nil _ _, h⟩
  | make f hlambda => exact .make hlambda
  | rescue _ _ _ hx hg hh => exact (hx k).rescue (fun a => hg a k) fun f => hh f k
  | guardCall _ hx => exact (hx k).guardCall
  | undoing _ b g hg hx => exact (hx k).undoing b hg
  | between _ hg hg' hx => exact (hx k).between hg hg'
  | line _ h => exact .line (h (_ :: k))
  | onMachine _ hx h =>
    exact ⟨fun m => (h m k).nested m, fun m => by rw [hx m]; exact (h m k).leaves m⟩

theorem Records.exists_line {e : Engine} {scope : Nat} {t : Line → List Line → Marks}
    (h : ∀ l rest, Records (executeKind e scope l rest (classify l.text)) (t l rest)) (skip : Nat)
    (ls : List Line) (k : Stack) (m : Machine) {f : Function} {around : Stack}
    (hf : .made f around ∈ Marks.lines e scope t skip ls k m) : around ≠ k := by
  induction ls generalizing skip m with
  | nil => cases hf
  | cons l rest ih =>
    unfold Marks.lines at hf
    split at hf
    · exact ih (skip - 1) m hf
    · obtain hline | hrest := List.mem_append.1 hf
      · unfold Marks.line at hline
        obtain hmade | hinner := List.mem_cons.1 hline
        · cases hmade
        · split at hinner
          · cases hinner
          · rintro rfl
            have hsuffix := ((h l rest).sound (l :: around)).nested (m.charged l)
            exact absurd (hsuffix.suffix_around _ hinner).length_le (by simp [Mark.around])
      · split at hrest
        · dsimp only at hrest
          split at hrest
          · exact ih _ _ hrest
          · cases hrest
        · cases hrest
        · cases hrest

/-! ## Every computation has its marks -/

/-- A computation has marks. -/
def Recorded {α : Type} (x : Run α) : Prop := ∃ t, Records x t

namespace Recorded

variable {α β : Type}

theorem quiet {x : Run α} (h : ∀ m : Machine, m.Leaves [] (Outcome.after (x m))) : Recorded x :=
  ⟨_, .quiet h⟩

theorem pure (a : α) : Recorded (Pure.pure a : Run α) := ⟨_, .pure a⟩

theorem fail (f : Failure) : Recorded (Run.fail f : Run α) := ⟨_, .fail f⟩

theorem onStore {g : Store → Except Stop α × Store}
    (h : ∀ s, (g s).2.functions = s.functions) : Recorded (Run.onStore g) := by
  refine quiet fun m => ?_
  have hkept := h m.store
  unfold Run.onStore
  generalize g m.store = p at hkept
  obtain ⟨r, s⟩ := p
  cases r <;> exact .none rfl hkept rfl

theorem newScope (names : Scope) : Recorded (Run.newScope names) := quiet fun _ => .none rfl rfl rfl

theorem write (text : String) : Recorded (Run.write text) := by
  refine quiet fun m => ?_
  rw [Run.write_eq, Machine.printed_eq]
  split <;> exact .none rfl rfl rfl

theorem readInput : Recorded Run.readInput := by
  refine quiet fun m => ?_
  rw [Run.readInput_eq]
  cases m.inputs <;> exact .none rfl rfl rfl

theorem warn (text : String) : Recorded (Statement.warn text) := by
  refine quiet fun m => ?_
  rw [Run.warn_eq]
  exact .none rfl rfl rfl

theorem rescue {x : Run α} {g : α → Run β} {h : Failure → Run β} (hx : Recorded x)
    (hg : ∀ a, Recorded (g a)) (hh : ∀ f, Recorded (h f)) : Recorded (Run.rescue x g h) := by
  obtain ⟨t, ht⟩ := hx
  choose u hu using hg
  choose v hv using hh
  exact ⟨_, .rescue ht hu hv⟩

theorem bind {x : Run α} {g : α → Run β} (hx : Recorded x) (hg : ∀ a, Recorded (g a)) :
    Recorded (x >>= g) := by
  rw [Run.bind_eq_rescue]
  exact hx.rescue hg fail

theorem guardCall {x : Run α} (hx : Recorded x) : Recorded (Run.guardCall x) := by
  obtain ⟨t, ht⟩ := hx
  exact ⟨_, .guardCall ht⟩

theorem undoing {x : Run α} (hx : Recorded x) (b : Store → β) {g : Store → Store}
    (hg : ∀ s, (g s).functions = s.functions) :
    Recorded (Run.undoing x (Run.onStore fun s => (.ok (b s), g s))) := by
  obtain ⟨t, ht⟩ := hx
  exact ⟨_, .undoing ht b g hg⟩

theorem between {x : Run α} (hx : Recorded x) {g g' : Machine → Machine}
    (hg : ∀ m : Machine, m.Leaves [] (g m)) (hg' : ∀ m : Machine, m.Leaves [] (g' m)) :
    Recorded (Run.between g x g') := by
  obtain ⟨t, ht⟩ := hx
  exact ⟨_, .between ht hg hg'⟩

/-- On each machine a computation can be another one. -/
theorem onMachine {x : Run α} (h : ∀ m, ∃ y : Run α, Recorded y ∧ x m = y m) : Recorded x := by
  choose y hy hx using h
  choose t ht using hy
  exact ⟨_, .onMachine ht hx⟩

/-! ## Calls, statements and handlers -/

theorem callFunction {e : Engine} {f : Function} (hbody : ∀ scope, Recorded (e.block scope f.body))
    (args : List Value) (keywords : Keywords) :
    Recorded (Statement.callFunction e f args keywords) := by
  refine onMachine fun m => ?_
  rw [callFunction_eq]
  split
  · exact ⟨_, fail _, rfl⟩
  · cases callScope f (m.store.scope f.scope) args keywords with
    | error failure => exact ⟨_, fail failure, rfl⟩
    | ok names =>
      have hcall : Recorded
          (Run.between (·.entered names) (e.block m.store.scopes.size f.body) Machine.left) :=
        (hbody m.store.scopes.size).between (fun _ => .none rfl rfl rfl) fun _ => .none rfl rfl rfl
      exact ⟨_, hcall.bind fun flow => pure (Flow.result flow), rfl⟩

theorem callStored {e : Engine} (hblock : ∀ scope lines, Recorded (e.block scope lines)) (ref : Nat)
    (args : List Value) (keywords : Keywords) :
    Recorded (Statement.callStored e ref args keywords) := by
  rw [Statement.callStored_eq]
  refine (onStore (g := fun s => (.ok s, s)) fun _ => rfl).bind fun s => ?_
  cases s.functions[ref]? with
  | none => exact pure Value.none
  | some f => exact callFunction (fun scope => hblock scope f.body) args keywords

theorem executeLine {e : Engine} {scope : Nat} {l : Line} {rest : List Line}
    (h : Recorded (executeKind e scope l rest (classify l.text))) :
    Recorded (Statement.executeLine e scope l rest) := by
  obtain ⟨t, ht⟩ := h
  exact ⟨_, .line ht⟩

section Handlers

variable {e : Engine} (hb : ∀ scope lines, Recorded (e.block scope lines)) (scope : Nat) (c : Compound)
include hb

theorem handle (f : Failure) : Recorded (Statement.handle e scope c.handlers f) := by
  rw [handle_eq]
  cases handlerOf? c.handlers f with
  | none => exact fail f
  | some clause =>
    refine (hb scope clause.lines).between (fun m => ?_) fun _ => .none rfl rfl rfl
    unfold catching
    dsimp only
    split <;> exact .none rfl rfl rfl

theorem guarded : Recorded (Statement.guarded e scope c) := by
  rw [guarded_eq]
  refine (hb scope c.lines).rescue (fun flow => ?_) fun f => ?_
  · split
    · split
      · exact hb scope _
      · exact pure flow
    · exact pure flow
  · split
    · exact fail f
    · exact handle hb scope c f

theorem conclude (outcome : Except Failure Flow) :
    Recorded (Statement.conclude e scope c outcome) := by
  have hend (last : Flow) :
      Recorded (if last.isNormal then Run.ofExcept outcome else return last : Run Flow) := by
    split
    · cases outcome with
      | ok flow => exact pure flow
      | error f => exact fail f
    · exact pure last
  unfold Statement.conclude
  split
  · exact (hb scope _).bind hend
  · exact (pure _).bind hend

theorem executeGuarded : Recorded (Statement.executeGuarded e scope c) :=
  (guarded hb scope c).rescue (fun _ => conclude hb scope c _) fun _ => conclude hb scope c _

end Handlers

end Recorded

theorem Composed.recorded {R : Reach} {α : Type} {x : Engine → Run α} (hx : Composed R x) {e : Engine}
    (he : e.All Recorded) : Recorded (x e) := by
  induction hx with
  | stored g h => exact .onStore h.kept
  | define f _ _ hlambda => exact ⟨_, .make f hlambda⟩
  | raiseAgain => exact .quiet fun m => .refl m
  | setting => exact .quiet fun m => .refl m
  | newScope names => exact .newScope names
  | inside names _ hf => exact (Recorded.newScope names).bind hf
  | bindName ref _ name v => exact .quiet fun _ => .none rfl rfl rfl
  | write text => exact .write text
  | readInput => exact .readInput
  | warn text => exact .warn text
  | eval scope text h => exact he.eval scope text
  | apply v args keywords h => exact he.apply v args keywords
  | block scope _ lines h => exact he.block scope lines
  | call ref args keywords => exact .callStored he.block ref args keywords
  | bind _ _ hx hf => exact hx.bind hf
  | guardCall _ hx => exact hx.guardCall
  | undoing _ b g _ hkept hx => exact hx.undoing b hkept
  | line scope line rest _ _ h => exact h.executeLine
  | guarded scope _ c h => exact .executeGuarded he.block scope c

theorem executeKind_recorded {e : Engine} (he : e.All Recorded) (scope : Nat) (l : Line)
    (rest : List Line) : Recorded (executeKind e scope l rest (classify l.text)) :=
  (Composed.executeKind scope ((Reach.lighter _).adding_scope scope) (fun _ => trivial) l rest
    (Reach.within_admits scope (l :: rest)) _).recorded he

theorem Engine.recorded_level (n : Nat) : (Engine.level n).All Recorded :=
  Engine.all_level (.quiet fun m => .refl m) (fun _ hn => fun hx => hx.recorded hn) n

/-! ## Programs -/

/-- The marks of a program on a host: no line is being executed around it, and its statements follow,
of which each has its own. -/
def ProgramRecords (host : Host) (code : String) (t : Machine → List Mark) : Prop :=
  ∃ u : Nat → Line → List Line → Marks,
    (∀ scope l rest,
      Records (executeKind host.engine scope l rest (classify l.text)) (u scope l rest)) ∧
    ∀ m, t m = Marks.block host.engine m.store.scopes.size (u m.store.scopes.size)
      (splitLines code.toList) [] (Outcome.after (Run.newScope [] m))

theorem exists_programRecords (host : Host) (code : String) : ∃ t, ProgramRecords host code t := by
  choose u hu using executeKind_recorded (Engine.recorded_level host.levels)
  exact ⟨_, u, hu, fun _ => rfl⟩

namespace ProgramRecords

variable {host : Host} {code : String} {t : Machine → List Mark}

theorem leaves (h : ProgramRecords host code t) (m : Machine) :
    m.Leaves (t m) (Outcome.after (program code host.engine m)) := by
  obtain ⟨u, hu, ht⟩ := h
  rw [ht m]
  have hopened : m.Leaves [] (Outcome.after (Run.newScope [] m)) := .none rfl rfl rfl
  exact hopened.trans (((Records.block (hu m.store.scopes.size) _).sound []).leaves _)

/-- A lambda that is made while a statement of a program is executed, the innermost one, has a body of
one line. It has the number of the last statement that was attempted since. -/
theorem number_lambda (h : ProgramRecords host code t) {m : Machine} {before after : List Mark}
    {f : Function} {around : Stack} (hmarks : t m = before ++ .made f around :: after)
    (hf : f.name = "<lambda>") :
    ∃ l outer start since line, around = l :: outer ∧
      before = start ++ .attempted l outer :: since ∧ (∀ mark ∈ since, around <:+ mark.around) ∧
      f.body = [line] ∧ line.number = lastNumber l.number since := by
  obtain ⟨u, hu, ht⟩ := h
  have hmade : .made f around ∈ t m := by
    rw [hmarks]
    exact List.mem_append_right _ List.mem_cons_self
  rw [ht m] at hmade hmarks
  have hnested := ((Records.block (hu m.store.scopes.size) (splitLines code.toList)).sound []).nested
    (Outcome.after (Run.newScope [] m))
  obtain ⟨hlambda, hplace⟩ := hnested.of_made hmarks
  obtain ⟨line, hbody, hnumber⟩ := hlambda hf
  have hinside := Records.exists_line (hu m.store.scopes.size) 0 _ [] _ hmade
  obtain ⟨l, outer, start, since, haround, rfl, hwithin⟩ := hplace.resolve_left hinside
  rw [lastNumber_append] at hnumber
  exact ⟨l, outer, start, since, line, haround, rfl, hwithin, hbody, hnumber⟩

end ProgramRecords

/-- Every program has its marks, which tell all functions that it makes and nest as its statements do. A
lambda that it makes has a body of one line, with the number of the statement that was attempted last:
the one that it stands in, if no other was attempted since, and otherwise the last one of those inside.
An uncaught failure of this body is reported with this number. -/
theorem lambda_numbered (m : Machine) (s : Submission) :
    (∃ t, ProgramRecords s.host s.code t) ∧
    ∀ t, ProgramRecords s.host s.code t →
      (m.beginning s).Leaves (t (m.beginning s))
        (Outcome.after (program s.code s.host.engine (m.beginning s))) ∧
      ∀ before f around after, t (m.beginning s) = before ++ .made f around :: after →
        f.name = "<lambda>" →
        ∃ l outer start since line, around = l :: outer ∧
          before = start ++ .attempted l outer :: since ∧
          (∀ mark ∈ since, around <:+ mark.around) ∧
          f.body = [line] ∧ line.number = lastNumber l.number since ∧
          ((∀ mark ∈ since, mark.line? = none) → line.number = l.number) ∧
          ∀ r failure, (m.submit s).1 = .ok r → r.failure = some failure →
            (∃ n m', program s.code s.host.engine (m.beginning s) = .error (.exhausted n) m') ∨
            ∀ u below, ProgramRaises s.host s.code u → u (m.beginning s) = line :: below →
              failure.line = some line.number := by
  refine ⟨exists_programRecords s.host s.code, fun t ht => ⟨ht.leaves _, ?_⟩⟩
  intro before f around after hmarks hf
  obtain ⟨l, outer, start, since, line, haround, hbefore, hwithin, hbody, hnumber⟩ :=
    ht.number_lambda hmarks hf
  refine ⟨l, outer, start, since, line, haround, hbefore, hwithin, hbody, hnumber,
    fun hquiet => hnumber.trans (lastNumber_of_no_line hquiet), ?_⟩
  intro r failure hr hfailure
  refine (Machine.program_of_failure hr hfailure).imp_right fun ⟨m', hprogram⟩ => ?_
  intro u below hu hline
  obtain ⟨l', _, hl', hat, -⟩ := hu.at (m.handling_beginning s) hprogram
  obtain ⟨rfl, -⟩ := List.cons.inj (hline.symm.trans hl')
  exact hat

/-- The lambda stands in line 3, but a call of a function in the same statement comes before it: the
lambda keeps the number of the statement in this function, and its failure is reported there. -/
theorem lambda_numbered_by_call :
    let s : Submission :=
      { code := "def f():\n    return 1\ng = [f(), lambda: 1 / 0]\ng[1]()" }
    (splitLines s.code.toList).map (fun l => (l.number, String.ofList l.text)) =
        [(1, "def f():"), (2, "return 1"), (3, "g = [f(), lambda: 1 / 0]"), (4, "g[1]()")] ∧
      (Machine.submit {} s).2.store.functions.toList.map
        (fun f => (f.name, f.body.map fun l => (l.number, String.ofList l.text))) =
        [("f", [(2, "return 1")]), ("<lambda>", [(2, "return 1 / 0")])] ∧
      ((Machine.submit {} s).1.toOption.bind Report.failure).map (fun f => (f.kind, f.line)) =
        some ("ZeroDivisionError", some 2) := by
  decide +kernel

end SnippetGrader
