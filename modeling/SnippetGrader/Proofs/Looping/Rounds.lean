import SnippetGrader.Proofs.Outcome

/-!
# The rounds of a loop

One execution of a `while` statement, watched from outside: every value that its condition gives,
every end of its body, and whether what follows `else` is executed, are noted where the interpreter
asks for them. Watching changes nothing, and what was noted says how the loop ended: at a false
condition, at the limit of rounds, or inside a round.
-/

namespace SnippetGrader.Statement

open Source

/-! ## Rounds -/

/-- Whether a loop goes on after a round that ended so. -/
def Flow.goesOn : Flow → Bool
  | .normal | .continued => true
  | .broke | .returned _ => false

def Flow.orAgain (again : Run LoopEnd) : Flow → Run LoopEnd
  | .broke => return .broke
  | .returned v => return .returned v
  | _ => again

/-- What is noted of the rounds of a loop, and how the loop ends. -/
structure Rounds where
  /-- Whether the condition held, for each time it was evaluated; nothing if that failed. -/
  tests : List (Option Bool)
  /-- How the body ended, for each time it was executed; nothing if it failed. -/
  bodies : List (Option Flow)
  ending : Outcome LoopEnd

/-- The rounds after one that ended so. -/
def Rounds.after (flow : Flow) (r : Rounds) : Rounds :=
  { r with tests := some true :: r.tests, bodies := some flow :: r.bodies }

/-- Executes the body of a loop while a condition holds, and notes what happens. -/
def watchRounds (e : Engine) (scope : Nat) (condition : List Char) (lines : List Line) :
    (fuel : Nat) → Machine → Rounds
  | 0, m => ⟨[], [], .ok .limited m⟩
  | fuel + 1, m =>
    match (e.eval scope condition >>= Run.truthy) m with
    | .error stop m' => ⟨[none], [], .error stop m'⟩
    | .ok false m' => ⟨[some false], [], .ok .finished m'⟩
    | .ok true m' =>
      match e.block scope lines m' with
      | .error stop m'' => ⟨[some true], [none], .error stop m''⟩
      | .ok .broke m'' => ⟨[some true], [some .broke], .ok .broke m''⟩
      | .ok (.returned v) m'' => ⟨[some true], [some (.returned v)], .ok (.returned v) m''⟩
      | .ok .normal m'' => (watchRounds e scope condition lines fuel m'').after .normal
      | .ok .continued m'' => (watchRounds e scope condition lines fuel m'').after .continued

section Rounds

variable (e : Engine) (scope : Nat) (condition : List Char) (lines : List Line)

theorem ending_watchRounds (fuel : Nat) (m : Machine) :
    (watchRounds e scope condition lines fuel m).ending =
      whileTrue e scope condition lines fuel m := by
  induction fuel generalizing m with
  | zero => rfl
  | succ fuel ih =>
    have hloop : whileTrue e scope condition lines (fuel + 1) =
        (e.eval scope condition >>= Run.truthy) >>= fun b =>
          if b then e.block scope lines >>= Flow.orAgain (whileTrue e scope condition lines fuel)
          else return .finished := by
      rw [bind_assoc]
      rfl
    rw [hloop, Run.bind_eq, watchRounds]
    cases (e.eval scope condition >>= Run.truthy) m with
    | error stop m' => rfl
    | ok b m' =>
      cases b with
      | false => rfl
      | true =>
        dsimp only
        rw [if_pos rfl, Run.bind_eq]
        cases e.block scope lines m' with
        | error stop m'' => rfl
        | ok flow m'' =>
          cases flow with
          | normal => exact ih m''
          | continued => exact ih m''
          | broke => rfl
          | returned v => rfl

theorem length_tests_le (fuel : Nat) (m : Machine) :
    (watchRounds e scope condition lines fuel m).tests.length ≤ fuel := by
  fun_induction watchRounds e scope condition lines fuel m with
  | case7 fuel m m' _ m'' _ ih => exact Nat.succ_le_succ ih
  | case8 fuel m m' _ m'' _ ih => exact Nat.succ_le_succ ih
  | _ => simp

theorem length_bodies_le (fuel : Nat) (m : Machine) :
    (watchRounds e scope condition lines fuel m).bodies.length ≤ fuel := by
  fun_induction watchRounds e scope condition lines fuel m with
  | case7 fuel m m' _ m'' _ ih => exact Nat.succ_le_succ ih
  | case8 fuel m m' _ m'' _ ih => exact Nat.succ_le_succ ih
  | _ => simp

/-- The condition was false just if the loop ran to its end. -/
theorem mem_tests_iff (fuel : Nat) (m : Machine) :
    some false ∈ (watchRounds e scope condition lines fuel m).tests ↔
      ∃ m', (watchRounds e scope condition lines fuel m).ending = .ok .finished m' := by
  fun_induction watchRounds e scope condition lines fuel m with
  | case7 fuel m m' _ m'' _ ih => simpa [Rounds.after] using ih
  | case8 fuel m m' _ m'' _ ih => simpa [Rounds.after] using ih
  | _ => simp

/-- All rounds came to an end and none of them ended the loop just if the loop was ended by the
limit. -/
theorem all_goesOn_iff (fuel : Nat) (m : Machine) :
    ((watchRounds e scope condition lines fuel m).bodies.length = fuel ∧
      ∀ b ∈ (watchRounds e scope condition lines fuel m).bodies, b.any Flow.goesOn = true) ↔
        ∃ m', (watchRounds e scope condition lines fuel m).ending = .ok .limited m' := by
  fun_induction watchRounds e scope condition lines fuel m with
  | case7 fuel m m' _ m'' _ ih => simpa [Rounds.after, Flow.goesOn] using ih
  | case8 fuel m m' _ m'' _ ih => simpa [Rounds.after, Flow.goesOn] using ih
  | _ => simp [Flow.goesOn]

end Rounds

/-! ## Passages -/

/-- What is noted of one execution of a `while` statement. -/
structure Passage where
  statement : Compound
  /-- Whether the condition held, for each time it was evaluated; nothing if that failed. -/
  tests : List (Option Bool)
  /-- How the body ended, for each time it was executed; nothing if it failed. -/
  bodies : List (Option Flow)
  /-- Whether what follows `else` was executed. -/
  otherwise : Bool

/-- The warning that a loop was ended by the limit of rounds. -/
def limitWarning (n : Int) : String := "While iterations limited to " ++ toString n

namespace Passage

/-- The condition was evaluated and the body executed no more often than the limit allows, and what
follows `else` was executed just if the condition was false at some time. -/
structure Within (n : Int) (p : Passage) : Prop where
  tests : (p.tests.length : Int) ≤ max 0 n
  bodies : (p.bodies.length : Int) ≤ max 0 n
  otherwise : p.otherwise = true ↔ (p.statement.clause? "else").isSome ∧ some false ∈ p.tests

/-- The body was executed as often as the limit allows, and no round ended the loop. -/
def Exhausts (n : Int) (p : Passage) : Prop :=
  (p.bodies.length : Int) = max 0 n ∧ ∀ b ∈ p.bodies, b.any Flow.goesOn = true

instance (n : Int) (p : Passage) : Decidable (p.Exhausts n) := inferInstanceAs (Decidable (_ ∧ _))

end Passage

/-- Executes a `while` statement that was read. -/
def executeLoop (e : Engine) (scope : Nat) (c : Compound) : Run Flow := do
  let stop ← whileTrue e scope c.head c.lines (← get).limits.maxLoop.toNat
  afterLoop e scope (c.clause? "else") stop

theorem executeWhile_eq_bind (e : Engine) (scope : Nat) (line : Line) (rest : List Line) :
    executeWhile e scope line rest =
      Run.ofExcept (compound "while" ["else"] ["else"] line rest) >>= fun c =>
        executeLoop e scope c >>= fun flow => pure (c.used, flow) := by
  simp only [executeWhile, executeLoop, bind_assoc]

section Passage

variable (e : Engine) (scope : Nat) (c : Compound)

def roundsOf (m : Machine) : Rounds :=
  watchRounds e scope c.head c.lines m.limits.maxLoop.toNat m

/-- Executes a `while` statement and notes what happens. -/
def watchLoop (m : Machine) : Passage × Outcome Flow :=
  let r := roundsOf e scope c m
  let noted (otherwise : Bool) : Passage := ⟨c, r.tests, r.bodies, otherwise⟩
  match r.ending with
  | .error stop m' => (noted false, .error stop m')
  | .ok .finished m' =>
    match c.clause? "else" with
    | some lines => (noted true, e.block scope lines m')
    | none => (noted false, .ok .normal m')
  | .ok .broke m' => (noted false, .ok .normal m')
  | .ok (.returned v) m' => (noted false, .ok (.returned v) m')
  | .ok .limited m' => (noted false, .ok .normal (m'.warned (limitWarning m'.limits.maxLoop)))

theorem executeLoop_eq (m : Machine) :
    executeLoop e scope c m =
      match whileTrue e scope c.head c.lines m.limits.maxLoop.toNat m with
      | .ok stop m' => afterLoop e scope (c.clause? "else") stop m'
      | .error stop m' => .error stop m' := by
  rw [executeLoop, Run.get_bind, Run.bind_eq]
  cases whileTrue e scope c.head c.lines m.limits.maxLoop.toNat m <;> rfl

theorem afterLoop_limited (otherwise : Option (List Line)) (m : Machine) :
    afterLoop e scope otherwise .limited m =
      .ok .normal (m.warned (limitWarning m.limits.maxLoop)) := by
  rw [afterLoop, Run.get_bind, Run.bind_eq, Run.warn_eq]
  rfl

/-- A passage is of its statement and has the tests and the bodies of the rounds. -/
theorem fst_watchLoop (m : Machine) :
    (watchLoop e scope c m).1 =
      ⟨c, (roundsOf e scope c m).tests, (roundsOf e scope c m).bodies,
        (watchLoop e scope c m).1.otherwise⟩ := by
  unfold watchLoop
  dsimp only
  split
  · rfl
  · split <;> rfl
  all_goals rfl

theorem otherwise_watchLoop (m : Machine) :
    (watchLoop e scope c m).1.otherwise = true ↔
      (c.clause? "else").isSome ∧ ∃ m', (roundsOf e scope c m).ending = .ok .finished m' := by
  unfold watchLoop
  dsimp only
  cases (roundsOf e scope c m).ending with
  | error stop m' => simp
  | ok stop m' =>
    cases stop with
    | finished => cases c.clause? "else" <;> simp
    | broke => simp
    | returned v => simp
    | limited => simp

theorem passage_within (m : Machine) : (watchLoop e scope c m).1.Within m.limits.maxLoop := by
  have htests := length_tests_le e scope c.head c.lines m.limits.maxLoop.toNat m
  have hbodies := length_bodies_le e scope c.head c.lines m.limits.maxLoop.toNat m
  have hfalse := mem_tests_iff e scope c.head c.lines m.limits.maxLoop.toNat m
  rw [← roundsOf] at htests hbodies hfalse
  refine ⟨?_, ?_, ?_⟩
  · rw [fst_watchLoop]
    dsimp only
    omega
  · rw [fst_watchLoop]
    dsimp only
    omega
  · rw [otherwise_watchLoop, fst_watchLoop, hfalse]

/-- All rounds are made just if the loop is ended by the limit. -/
theorem passage_exhausts_iff (m : Machine) :
    (watchLoop e scope c m).1.Exhausts m.limits.maxLoop ↔
      ∃ m', (roundsOf e scope c m).ending = .ok .limited m' := by
  have hall := all_goesOn_iff e scope c.head c.lines m.limits.maxLoop.toNat m
  rw [← roundsOf] at hall
  rw [← hall, Passage.Exhausts, fst_watchLoop]
  dsimp only
  refine and_congr_left' ?_
  omega

end Passage

end SnippetGrader.Statement
