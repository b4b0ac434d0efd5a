import SnippetGrader.Proofs.Course

/-!
# Runs on a machine that was used before

A session runs submissions one after the other on the same machine. A run renews the machine before
it starts, apart from the limits, which settings of earlier submissions may have changed, and from
the line number, which the last statement of an earlier run left behind. The line number is read by
lambdas and by the report of a failure. A statement sets it before anything else happens, and a
program without statements ends without a failure; so what is left of an earlier run, apart from the
limits, never reaches a report.
-/

namespace SnippetGrader

open Source Statement

/-! ## The line number -/

def Machine.withLine (m : Machine) (n : Nat) : Machine := { m with lineNumber := n }

/-- The first statement of a block replaces the line number. -/
theorem executeBlock_withLine (e : Engine) (scope : Nat) (line : Line) (rest : List Line)
    (m : Machine) (n : Nat) :
    executeBlock e scope (line :: rest) (m.withLine n) = executeBlock e scope (line :: rest) m := by
  have hcharged : (m.withLine n).charged line = m.charged line := rfl
  have hfirst : executeLine e scope line rest (m.withLine n) = executeLine e scope line rest m := by
    rw [executeLine_eq, executeLine_eq, hcharged]
  unfold executeBlock executeFrom
  rw [if_neg (Nat.lt_irrefl 0), Run.bind_eq, Run.bind_eq, hfirst]

theorem report_program_withLine (code : String) (e : Engine) (m : Machine) (n : Nat) :
    Outcome.report (program code e (m.withLine n)) = Outcome.report (program code e m) := by
  have hprogram (m : Machine) : program code e m =
      executeBlock e m.store.scopes.size (splitLines code.toList) ((Event.opened []).on m) := rfl
  have hopened : (Event.opened []).on (m.withLine n) = ((Event.opened []).on m).withLine n := rfl
  rw [hprogram, hprogram, hopened]
  change Outcome.report (executeBlock e m.store.scopes.size _ _) = _
  cases splitLines code.toList with
  | nil => rfl
  | cons line rest => rw [executeBlock_withLine]

/-! ## One run -/

theorem limits_program (host : Host) (code : String) (m : Machine) :
    (Outcome.after (program code host.engine m)).limits = m.limits := by
  obtain ⟨t, ht⟩ := exists_programTraces host code
  have hsurface := ht.surface_eq m
  generalize Outcome.after (program code host.engine m) = m' at hsurface ⊢
  calc m'.limits
      = m'.surface.limits := rfl
    _ = (m.replay (t m)).surface.limits := by rw [hsurface]
    _ = (m.replay (t m)).limits := rfl
    _ = m.limits := m.limits_replay (t m)

theorem Machine.run_eq (m : Machine) (inputs : Inputs) (code : String) (host : Host) :
    m.run inputs code host =
      (Outcome.report (program code host.engine ((m.renewed host.toSurroundings).serving inputs)),
        (Outcome.after
          (program code host.engine ((m.renewed host.toSurroundings).serving inputs))).flushed) := by
  have hprogram : (do execute (← Run.newScope []) code host : Run Flow) =
    program code host.engine := rfl
  simp only [Machine.run, hprogram]
  unfold Machine.perform
  cases program code host.engine ((m.renewed host.toSurroundings).serving inputs) <;> rfl

/-- A run has the report that it has on a fresh machine, and keeps the limits. -/
theorem Machine.run_isolated (m : Machine) (inputs : Inputs) (code : String) (host : Host) :
    (m.run inputs code host).1 = SnippetGrader.run m.limits inputs code host ∧
      (m.run inputs code host).2.limits = m.limits := by
  obtain ⟨store, values, -, hserving⟩ := Machine.exists_serving_eq inputs host.toSurroundings
  have hstart : Machine.start m.limits inputs host =
      { limits := m.limits, store, inputs := values } := hserving (.fresh m.limits host.toSurroundings) rfl rfl
  -- only the number of the last line is left of the runs before, and a program does not see it
  have hrenewed : (m.renewed host.toSurroundings).serving inputs =
      (Machine.start m.limits inputs host).withLine m.lineNumber := by
    rw [hstart, hserving (m.renewed host.toSurroundings) rfl rfl]
    rfl
  have hlimits : ((m.renewed host.toSurroundings).serving inputs).limits = m.limits := by
    rw [hrenewed, hstart]
    rfl
  have hreport := report_program_withLine code host.engine (Machine.start m.limits inputs host)
    m.lineNumber
  have hkept := limits_program host code ((m.renewed host.toSurroundings).serving inputs)
  rw [m.run_eq, run_eq_runOn, runOn]
  generalize hafter : Outcome.after (program code host.engine ((m.renewed host.toSurroundings).serving inputs)) =
    m' at hkept
  refine ⟨by rw [hrenewed, hreport], ?_⟩
  calc m'.flushed.limits
      = m'.limits := rfl
    _ = m.limits := hkept.trans hlimits

/-! ## Submissions -/

/-- The limits that are in force after submissions. -/
def Limits.after (limits : Limits) (submissions : List Submission) : Limits :=
  submissions.foldl (fun limits s => (limits.update s.settings).1) limits

/-- A submission whose settings can be applied is run; otherwise their failure is its report. -/
theorem Machine.submit_eq (m : Machine) (s : Submission) :
    m.submit s = match m.limits.update s.settings with
      | (limits, none) =>
        (.ok ({ m with limits }.run s.inputs s.code s.host).1,
          ({ m with limits }.run s.inputs s.code s.host).2)
      | (limits, some f) => (.error f, { m with limits }) := by
  unfold Machine.submit
  obtain ⟨limits, failure⟩ := m.limits.update s.settings
  cases failure <;> rfl

/-- Of the machine, a submission sees nothing but the limits, and it changes them by its settings
alone. -/
theorem Machine.submit_isolated (m : Machine) (s : Submission) :
    (m.submit s).1 = (Machine.submit { limits := m.limits } s).1 ∧
      (m.submit s).2.limits = (m.limits.update s.settings).1 := by
  rw [Machine.submit_eq, Machine.submit_eq]
  dsimp only
  obtain ⟨limits, failure⟩ := m.limits.update s.settings
  cases failure with
  | some f => exact ⟨rfl, rfl⟩
  | none =>
    obtain ⟨hreport, hlimits⟩ := Machine.run_isolated { m with limits } s.inputs s.code s.host
    obtain ⟨hfresh, -⟩ := Machine.run_isolated { limits } s.inputs s.code s.host
    dsimp only
    exact ⟨by rw [hreport, hfresh], hlimits⟩

theorem Machine.submitAll_cons (m : Machine) (s : Submission) (rest : List Submission) :
    m.submitAll (s :: rest) = ((m.submit s).1 :: ((m.submit s).2.submitAll rest).1,
      ((m.submit s).2.submitAll rest).2) := rfl

theorem Machine.limits_submitAll (m : Machine) (submissions : List Submission) :
    (m.submitAll submissions).2.limits = m.limits.after submissions := by
  induction submissions generalizing m with
  | nil => rfl
  | cons s rest ih => rw [submitAll_cons, ih, (m.submit_isolated s).2, Limits.after, Limits.after,
      List.foldl_cons]

/-- Whatever was submitted before, the next submission has the report that it has on a fresh
machine under the limits that are in force, if both runs find one host and so one clock; and these
limits are what the settings so far made of the limits at the start. -/
theorem submit_after_session (limits : Limits) (earlier : List Submission) (s : Submission)
    (host : Host) :
    let m := (Machine.submitAll { limits } earlier).2
    m.limits = limits.after earlier ∧
      (m.submit { s with host }).1 = (Machine.submit { limits := m.limits } { s with host }).1 := by
  intro m
  exact ⟨Machine.limits_submitAll { limits } earlier, (m.submit_isolated { s with host }).1⟩

/-- A program that tells whether the clock shows a time after 1600000000 seconds. -/
def clockReader : String := "import time\nprint(time.time() > 1600000000)"

/-- With two clocks, the next submission and the one on a fresh machine may differ. -/
theorem submit_on_two_clocks :
    let m := (Machine.submitAll {} [{ code := "" }]).2
    (m.submit { code := clockReader }).1 ≠ (Machine.submit { limits := m.limits }
      { code := clockReader, host := .showing 1500000000 }).1 := by
  intro m h
  have houtput := congrArg (fun r => r.toOption.map Report.output) h
  revert houtput
  decide +kernel

/-- The reports of a session are those of its submissions, each on a fresh machine under the limits
that the earlier ones have left. -/
theorem submitAll_isolated (limits : Limits) (submissions : List Submission) :
    limits.submitAll submissions = submissions.mapIdx fun i s =>
      ((limits.after (submissions.take i)).submit s).1 := by
  have hall (m : Machine) : (m.submitAll submissions).1 = submissions.mapIdx fun i s =>
      ((m.limits.after (submissions.take i)).submit s).1 := by
    induction submissions generalizing m with
    | nil => rfl
    | cons s rest ih =>
      have hfresh (i : Nat) : m.limits.after ((s :: rest).take (i + 1)) =
          (m.submit s).2.limits.after (rest.take i) := by
        rw [(m.submit_isolated s).2, List.take_succ_cons, Limits.after, List.foldl_cons]
        rfl
      have hfirst : (m.submit s).1 = (m.limits.submit s).1 := (m.submit_isolated s).1
      rw [Machine.submitAll_cons, List.mapIdx_cons]
      simp only [hfresh, ih (m.submit s).2, hfirst, List.take_zero]
      rfl
  exact hall { limits }

end SnippetGrader
