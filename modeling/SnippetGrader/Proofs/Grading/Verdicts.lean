import Mathlib.Data.List.Basic
import SnippetGrader.Grading.Verdict
import SnippetGrader.Proofs.Outcome

/-!
# What a verdict says

A verdict counts the points of a challenge and how many of them a submission reached; the other things
it says agree with the two numbers. On test cases the points are the cases that the submission passes,
each on a run of its own, so their order does not matter as long as each run finds the host that it
found before. A submission may look at the clock, and on another clock it may pass other cases.

To say that a submission is not run at all, `verdictIn` takes the runs from any monad.
-/

namespace SnippetGrader.Grading

/-! ## Requests for a verdict -/

/-- A challenge as it is handed over: as data, or read already. -/
inductive Brief where
  | data (d : Datum)
  | ready (c : Challenge)

/-- The challenge that is handed over. -/
def Brief.read : Brief → Except Failure Challenge
  | data d => Challenge.ofDatum d
  | ready c => .ok c

/-- The ways to ask for a verdict: with rules that are checked first, or without. -/
inductive Request where
  | evaluation
  | grading (rules : List String)

namespace Request

def broken (source : String) : Request → List String
  | evaluation => []
  | grading rules => violations source.toList (rules.map String.toList)

/-- The verdict on a submission, whose runs find these hosts. -/
def verdict (settings : Settings) (source : String) (brief : Brief) (hosts : Hosts) :
    Request → Except Failure Verdict
  | evaluation => do evaluateWith settings source (← brief.read) hosts
  | grading rules => do gradeWith settings source (← brief.read) rules hosts

section

variable {m : Type → Type} [Monad m]

/-- The verdict on a submission whose runs give what `play` gives. -/
def verdictIn (play : Host → Inputs → m Report) (source : String) (c : Challenge) (hosts : Hosts)
    (req : Request) : m Verdict :=
  match req.broken source with
  | [] =>
    if c.hasCases then do
      return judgeCases c.cases (← (c.meetings hosts).mapM fun p => play p.2 (.text p.1.input))
    else do return judgeOnce c.expected (← play (hosts 0) (.items []))
  | broken => pure (rejected c broken)

end

/-- A run of a submission under settings. -/
def play (settings : Settings) (source : String) (host : Host) (inputs : Inputs) :
    Except Failure Report := do
  return run (← limitsOf settings) inputs source host

theorem evaluateWith_eq (settings : Settings) (source : String) (c : Challenge) (hosts : Hosts) :
    evaluateWith settings source c hosts =
      evaluation.verdictIn (play settings source) source c hosts := by
  unfold evaluateWith verdictIn play evaluate
  cases limitsOf settings with
  | ok limits =>
    have hall (ps : List (TestCase × Host)) :
        (ps.mapM fun p => (pure (run limits (.text p.1.input) source p.2) :
          Except Failure Report)) = .ok (ps.map fun p => run limits (.text p.1.input) source p.2) :=
      List.mapM_pure ..
    by_cases h : c.hasCases
    · simp only [broken, h, if_true]
      change _ = ((c.meetings hosts).mapM fun p => (pure (run limits (.text p.1.input) source p.2) :
        Except Failure Report)) >>= _
      rw [hall]
      rfl
    · simp only [broken, h]
      rfl
  | error f =>
    by_cases h : c.hasCases
    · have hcases : c.cases ≠ [] := by
        intro hnil
        simp [Challenge.hasCases, hnil] at h
      obtain ⟨case, cases, hcons⟩ := List.exists_cons_of_ne_nil hcases
      simp only [broken, h, if_true, Challenge.meetings, hcons, List.zipIdx_cons, List.map_cons,
        List.mapM_cons]
      rfl
    · simp only [broken, h]
      rfl

theorem verdict_eq (settings : Settings) (source : String) (brief : Brief) (hosts : Hosts)
    (req : Request) :
    req.verdict settings source brief hosts =
      brief.read >>= fun c => req.verdictIn (play settings source) source c hosts := by
  cases req with
  | evaluation => exact bind_congr fun c => evaluateWith_eq settings source c hosts
  | grading rules =>
    refine bind_congr fun c => ?_
    rw [gradeWith, verdictIn, broken]
    cases violations source.toList (rules.map String.toList) with
    | nil => exact evaluateWith_eq settings source c hosts
    | cons t ts => rfl

end Request

/-! ## Judging -/

theorem addNew_cons (known more : List String) (t : String) : addNew known (t :: more) =
    addNew (if known.contains t then known else known ++ [t]) more := rfl

theorem mem_addNew (known more : List String) (w : String) :
    w ∈ addNew known more ↔ w ∈ known ∨ w ∈ more := by
  induction more generalizing known with
  | nil => simp [addNew]
  | cons t more ih =>
    rw [addNew_cons, ih]
    split
    · next ht =>
      have hmem : t ∈ known := List.contains_iff_mem.1 ht
      rw [List.mem_cons]
      constructor
      · exact Or.imp id .inr
      · rintro (h | rfl | h)
        · exact .inl h
        · exact .inl hmem
        · exact .inr h
    · simp [or_assoc]

theorem nodup_addNew {known : List String} (h : known.Nodup) (more : List String) :
    (addNew known more).Nodup := by
  induction more generalizing known with
  | nil => exact h
  | cons t more ih =>
    rw [addNew_cons]
    refine ih ?_
    split
    · exact h
    · next ht =>
      refine List.nodup_append.2 ⟨h, List.pairwise_singleton _ t, fun a ha b hb hab => ?_⟩
      rw [List.mem_singleton] at hb
      rw [hab, hb] at ha
      exact ht (List.contains_iff_mem.2 ha)

def warningsOf (reports : List Report) : List String :=
  reports.foldl (fun all r => addNew all r.warnings) []

theorem mem_warningsOf (reports : List Report) (w : String) :
    w ∈ warningsOf reports ↔ ∃ r ∈ reports, w ∈ r.warnings := by
  have hall (known : List String) : w ∈ reports.foldl (fun all r => addNew all r.warnings) known ↔
      w ∈ known ∨ ∃ r ∈ reports, w ∈ r.warnings := by
    induction reports generalizing known with
    | nil => simp
    | cons r reports ih =>
      rw [List.foldl_cons, ih, mem_addNew, List.exists_mem_cons_iff, or_assoc]
  exact (hall []).trans (by simp)

theorem nodup_warningsOf (reports : List Report) : (warningsOf reports).Nodup := by
  have hall {known : List String} (h : known.Nodup) :
      (reports.foldl (fun all r => addNew all r.warnings) known).Nodup := by
    induction reports generalizing known with
    | nil => exact h
    | cons r reports ih => exact ih (nodup_addNew h r.warnings)
  exact hall List.nodup_nil

/-- The points of cases, when the run on each is given. -/
theorem passed_judgeCases {α : Type} (ps : List (TestCase × α)) (f : TestCase × α → Report) :
    (judgeCases (ps.map Prod.fst) (ps.map f)).passed = ps.countP fun p => passes p.1 (f p) := by
  change (((ps.map Prod.fst).zip (ps.map f)).filter fun p => passes p.1 p.2).length = _
  rw [← List.countP_eq_length_filter]
  induction ps with
  | nil => rfl
  | cons p ps ih => simp only [List.map_cons, List.zip_cons_cons, List.countP_cons, ih]

theorem diagnostic_isSome {r : Report} (h : r.diagnostic.isSome = true) : r.success = false := by
  rw [Report.diagnostic, Option.isSome_map] at h
  rw [Report.success, Option.isNone_eq_false_iff]
  exact h

/-- What a verdict says agrees with its points and with the challenge. -/
structure Verdict.Consistent (c : Challenge) (v : Verdict) : Prop where
  total : v.total = c.total
  one_le_total : 1 ≤ v.total
  passed_le_total : v.passed ≤ v.total
  success_iff : v.success = true ↔ v.passed = v.total
  diagnostic : v.diagnostic.isSome = true → v.success = false
  violations : v.violations ≠ [] → v.success = false ∧ v.passed = 0 ∧ v.output = ""

theorem one_le_total (c : Challenge) : 1 ≤ c.total := by
  unfold Challenge.total Challenge.hasCases
  split
  · next h =>
    have hcases : c.cases ≠ [] := by
      intro hnil
      simp [hnil] at h
    exact List.length_pos_iff.2 hcases
  · exact Nat.le_refl 1

theorem rejected_consistent (c : Challenge) (broken : List String) :
    (rejected c broken).Consistent c where
  total := rfl
  one_le_total := one_le_total c
  passed_le_total := Nat.zero_le _
  success_iff := by
    have h := one_le_total c
    simp only [rejected, Bool.false_eq_true, false_iff]
    omega
  diagnostic h := by cases h
  violations _ := ⟨rfl, rfl, rfl⟩

theorem passed_judgeOnce (expected : Option String) (r : Report) :
    (judgeOnce expected r).passed = if (judgeOnce expected r).success then 1 else 0 := rfl

theorem judgeOnce_consistent {c : Challenge} (h : c.hasCases = false) (r : Report) :
    (judgeOnce c.expected r).Consistent c where
  total := by
    rw [Challenge.total, h]
    rfl
  one_le_total := Nat.le_refl 1
  passed_le_total := by
    rw [passed_judgeOnce]
    change _ ≤ 1
    split <;> omega
  success_iff := by
    rw [passed_judgeOnce]
    change _ ↔ _ = 1
    cases (judgeOnce c.expected r).success <;> simp
  diagnostic hd := by
    simp only [judgeOnce, diagnostic_isSome hd, Bool.false_and]
  violations hv := absurd rfl hv

/-- The runs meet every case once. -/
theorem Challenge.map_meetings (c : Challenge) (hosts : Hosts) :
    (c.meetings hosts).map Prod.fst = c.cases := by
  rw [meetings, List.map_map]
  exact List.zipIdx_map_fst 0 c.cases

/-- When all runs find the same host, the order of the cases is of no account to what they meet. -/
theorem Challenge.meetings_shared (c : Challenge) (host : Host) :
    c.meetings (fun _ => host) = c.cases.map fun case => (case, host) := by
  have hcases := List.zipIdx_map_fst 0 c.cases
  rw [meetings]
  conv_rhs => rw [← hcases, List.map_map]
  rfl

section Cases

variable {α : Type} {ps ps' : List (TestCase × α)}

theorem judgeCases_consistent {c : Challenge} (h : c.hasCases = true)
    (hps : ps.map Prod.fst = c.cases) (f : TestCase × α → Report) :
    (judgeCases c.cases (ps.map f)).Consistent c where
  total := by
    rw [Challenge.total, h]
    rfl
  one_le_total := by
    have hone := one_le_total c
    rw [Challenge.total, h] at hone
    exact hone
  passed_le_total := by
    have hlength : c.cases.length = ps.length := by rw [← hps, List.length_map]
    change _ ≤ c.cases.length
    rw [hlength, ← hps, passed_judgeCases]
    exact List.countP_le_length
  success_iff := beq_iff_eq
  diagnostic hd := by
    -- a run that failed belongs to a case that is not passed
    obtain ⟨text, htext⟩ := Option.isSome_iff_exists.1 hd
    obtain ⟨r, hr, hdiagnostic⟩ := List.exists_of_findSome?_eq_some htext
    obtain ⟨p, hp, rfl⟩ := List.mem_map.1 hr
    have hfailed := diagnostic_isSome (Option.isSome_of_eq_some hdiagnostic)
    refine beq_eq_false_iff_ne.2 fun hall => ?_
    change (judgeCases c.cases (ps.map f)).passed = _ at hall
    rw [← hps, passed_judgeCases, List.length_map, List.countP_eq_length] at hall
    have hpasses := hall p hp
    rw [passes, hfailed] at hpasses
    cases hpasses
  violations hv := absurd rfl hv

/-- Verdicts that differ in what they show of the runs alone: the output, the diagnostic and the order
of the warnings. -/
structure Verdict.SamePoints (v v' : Verdict) : Prop where
  success : v.success = v'.success
  passed : v.passed = v'.passed
  total : v.total = v'.total
  warnings : ∀ w, w ∈ v.warnings ↔ w ∈ v'.warnings

theorem judgeCases_perm (h : ps.Perm ps') (f : TestCase × α → Report) :
    (judgeCases (ps.map Prod.fst) (ps.map f)).SamePoints
      (judgeCases (ps'.map Prod.fst) (ps'.map f)) where
  success := by
    change ((judgeCases (ps.map Prod.fst) (ps.map f)).passed == (ps.map Prod.fst).length) =
      ((judgeCases (ps'.map Prod.fst) (ps'.map f)).passed == (ps'.map Prod.fst).length)
    rw [passed_judgeCases, passed_judgeCases, h.countP_eq, (h.map Prod.fst).length_eq]
  passed := by
    rw [passed_judgeCases, passed_judgeCases]
    exact h.countP_eq _
  total := (h.map Prod.fst).length_eq
  warnings w := by
    change w ∈ warningsOf _ ↔ w ∈ warningsOf _
    simp only [mem_warningsOf, List.mem_map, h.mem_iff]

end Cases

/-! ## Verdicts -/

/-- What a verdict on test cases says of the single runs. -/
structure OnCases (settings : Settings) (source : String) (c : Challenge) (hosts : Hosts)
    (req : Request) (v : Verdict) : Prop where
  passed : v.violations = [] → ∃ limits, limitsOf settings = .ok limits ∧
    v.passed = (c.meetings hosts).countP fun p =>
      passes p.1 (run limits (.text p.1.input) source p.2)
  nodup_warnings : v.warnings.Nodup
  /-- The cases may be taken in any order, if the run on each finds the host that it found before. -/
  reordered : ∀ brief c' hosts', brief.read = .ok c' → c'.expected = c.expected →
    (c.meetings hosts).Perm (c'.meetings hosts') →
      ∃ v', req.verdict settings source brief hosts' = .ok v' ∧ v.SamePoints v'

theorem cases_perm {c c' : Challenge} {hosts hosts' : Hosts}
    (h : (c.meetings hosts).Perm (c'.meetings hosts')) : c.cases.Perm c'.cases := by
  have hcases := h.map Prod.fst
  rwa [c.map_meetings, c'.map_meetings] at hcases

theorem hasCases_perm {c c' : Challenge} (hexpected : c'.expected = c.expected)
    (h : c.cases.Perm c'.cases) : c'.hasCases = c.hasCases := by
  have hempty : c'.cases.isEmpty = c.cases.isEmpty := by
    rw [Bool.eq_iff_iff, List.isEmpty_iff_length_eq_zero, List.isEmpty_iff_length_eq_zero,
      h.length_eq]
  rw [Challenge.hasCases, Challenge.hasCases, hexpected, hempty]

section

variable {settings : Settings} {source : String} {brief : Brief} {c : Challenge} {hosts : Hosts}
  {req : Request}

theorem verdict_of_broken (hc : brief.read = .ok c) (h : req.broken source ≠ []) :
    req.verdict settings source brief hosts = .ok (rejected c (req.broken source)) := by
  cases req with
  | evaluation => exact absurd rfl h
  | grading rules =>
    simp only [Request.broken] at h ⊢
    rw [Request.verdict, hc]
    change gradeWith settings source c rules hosts = _
    unfold gradeWith
    generalize violations source.toList (rules.map String.toList) = broken at h ⊢
    cases broken with
    | nil => exact absurd rfl h
    | cons t ts => rfl

theorem verdict_of_kept (hc : brief.read = .ok c) (h : req.broken source = []) :
    req.verdict settings source brief hosts = do
      return evaluate (← limitsOf settings) source c hosts := by
  cases req with
  | evaluation =>
    rw [Request.verdict, hc]
    rfl
  | grading rules =>
    simp only [Request.broken] at h
    rw [Request.verdict, hc]
    change gradeWith settings source c rules hosts = _
    unfold gradeWith
    rw [h]
    rfl

theorem Request.verdictIn_of_broken (h : req.broken source ≠ []) {m : Type → Type} [Monad m]
    (play : Host → Inputs → m Report) :
    req.verdictIn play source c hosts = pure (rejected c (req.broken source)) := by
  unfold verdictIn
  generalize req.broken source = broken at h ⊢
  cases broken with
  | nil => exact absurd rfl h
  | cons t ts => rfl

theorem evaluate_consistent (limits : Limits) (source : String) (c : Challenge) (hosts : Hosts) :
    (evaluate limits source c hosts).Consistent c := by
  unfold evaluate
  cases h : c.hasCases with
  | true => exact judgeCases_consistent h (c.map_meetings hosts) _
  | false => exact judgeOnce_consistent h _

theorem onCases_evaluate (hkept : req.broken source = [])
    {limits : Limits} (hlimits : limitsOf settings = .ok limits) (hcases : c.hasCases = true) :
    OnCases settings source c hosts req (evaluate limits source c hosts) := by
  have hjudged {c : Challenge} (hosts : Hosts) (hc : c.hasCases = true) :
      evaluate limits source c hosts = judgeCases ((c.meetings hosts).map Prod.fst)
        ((c.meetings hosts).map fun p => run limits (.text p.1.input) source p.2) := by
    rw [c.map_meetings]
    exact if_pos hc
  rw [hjudged hosts hcases]
  refine ⟨fun _ => ⟨limits, hlimits, passed_judgeCases _ _⟩, nodup_warningsOf _, ?_⟩
  intro brief' c' hosts' hc' hexpected hperm
  refine ⟨evaluate limits source c' hosts', by rw [verdict_of_kept hc' hkept, hlimits]; rfl, ?_⟩
  rw [hjudged hosts' ((hasCases_perm hexpected (cases_perm hperm)).trans hcases)]
  exact judgeCases_perm hperm _

theorem onCases_rejected (hbroken : req.broken source ≠ []) :
    OnCases settings source c hosts req (rejected c (req.broken source)) := by
  refine ⟨fun hv => absurd hv hbroken, List.nodup_nil, ?_⟩
  intro brief' c' hosts' hc' hexpected hmeetings
  have hperm := cases_perm hmeetings
  refine ⟨_, verdict_of_broken hc' hbroken, rfl, rfl, ?_, fun w => Iff.rfl⟩
  change c.total = c'.total
  rw [Challenge.total, Challenge.total, hasCases_perm hexpected hperm, hperm.length_eq]

/-- **Verdicts.** Whenever a verdict is given, its points are those of the challenge and all that it
says agrees with them. A submission that breaks rules is not run: the verdict does not even depend on
what its runs would give. On test cases the points that are reached are the cases that the submission
passes on a run of its own, on the host that this run finds. Neither they nor the warnings depend on
the order of the cases, if each run finds the host that it found before: in particular if all runs
are on one host with one clock. -/
theorem verdict_consistent {v : Verdict} (h : req.verdict settings source brief hosts = .ok v) :
    ∃ c, brief.read = .ok c ∧ v.Consistent c ∧
      req.verdict settings source brief hosts =
        req.verdictIn (Request.play settings source) source c hosts ∧
      (v.violations ≠ [] → ∀ {m : Type → Type} [Monad m] (play : Host → Inputs → m Report),
        req.verdictIn play source c hosts = pure v) ∧
      (c.hasCases = true → OnCases settings source c hosts req v) := by
  have hread : ∃ c, brief.read = .ok c := by
    cases hc : brief.read with
    | ok c => exact ⟨c, rfl⟩
    | error f =>
      cases req <;>
        · rw [Request.verdict, hc] at h
          cases h
  obtain ⟨c, hc⟩ := hread
  refine ⟨c, hc, ?_⟩
  have hruns : req.verdict settings source brief hosts =
      req.verdictIn (Request.play settings source) source c hosts := by
    rw [Request.verdict_eq, hc]
    rfl
  by_cases hbroken : req.broken source = []
  · rw [verdict_of_kept hc hbroken] at h
    cases hlimits : limitsOf settings with
    | error f =>
      rw [hlimits] at h
      cases h
    | ok limits =>
      rw [hlimits] at h
      obtain rfl : evaluate limits source c hosts = v := Except.ok.inj h
      have hkept : (evaluate limits source c hosts).violations = [] := by
        unfold evaluate
        split <;> rfl
      exact ⟨evaluate_consistent limits source c hosts, hruns, fun hv => absurd hkept hv,
        onCases_evaluate hbroken hlimits⟩
  · obtain rfl : rejected c (req.broken source) = v := by
      rw [verdict_of_broken hc hbroken] at h
      exact Except.ok.inj h
    exact ⟨rejected_consistent c _, hruns, fun _ => Request.verdictIn_of_broken hbroken,
      fun _ => onCases_rejected hbroken⟩

/-- On one host the cases may be taken in any order. -/
theorem OnCases.of_perm {host : Host} {v : Verdict}
    (h : OnCases settings source c (fun _ => host) req v) {c' : Challenge}
    (hc' : brief.read = .ok c') (hexpected : c'.expected = c.expected)
    (hperm : c.cases.Perm c'.cases) :
    ∃ v', req.verdict settings source brief (fun _ => host) = .ok v' ∧ v.SamePoints v' := by
  refine h.reordered brief c' _ hc' hexpected ?_
  rw [c.meetings_shared, c'.meetings_shared]
  exact hperm.map _

/-- Two cases on a program that prints its input, of which it passes one, and the same cases in the
other order. -/
theorem verdict_consistent_echo :
    let c : Challenge := { cases := [⟨"1", "1"⟩, ⟨"2", "3"⟩] }
    let v : Verdict := { success := false, output := "1", passed := 1, total := 2 }
    let swapped : Challenge := { cases := [⟨"2", "3"⟩, ⟨"1", "1"⟩] }
    (Request.grading []).verdict [] "print(input())" (.ready c) (fun _ => {}) = .ok v ∧
      v.Consistent c ∧ OnCases [] "print(input())" c (fun _ => {}) (.grading []) v ∧
      ∃ v', (Request.grading []).verdict [] "print(input())" (.ready swapped) (fun _ => {}) = .ok v' ∧
        v.SamePoints v' := by
  intro c v swapped
  have hv : evaluate {} "print(input())" c = v := by decide +kernel
  have h : (Request.grading []).verdict [] "print(input())" (.ready c) (fun _ => {}) = .ok v :=
    (verdict_of_kept rfl rfl).trans (congrArg Except.ok hv)
  obtain ⟨c', hc, hconsistent, -, -, hcases⟩ := verdict_consistent h
  cases hc
  exact ⟨h, hconsistent, hcases rfl, (hcases rfl).of_perm rfl rfl (.swap _ _ _)⟩

/-- A program that prints the time. When the clock goes on between the runs, it passes the two cases
in one order and neither of them in the other, and a run of its own on another clock than that of the
evaluation does not tell whether a case is passed. -/
theorem verdict_on_clocks :
    let source := "import time\nprint(int(time.time()))"
    let first : TestCase := ⟨"", "1"⟩
    let second : TestCase := ⟨"", "2"⟩
    let hosts : Hosts := fun n => Host.showing (if n = 0 then 1 else 2)
    (evaluate {} source { cases := [first, second] } hosts).passed = 2 ∧
    (evaluate {} source { cases := [second, first] } hosts).passed = 0 ∧
    passes first (run {} (.text first.input) source (Host.showing 2)) = false := by
  decide +kernel

end

end SnippetGrader.Grading
