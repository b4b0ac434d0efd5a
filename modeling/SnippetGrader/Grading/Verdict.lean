import SnippetGrader.Grading.Challenge
import SnippetGrader.Grading.Match
import SnippetGrader.Grading.Rule
import SnippetGrader.Program.Session

/-!
# Verdicts

`evaluate` runs a submission and compares its output with what a challenge expects. `grade` checks
the rules first; a submission that breaks one is not run.
-/

namespace SnippetGrader.Grading

/-- The verdict on a submission. -/
structure Verdict where
  success : Bool
  output : String
  diagnostic : Option String := none
  passed : Nat := 0
  total : Nat := 1
  violations : List String := []
  warnings : List String := []
deriving DecidableEq, Repr

/-- Whether the run on a test case gives the expected output. -/
def passes (case : TestCase) (r : Report) : Bool :=
  r.success && outputMatches r.output.toList case.expected.toList

def addNew (known more : List String) : List String :=
  more.foldl (fun all t => if all.contains t then all else all ++ [t]) known

/-- The verdict on a submission that was run on every test case. The output is that of the first
run, and the diagnostic that of the first run that failed. -/
def judgeCases (cases : List TestCase) (reports : List Report) : Verdict :=
  let passed := ((cases.zip reports).filter fun p => passes p.1 p.2).length
  { success := passed == cases.length
    output := (reports.head?.map Report.output).getD ""
    diagnostic := reports.findSome? Report.diagnostic
    passed
    total := cases.length
    warnings := reports.foldl (fun all r => addNew all r.warnings) [] }

def judgeOnce (expected : Option String) (r : Report) : Verdict :=
  let met := match expected with
    | some text => outputMatches r.output.toList text.toList
    | none => true
  let success := r.success && met
  { success
    output := r.output
    diagnostic := r.diagnostic
    passed := if success then 1 else 0
    warnings := r.warnings }

/-- The hosts that the runs of one evaluation find, the first run first. -/
abbrev Hosts := (run : Nat) → Host

/-- The test cases, each with the host that the run on it finds. -/
def Challenge.meetings (c : Challenge) (hosts : Hosts) : List (TestCase × Host) :=
  c.cases.zipIdx.map fun p => (p.1, hosts p.2)

/-- Runs a submission under limits and judges it against a challenge. -/
def evaluate (limits : Limits) (source : String) (c : Challenge) (hosts : Hosts := fun _ => {}) :
    Verdict :=
  if c.hasCases then
    judgeCases c.cases
      ((c.meetings hosts).map fun p => run limits (.text p.1.input) source p.2)
  else judgeOnce c.expected (run limits (.items []) source (hosts 0))

def rejected (c : Challenge) (violations : List String) : Verdict :=
  { success := false, output := "", total := c.total, violations }

/-- Checks the rules and evaluates a submission that keeps them. -/
def grade (limits : Limits) (source : String) (c : Challenge) (rules : List String)
    (hosts : Hosts := fun _ => {}) : Verdict :=
  match violations source.toList (rules.map String.toList) with
  | [] => evaluate limits source c hosts
  | broken => rejected c broken

/-- The limits that settings give, which start from the usual ones. -/
def limitsOf (settings : Settings) : Except Failure Limits :=
  match Limits.update {} settings with
  | (limits, none) => .ok limits
  | (_, some f) => .error f

def evaluateWith (settings : Settings) (source : String) (c : Challenge)
    (hosts : Hosts := fun _ => {}) : Except Failure Verdict := do
  return evaluate (← limitsOf settings) source c hosts

/-- Grades a submission under settings, which matter only if it is run. -/
def gradeWith (settings : Settings) (source : String) (c : Challenge) (rules : List String)
    (hosts : Hosts := fun _ => {}) : Except Failure Verdict :=
  match violations source.toList (rules.map String.toList) with
  | [] => evaluateWith settings source c hosts
  | broken => .ok (rejected c broken)

end SnippetGrader.Grading
