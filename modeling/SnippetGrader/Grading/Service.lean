import SnippetGrader.Grading.Verdict

/-!
# The grading service

A request is data that must have a certain shape; `EvaluateRequest.ofDatum` and
`RulesRequest.ofDatum` read it and report every place where it has another one. They are one way to
read requests, with which the service is tried out; what is proved of its answers is proved for
every reader that takes a field from its alias first and from its name otherwise. Clients may lower
the limits of a run but not raise them.
-/

namespace SnippetGrader.Grading

/-! ## Limits for clients -/

/-- A request for a limit that cannot be read is passed over, unless it is too large to be a
number. -/
def requested {α : Type} (ceiling : α) : Except Failure α → Except Failure α
  | .ok a => .ok a
  | .error f => if f.kind == "TypeError" || f.kind == "ValueError" then .ok ceiling else .error f

/-- A limit that is a whole number, between one and its ceiling. -/
def capInt (settings : Settings) (name : String) (ceiling : Int) : Except Failure Int := do
  let n ← match settings.lookup name with
    | some d => requested ceiling d.toInt
    | none => pure ceiling
  return max 1 (min n ceiling)

/-- The shortest time that a client may ask for. -/
def leastTime : Float := 0.01

/-- A limit on time, between the shortest time and its ceiling. -/
def capTime (settings : Settings) (name : String) (ceiling : Float) : Except Failure Float := do
  let x ← match settings.lookup name with
    | some d => requested ceiling d.toFloat
    | none => pure ceiling
  let y := if ceiling < x then ceiling else x
  return if y > leastTime then y else leastTime

/-- The limits for a client: those that the settings ask for, within the usual ones. -/
def capLimits (settings : Settings) : Except Failure Limits := do
  let usual : Limits := {}
  return {
    maxLoop := ← capInt settings "max_loop" usual.maxLoop
    maxCallDepth := ← capInt settings "max_call_depth" usual.maxCallDepth
    maxOutputChars := ← capInt settings "max_output_chars" usual.maxOutputChars
    maxSteps := ← capInt settings "max_steps" usual.maxSteps
    maxTime := ← capTime settings "max_time_s" usual.maxTime }

/-! ## The shape of requests -/

/-- A step on the way to a place in data. -/
inductive Step where
  | field (name : String)
  | item (index : Nat)
deriving DecidableEq, Repr

/-- What is wrong with the shape of data at a place. -/
inductive ShapeError where
  | missing | notText | notList | notDict | notModel
deriving DecidableEq, Repr

/-- The name of what is wrong. -/
def ShapeError.name : ShapeError → String
  | missing => "missing"
  | notText => "string_type"
  | notList => "list_type"
  | notDict => "dict_type"
  | notModel => "model_type"

/-- An error and its place. -/
structure Problem where
  error : ShapeError
  place : List Step
deriving DecidableEq, Repr

/-- What is read from data, together with the problems on the way. What is read counts only if
there are none. -/
structure Checked (α : Type) where
  value : α
  problems : List Problem := []

namespace Checked

/-- Moves the problems below a step. -/
def under {α : Type} (step : Step) (c : Checked α) : Checked α :=
  { c with problems := c.problems.map fun p => { p with place := step :: p.place } }

/-- A problem at this place. -/
def bad {α : Type} (value : α) (error : ShapeError) : Checked α := { value, problems := [⟨error, []⟩] }

/-- The value of data without problems. -/
def toExcept {α : Type} (c : Checked α) : Except (List Problem) α :=
  if c.problems.isEmpty then .ok c.value else .error c.problems

end Checked

def checkText : Datum → Checked String
  | .plain (.str t) => { value := t }
  | _ => .bad "" .notText

def checkOptionalText (d : Datum) : Checked (Option String) :=
  if d.isNothing then { value := none }
  else
    let c := checkText d
    { value := some c.value, problems := c.problems }

/-- Reads the items of a list, the first of which has position `i`. -/
def checkItems {α : Type} (check : Datum → Checked α) (i : Nat) : List Datum → Checked (List α)
  | [] => { value := [] }
  | d :: rest =>
    let c := (check d).under (.item i)
    let more := checkItems check (i + 1) rest
    { value := c.value :: more.value, problems := c.problems ++ more.problems }

def checkList {α : Type} (check : Datum → Checked α) : Datum → Checked (List α)
  | .list items => checkItems check 0 items
  | _ => .bad [] .notList

/-- Reads named data that may be missing. -/
def checkSettings (d : Datum) : Checked Settings :=
  match d with
  | .dict entries => { value := entries }
  | d => if d.isNothing then { value := [] } else .bad [] .notDict

/-- Reads a field under the first of its names that is there; without one it has a default. -/
def checkField {α : Type} (entries : List (String × Datum)) (names : List String) (default : α)
    (check : Datum → Checked α) : Checked α :=
  match names.findSome? fun name => (entries.lookup name).map fun d => (name, d) with
  | some (name, d) => (check d).under (.field name)
  | none => { value := default }

def checkRequired {α : Type} (entries : List (String × Datum)) (name : String) (default : α)
    (check : Datum → Checked α) : Checked α :=
  match entries.lookup name with
  | some d => (check d).under (.field name)
  | none => { value := default, problems := [⟨.missing, [.field name]⟩] }

def checkCase : Datum → Checked TestCase
  | .dict entries =>
    let input := checkField entries ["input"] "" checkText
    let expected := checkField entries ["expectedOutput", "expected_output"] "" checkText
    { value := { input := input.value, expected := expected.value }
      problems := input.problems ++ expected.problems }
  | _ => .bad {} .notModel

/-- A request to grade a submission. -/
structure EvaluateRequest where
  code : String := ""
  challenge : Challenge := {}
  rules : List String := []
  settings : Settings := []

/-- Reads a request to grade a submission. -/
def EvaluateRequest.ofDatum : Datum → Checked EvaluateRequest
  | .dict entries =>
    let code := checkRequired entries "code" "" checkText
    let expected := checkField entries ["expectedOutput", "expected_output"] none checkOptionalText
    let cases := checkField entries ["testCases", "test_cases"] [] (checkList checkCase)
    let rules := checkField entries ["rules"] [] (checkList checkText)
    let settings := checkField entries ["settings"] [] checkSettings
    { value :=
        { code := code.value
          challenge := { expected := expected.value, cases := cases.value }
          rules := rules.value
          settings := settings.value }
      problems := code.problems ++ expected.problems ++ cases.problems ++ rules.problems ++
        settings.problems }
  | _ => .bad {} .notModel

/-- A request to check rules. -/
structure RulesRequest where
  code : String := ""
  rules : List String := []

/-- Reads a request to check rules. -/
def RulesRequest.ofDatum : Datum → Checked RulesRequest
  | .dict entries =>
    let code := checkRequired entries "code" "" checkText
    let rules := checkField entries ["rules"] [] (checkList checkText)
    { value := { code := code.value, rules := rules.value }
      problems := code.problems ++ rules.problems }
  | _ => .bad {} .notModel

/-! ## Answers -/

/-- Why a request was not graded. -/
inductive ServiceError where
  | timeout
  | server (message : String)
deriving DecidableEq, Repr

/-- The name of a service error. -/
def ServiceError.code : ServiceError → String
  | timeout => "TIMEOUT"
  | server _ => "SERVER_ERROR"

/-- What a service error says. -/
def ServiceError.message : ServiceError → String
  | timeout => "Time limit exceeded"
  | server m => m

/-- The answer to a request to grade a submission. -/
structure Answer where
  verdict : Verdict
  error : Option ServiceError := none
deriving DecidableEq, Repr

/-- The seconds that one request may take. -/
def usualTimeout : Float := 2.0

/-- Whether the time for a request is over before its grading, which takes `took` seconds, is done. No
time at all is over before the grading starts. -/
def Overdue (timeout took : Float) : Prop := timeout ≤ 0 ∨ timeout < took

instance (timeout took : Float) : Decidable (Overdue timeout took) :=
  inferInstanceAs (Decidable (_ ∨ _))

/-- Answers a request to grade a submission within a time in seconds. The grading would take `took`
seconds, and its runs find these hosts. -/
def EvaluateRequest.answer (req : EvaluateRequest) (timeout : Float) (took : Float := 0)
    (hosts : Hosts := fun _ => {}) : Answer :=
  match capLimits req.settings with
  | .error f =>
    { verdict := { success := false, output := "" }, error := some (.server f.message) }
  | .ok limits =>
    if Overdue timeout took then
      { verdict :=
          { success := false
            output := ""
            diagnostic := some ("TimeoutError: evaluation exceeded " ++
              Number.floatText timeout ++ "s") }
        error := some .timeout }
    else { verdict := grade limits req.code req.challenge req.rules hosts }

end SnippetGrader.Grading
