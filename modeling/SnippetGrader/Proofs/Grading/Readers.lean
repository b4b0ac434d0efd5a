import Mathlib.Data.List.Forall2
import SnippetGrader.Proofs.Grading.Limits

/-!
# Two readers of a challenge

A challenge may come as a request to the service or as data for the grader. Requests are read by a
library, of which `IsReader` says what is known: it checks the shape of a request and takes the first
spelling of a field that is there. `Challenge.ofDatum` takes anything and the other spelling first,
unless it holds nothing. On a request that spells no field in two ways with different contents both
read the same challenge, so the service answers what the grader says on the same hosts. The reader with
which the service is tried out, `EvaluateRequest.ofDatum`, is one of those meant.
-/

namespace SnippetGrader

def Datum.under? (name : String) : Datum → Option Datum
  | dict entries => entries.lookup name
  | _ => none

namespace Grading

/-- A field that is given under both of its names holds nothing under the first, or the same. -/
def SameUnder (first second : String) (d : Datum) : Prop :=
  ∀ x y, d.under? first = some x → d.under? second = some y → x.isNothing = true ∨ x = y

/-- A request gives no field in two spellings with different contents. -/
structure SpelledAlike (body : Datum) : Prop where
  expected : SameUnder "expected_output" "expectedOutput" body
  cases : SameUnder "test_cases" "testCases" body
  inCases : ∀ name ∈ casesNames, ∀ items, body.under? name = some (.list items) →
    ∀ case ∈ items, SameUnder "expected_output" "expectedOutput" case

/-! ## One field -/

def something (d : Datum) : Bool := !d.isNothing

/-- What stands under the first of some names that is there. -/
def firstOf (entries : List (String × Datum)) (names : List String) : Option Datum :=
  names.findSome? fun name => entries.lookup name

section Fields

variable {entries : List (String × Datum)}

theorem pick?_dict (names : List String) : (Datum.dict entries).pick? names =
    .ok (names.findSome? fun name => (entries.lookup name).filter something) := by
  induction names with
  | nil => rfl
  | cons name names ih =>
    rw [List.findSome?_cons, Datum.pick?, Datum.entry?, ih]
    cases entries.lookup name with
    | none => rfl
    | some d =>
      change (if d.isNothing then _ else _) = _
      cases h : d.isNothing <;> simp [Option.filter, something, h, pure, Except.pure]

theorem pick?_single (name : String) :
    (Datum.dict entries).pick? [name] = .ok ((firstOf entries [name]).filter something) := by
  rw [pick?_dict, firstOf]
  simp only [List.findSome?_cons, List.findSome?_nil]
  cases entries.lookup name with
  | none => rfl
  | some d => cases h : something d <;> simp [Option.filter, h]

/-- The two orders in which spellings are tried come to the same. -/
theorem pick?_pair {first second : String} (h : SameUnder first second (.dict entries)) :
    (Datum.dict entries).pick? [first, second] =
      .ok ((firstOf entries [second, first]).filter something) := by
  have hsame (x y : Datum) (hx : entries.lookup first = some x)
      (hy : entries.lookup second = some y) : x.isNothing = true ∨ x = y := h x y hx hy
  rw [pick?_dict]
  simp only [List.findSome?_cons, List.findSome?_nil, firstOf]
  refine congrArg Except.ok ?_
  cases hx : entries.lookup first with
  | none =>
    cases entries.lookup second with
    | none => rfl
    | some y => cases h : something y <;> simp [Option.filter, h]
  | some x =>
    cases hy : entries.lookup second with
    | none => cases h : something x <;> simp [Option.filter, h]
    | some y =>
      obtain hnone | rfl := hsame x y hx hy
      · cases h : something y <;> simp [Option.filter, something, hnone] at h ⊢ <;> simp [h]
      · cases h : something x <;> simp [Option.filter, h]

end Fields

/-! ## What is known of a reader -/

/-- What is read from data that may hold nothing. -/
def Optionally {α β : Type} (holds : Datum → α → Prop) (absent : β) (present : α → β) (d : Datum)
    (b : β) : Prop :=
  if d.isNothing then b = absent else ∃ a, holds d a ∧ b = present a

/-- A field holds what stands under the first of its names that is there, and has a default. -/
def FieldHolds {α : Type} (entries : List (String × Datum)) (names : List String) (default : α)
    (holds : Datum → α → Prop) (a : α) : Prop :=
  match firstOf entries names with
  | none => a = default
  | some d => holds d a

def TextHolds (d : Datum) (t : String) : Prop := d = .plain (.str t)

def ListHolds {α : Type} (holds : Datum → α → Prop) (d : Datum) (as : List α) : Prop :=
  ∃ items, d = .list items ∧ List.Forall₂ holds items as

def SettingsHold (d : Datum) (settings : Settings) : Prop := d = .dict settings

/-- A test case in a request. -/
def CaseHolds (d : Datum) (case : TestCase) : Prop :=
  ∃ entries, d = .dict entries ∧ FieldHolds entries ["input"] "" TextHolds case.input ∧
    FieldHolds entries ["expectedOutput", "expected_output"] "" TextHolds case.expected

/-- The fields of a request hold what stands in its body. -/
structure RequestHolds (entries : List (String × Datum)) (req : EvaluateRequest) : Prop where
  code : entries.lookup "code" = some (.plain (.str req.code))
  expected : FieldHolds entries ["expectedOutput", "expected_output"] none
    (Optionally TextHolds none some) req.challenge.expected
  cases : FieldHolds entries ["testCases", "test_cases"] [] (ListHolds CaseHolds)
    req.challenge.cases
  rules : FieldHolds entries ["rules"] [] (ListHolds TextHolds) req.rules
  settings : FieldHolds entries ["settings"] [] (Optionally SettingsHold [] id) req.settings

/-- What is known of a reader of requests: a request that it accepts holds, in fields of the right
shape, what stands in the body, under the alias of a field first and else under its name. Which bodies
it accepts and what it says of the others is left open. -/
structure IsReader (read : Datum → Option EvaluateRequest) : Prop where
  holds : ∀ body req, read body = some req → ∃ entries, body = .dict entries ∧
    RequestHolds entries req

/-! ## A challenge -/

section Challenge

variable {entries : List (String × Datum)}

/-- The grader takes the text that a field holds. -/
theorem pickText_eq {names names' : List String} {t : String}
    (hpick : (Datum.dict entries).pick? names' = .ok ((firstOf entries names).filter something))
    (h : FieldHolds entries names "" TextHolds t) : pickText (.dict entries) names' = .ok t := by
  unfold FieldHolds at h
  rw [pickText, hpick]
  cases hd : firstOf entries names with
  | none =>
    rw [hd] at h
    rw [h]
    rfl
  | some d =>
    rw [hd] at h
    obtain rfl : d = .plain (.str t) := h
    rfl

/-- The grader takes the expected output that a field holds, if any. -/
theorem optionalText_eq {names : List String} {expected : Option String}
    (h : FieldHolds entries names none (Optionally TextHolds none some) expected) :
    ((firstOf entries names).filter something).mapM Datum.text = .ok expected := by
  unfold FieldHolds Optionally at h
  cases hd : firstOf entries names with
  | none =>
    rw [hd] at h
    rw [h]
    rfl
  | some d =>
    rw [hd] at h
    dsimp only at h
    split at h
    · next hnone =>
      rw [h]
      simp [Option.filter, something, hnone, pure, Except.pure]
    · obtain ⟨t, rfl, rfl⟩ := h
      rfl

theorem testCase_eq {d : Datum} {case : TestCase}
    (hsame : SameUnder "expected_output" "expectedOutput" d) (h : CaseHolds d case) :
    TestCase.ofDatum d = .ok case := by
  obtain ⟨entries, rfl, hinput, hexpected⟩ := h
  rw [TestCase.ofDatum, pickText_eq (pick?_single "input") hinput, expectedNames,
    pickText_eq (pick?_pair hsame) hexpected]
  rfl

theorem testCases_eq {items : List Datum} {cases : List TestCase}
    (hsame : ∀ d ∈ items, SameUnder "expected_output" "expectedOutput" d)
    (h : List.Forall₂ CaseHolds items cases) : items.mapM TestCase.ofDatum = .ok cases := by
  induction h with
  | nil => rfl
  | cons hcase _ ih =>
    rw [List.mapM_cons, testCase_eq (hsame _ List.mem_cons_self) hcase,
      ih fun d hd => hsame d (List.mem_cons_of_mem _ hd)]
    rfl

/-- The items that the grader runs on, given what stands under the names of the test cases. -/
def itemsOf (found : Option Datum) : Except Failure (List Datum) :=
  match found.filter Datum.truthy with
  | some d => d.items
  | none => pure []

theorem cases_eq {names : List String} {cases : List TestCase}
    (hsame : ∀ items, firstOf entries names = some (.list items) →
      ∀ d ∈ items, SameUnder "expected_output" "expectedOutput" d)
    (h : FieldHolds entries names [] (ListHolds CaseHolds) cases) :
    (itemsOf ((firstOf entries names).filter something) >>= fun items =>
        items.mapM TestCase.ofDatum) = .ok cases := by
  unfold FieldHolds at h
  cases hd : firstOf entries names with
  | none =>
    rw [hd] at h
    rw [h]
    rfl
  | some d =>
    rw [hd] at h
    obtain ⟨items, rfl, hitems⟩ := h
    have hgiven : itemsOf ((some (Datum.list items)).filter something) = .ok items := by
      cases items <;> rfl
    rw [hgiven]
    exact testCases_eq (hsame items hd) hitems

/-- **Two readers of a challenge.** The data of a request that is accepted and spells nothing in two
ways are for the grader the challenge of the request. -/
theorem challenge_eq {req : EvaluateRequest} (h : RequestHolds entries req)
    (halike : SpelledAlike (.dict entries)) :
    Challenge.ofDatum (.dict entries) = .ok req.challenge := by
  have hall : Challenge.ofDatum (.dict entries) = do
      let cases ← (Datum.dict entries).pick? casesNames
      let expected ← (Datum.dict entries).pick? expectedNames
      let expected ← expected.mapM Datum.text
      let cases ← itemsOf cases >>= fun items => items.mapM TestCase.ofDatum
      return { expected, cases } := by
    refine bind_congr fun found => bind_congr fun given => bind_congr fun expected => ?_
    rw [itemsOf, bind_assoc]
    cases found.filter Datum.truthy <;> rfl
  have hsame (items : List Datum)
      (h : firstOf entries ["testCases", "test_cases"] = some (.list items)) :
      ∀ d ∈ items, SameUnder "expected_output" "expectedOutput" d := by
    obtain ⟨name, hname, hfound⟩ := List.exists_of_findSome?_eq_some h
    refine halike.inCases name ?_ items hfound
    simpa [casesNames, or_comm] using hname
  rw [hall, casesNames, pick?_pair halike.cases, expectedNames, pick?_pair halike.expected]
  change (do
      let expected ← ((firstOf entries _).filter something).mapM Datum.text
      let cases ← itemsOf ((firstOf entries _).filter something) >>= fun items =>
        items.mapM TestCase.ofDatum
      return { expected, cases } : Except Failure Challenge) = _
  rw [optionalText_eq h.expected, cases_eq hsame h.cases]
  rfl

end Challenge

/-- The service answers a request as the grader grades it when it gets the data of the request as a
challenge, and the limits of the client as settings: whatever reads the requests, and on whatever
hosts the runs are. -/
theorem answer_eq_grade {read : Datum → Option EvaluateRequest} (hreader : IsReader read)
    {body : Datum} {req : EvaluateRequest} {limits : Limits} {timeout took : Float}
    (hread : read body = some req) (halike : SpelledAlike body)
    (hlimits : capLimits req.settings = .ok limits) (htime : ¬Overdue timeout took)
    (hosts : Hosts) :
    ∃ v, req.answer timeout took hosts = { verdict := v } ∧ (do
      gradeWith (settingsOf limits) req.code (← Challenge.ofDatum body) req.rules hosts) =
        .ok v := by
  obtain ⟨entries, rfl, hholds⟩ := hreader.holds body req hread
  refine ⟨grade limits req.code req.challenge req.rules hosts, ?_, ?_⟩
  · rw [EvaluateRequest.answer, hlimits]
    exact if_neg htime
  · rw [challenge_eq hholds halike]
    change gradeWith (settingsOf limits) req.code req.challenge req.rules hosts = _
    unfold gradeWith grade
    cases violations req.code.toList (req.rules.map String.toList) with
    | nil =>
      rw [evaluateWith, limitsOf_settingsOf]
      rfl
    | cons t ts => rfl

/-! ## A reader -/

/-- Reads a request, without saying what is wrong with one that is refused. -/
def readRequest (body : Datum) : Option EvaluateRequest :=
  (EvaluateRequest.ofDatum body).toExcept.toOption

theorem toOption_eq_some {α : Type} {c : Checked α} {a : α}
    (h : c.toExcept.toOption = some a) : c.problems = [] ∧ c.value = a := by
  unfold Checked.toExcept at h
  split at h
  · next hempty => exact ⟨List.isEmpty_iff.1 hempty, Option.some.inj h⟩
  · cases h

/-- What a check accepts is held by its value. -/
def Accepts {α : Type} (check : Datum → Checked α) (holds : Datum → α → Prop) : Prop :=
  ∀ d, (check d).problems = [] → holds d (check d).value

theorem accepts_checkText : Accepts checkText TextHolds := by
  intro d h
  unfold checkText at h ⊢
  split
  · rfl
  · next hd => simp [Checked.bad] at h

theorem accepts_checkOptionalText : Accepts checkOptionalText (Optionally TextHolds none some) := by
  intro d h
  unfold checkOptionalText Optionally at *
  cases hnone : d.isNothing with
  | true => rfl
  | false =>
    simp only [hnone, Bool.false_eq_true, if_false] at h ⊢
    exact ⟨_, accepts_checkText d h, rfl⟩

theorem accepts_checkSettings : Accepts checkSettings (Optionally SettingsHold [] id) := by
  intro d h
  cases d with
  | dict entries => exact ⟨entries, rfl, rfl⟩
  | _ =>
    unfold checkSettings Optionally at *
    split
    · next hnone => simp [hnone]
    · next hsome =>
      simp only [hsome] at h
      simp [Checked.bad] at h

section Accepts

variable {α : Type} {check : Datum → Checked α} {holds : Datum → α → Prop}
  (hcheck : Accepts check holds)
include hcheck

theorem Accepts.items {items : List Datum} {i : Nat}
    (h : (checkItems check i items).problems = []) :
    List.Forall₂ holds items (checkItems check i items).value := by
  induction items generalizing i with
  | nil => exact .nil
  | cons d items ih =>
    simp only [checkItems, List.append_eq_nil_iff, Checked.under, List.map_eq_nil_iff] at h
    exact .cons (hcheck d h.1) (ih h.2)

theorem Accepts.list : Accepts (checkList check) (ListHolds holds) := by
  intro d h
  cases d with
  | list items => exact ⟨items, rfl, hcheck.items h⟩
  | _ => simp [checkList, Checked.bad] at h

theorem Accepts.field {entries : List (String × Datum)} {names : List String} {default : α}
    (h : (checkField entries names default check).problems = []) :
    FieldHolds entries names default holds (checkField entries names default check).value := by
  have hfirst : firstOf entries names =
      (names.findSome? fun name => (entries.lookup name).map fun d => (name, d)).map Prod.snd := by
    rw [List.map_findSome?]
    refine congrArg (fun f => List.findSome? f names) (funext fun name => ?_)
    rw [Function.comp_apply]
    cases entries.lookup name <;> rfl
  unfold FieldHolds
  rw [hfirst]
  unfold checkField at h ⊢
  generalize (names.findSome? fun name => (entries.lookup name).map fun d => (name, d)) = found at h
  cases found with
  | none => rfl
  | some p => exact hcheck p.2 (by simpa [Checked.under] using h)

end Accepts

theorem accepts_checkCase : Accepts checkCase CaseHolds := by
  intro d h
  cases d with
  | dict entries =>
    simp only [checkCase, List.append_eq_nil_iff] at h
    exact ⟨entries, rfl, accepts_checkText.field h.1, accepts_checkText.field h.2⟩
  | _ => simp [checkCase, Checked.bad] at h

theorem checkRequired_ok {entries : List (String × Datum)} {name : String}
    (h : (checkRequired entries name "" checkText).problems = []) :
    entries.lookup name = some (.plain (.str (checkRequired entries name "" checkText).value)) := by
  unfold checkRequired at h ⊢
  cases hd : entries.lookup name with
  | none => simp [hd] at h
  | some d =>
    simp only [hd] at h
    exact congrArg some (accepts_checkText d (by simpa [Checked.under] using h))

theorem isReader_readRequest : IsReader readRequest where
  holds body req h := by
    obtain ⟨hproblems, rfl⟩ := toOption_eq_some h
    cases body with
    | dict entries =>
      simp only [EvaluateRequest.ofDatum, List.append_eq_nil_iff] at hproblems
      obtain ⟨⟨⟨⟨hcode, hexpected⟩, hcases⟩, hrules⟩, hsettings⟩ := hproblems
      exact ⟨entries, rfl, checkRequired_ok hcode, accepts_checkOptionalText.field hexpected,
        accepts_checkCase.list.field hcases, accepts_checkText.list.field hrules,
        accepts_checkSettings.field hsettings⟩
    | _ => simp [EvaluateRequest.ofDatum, Checked.bad] at hproblems

def textDatum (t : String) : Datum := .plain (.str t)

/-- A request that mixes the spellings, holds nothing under some names and has a field too many. -/
def mixedRequest : Datum :=
  .dict [("code", textDatum "print(input())"), ("expected_output", .nothing),
    ("testCases", .list
      [.dict [("input", textDatum "1"), ("expected_output", .nothing),
          ("expectedOutput", textDatum "1")],
       .dict [("expected_output", textDatum "2"), ("note", .list [])]]),
    ("settings", .dict [("max_steps", .plain (.int 5))])]

theorem spelledAlike_mixedRequest : SpelledAlike mixedRequest where
  expected x y hx hy := (nomatch hy)
  cases x y hx hy := (nomatch hx)
  inCases := by
    simp only [casesNames, List.forall_mem_cons]
    refine ⟨fun items h => (nomatch h), fun items h => ?_, fun _ h => (nomatch h)⟩
    cases h
    simp only [List.forall_mem_cons]
    refine ⟨fun x y hx hy => ?_, fun x y hx hy => (nomatch hy), fun _ h => (nomatch h)⟩
    cases hx
    exact .inl rfl

theorem answer_eq_grade_mixed : ∃ req limits,
    IsReader readRequest ∧ readRequest mixedRequest = some req ∧ SpelledAlike mixedRequest ∧
      capLimits req.settings = .ok limits ∧ ¬Overdue usualTimeout 0.5 ∧
      ∃ v, req.answer usualTimeout 0.5 = { verdict := v } ∧ (do
        gradeWith (settingsOf limits) req.code (← Challenge.ofDatum mixedRequest) req.rules) =
          .ok v :=
  ⟨_, _, isReader_readRequest, rfl, spelledAlike_mixedRequest, rfl, by decide,
    answer_eq_grade isReader_readRequest rfl spelledAlike_mixedRequest rfl (by decide) fun _ => {}⟩

/-- A request that gives its expected output in two spellings with different contents. -/
def contradictoryRequest : Datum :=
  .dict [("code", textDatum "print('a')"), ("expectedOutput", textDatum "a"),
    ("expected_output", textDatum "b")]

/-- The service compares with the one spelling and the grader with the other. -/
theorem answer_ne_grade : ∃ req limits v,
    readRequest contradictoryRequest = some req ∧
      capLimits req.settings = .ok limits ∧ ¬Overdue usualTimeout 0.5 ∧ (do
        gradeWith (settingsOf limits) req.code (← Challenge.ofDatum contradictoryRequest)
          req.rules) = .ok v ∧
      req.answer usualTimeout 0.5 ≠ { verdict := v } := by
  refine ⟨⟨"print('a')", { expected := some "a" }, [], []⟩, usual,
    { success := false, output := "a" }, rfl, rfl, by decide, ?_, ?_⟩
  · have hverdict : evaluate usual "print('a')" { expected := some "b" } =
        { success := false, output := "a" } := by decide +kernel
    exact congrArg Except.ok hverdict
  · decide +kernel

end Grading

end SnippetGrader
