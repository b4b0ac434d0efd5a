import SnippetGrader.Value.Datum

/-!
# Challenges

What a submission is graded against: one expected output, or test cases with inputs and expected
outputs. `Challenge.ofDatum` reads a challenge from data, in which names may be written in two
ways and answers need not be texts.
-/

namespace SnippetGrader.Grading

/-- An input and the output that is expected for it. -/
structure TestCase where
  input : String := ""
  expected : String := ""
deriving DecidableEq, Repr

/-- What a submission is graded against. An expected output takes precedence over test cases. -/
structure Challenge where
  expected : Option String := none
  cases : List TestCase := []
deriving DecidableEq, Repr

def expectedNames : List String := ["expected_output", "expectedOutput"]

def casesNames : List String := ["test_cases", "testCases"]

/-- The text of what a datum holds under one of some names. -/
def pickText (d : Datum) (names : List String) : Except Failure String := do
  match ← d.pick? names with
  | some found => found.text
  | none => return ""

/-- Reads a test case. -/
def TestCase.ofDatum (d : Datum) : Except Failure TestCase := do
  return { input := ← pickText d ["input"], expected := ← pickText d expectedNames }

namespace Challenge

/-- Reads a challenge. No data are the challenge that any run meets. -/
def ofDatum (d : Datum) : Except Failure Challenge := do
  if d.isNothing then return {}
  let cases ← d.pick? casesNames
  let expected ← d.pick? expectedNames
  let expected ← expected.mapM Datum.text
  let items ← match cases.filter Datum.truthy with
    | some found => found.items
    | none => pure []
  return { expected, cases := ← items.mapM TestCase.ofDatum }

/-- Whether a submission is run on test cases. -/
def hasCases (c : Challenge) : Bool := c.expected.isNone && !c.cases.isEmpty

/-- The number of points that a submission can reach. -/
def total (c : Challenge) : Nat := if c.hasCases then c.cases.length else 1

end Challenge

end SnippetGrader.Grading
