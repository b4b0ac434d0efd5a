import SnippetGrader.Machine.Basic
import SnippetGrader.Number.FloatText

/-!
# Output, input and the budgets of a run

`write` adds text to the output unless the output limit is passed; what was refused still counts.
`readInput` serves the next input. `tick` charges one statement.
-/

namespace SnippetGrader

/-- Cuts output at its line ends: the finished lines and the text after the last one. -/
def splitOutput (text : List Char) : List String × String :=
  let pieces := (Text.cutAt '\n' text).map String.ofList
  (pieces.dropLast, pieces.getLast?.getD "")

namespace Run

def write (text : String) : Run Unit := do
  modify fun m => { m with written := m.written + text.length }
  let m ← get
  if (m.written : Int) > m.limits.maxOutputChars then
    fail { kind := "OutputLimitError", message := "Output length limit reached" }
  let (lines, rest) := splitOutput (m.pending.toList ++ text.toList)
  modify fun m => { m with finished := m.finished ++ lines.toArray, pending := rest }

/-- Charges one statement against the limits of the run. -/
def tick : Run Unit := do
  modify fun m => { m with steps := m.steps + 1 }
  let m ← get
  if (m.steps : Int) > m.limits.maxSteps then
    fail { kind := "StepLimitError"
           message := "Step limit of " ++ toString m.limits.maxSteps ++ " exceeded" }
  if m.host.clock.Expired m.limits.maxTime m.steps then
    fail { kind := "TimeoutError"
           message := "Time limit of " ++ Number.floatText m.limits.maxTime ++ "s exceeded" }

def readInput : Run Value := do
  match (← get).inputs with
  | [] => fail { kind := "EOFError", message := "EOF when reading a line" }
  | v :: rest =>
    modify fun m => { m with inputs := rest }
    return v

end Run

end SnippetGrader
