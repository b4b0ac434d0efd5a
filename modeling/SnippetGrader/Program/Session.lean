import SnippetGrader.Program.Level
import SnippetGrader.Value.Datum

/-!
# Running programs

A program runs on a fresh machine, under limits that settings may change and with inputs that are
served to it. The report of a run says what was printed, which warnings there were and whether the
program failed.
-/

namespace SnippetGrader

/-! ## Settings -/

/-- Named data that change limits. -/
abbrev Settings := List (String × Datum)

def Limits.setInt (set : Limits → Int → Limits) (limits : Limits) (d : Datum) :
    Except Failure Limits :=
  set limits <$> d.toInt

/-- The settings by name, in the order in which they are applied. -/
def Limits.setters : List (String × (Limits → Datum → Except Failure Limits)) :=
  [("max_loop", setInt fun l n => { l with maxLoop := n }),
   ("max_call_depth", setInt fun l n => { l with maxCallDepth := n }),
   ("max_output_chars", setInt fun l n => { l with maxOutputChars := n }),
   ("max_steps", setInt fun l n => { l with maxSteps := n }),
   ("max_time_s", fun l d => do return { l with maxTime := ← d.toFloat })]

/-- Applies the settings that some setters know. The first that cannot be applied stops this, and
those before it stay in force. -/
def Limits.updateBy (settings : Settings) :
    List (String × (Limits → Datum → Except Failure Limits)) → Limits → Limits × Option Failure
  | [], limits => (limits, none)
  | (name, set) :: rest, limits =>
    match settings.lookup name with
    | none => updateBy settings rest limits
    | some d =>
      match set limits d with
      | .ok limits' => updateBy settings rest limits'
      | .error f => (limits, some f)

def Limits.update (limits : Limits) (settings : Settings) : Limits × Option Failure :=
  updateBy settings setters limits

/-! ## Inputs -/

/-- What is served to a program that reads input. -/
inductive Inputs where
  /-- The lines of a text. -/
  | text (t : String)
  /-- Data, each served as it is. -/
  | items (data : List Datum)

def Inputs.values : Inputs → Run (List Value)
  | text t => return (Text.lines t.toList).map fun line => .str (String.ofList line)
  | items data => Datum.toValues data

/-- The result of a computation on a machine, and the machine after it. -/
def Machine.perform {α : Type} (m : Machine) (body : Run α) : Except Stop α × Machine :=
  match body m with
  | .ok a m' => (.ok a, m')
  | .error stop m' => (.error stop, m')

/-- A machine on which nothing was done. -/
def Machine.fresh (limits : Limits) (host : Surroundings) : Machine := { limits, store := { host } }

/-- A machine that serves inputs. -/
def Machine.serving (m : Machine) (inputs : Inputs) : Machine :=
  match m.perform inputs.values with
  | (.ok values, m') => { m' with inputs := values }
  | (.error _, m') => m'

/-- A fresh machine with inputs. -/
def Machine.start (limits : Limits) (inputs : Inputs) (host : Host := {}) : Machine :=
  (Machine.fresh limits host.toSurroundings).serving inputs

/-! ## Runs -/

def execute (scope : Nat) (code : String) (host : Host := {}) : Run Flow :=
  Statement.executeBlock host.engine scope (Source.splitLines code.toList)

/-- Evaluates an expression in a scope. -/
def evaluate (scope : Nat) (expression : String) (host : Host := {}) : Run Value :=
  Expression.evaluate host.engine scope expression.toList

def assignTo (scope : Nat) (target : String) (v : Value) (host : Host := {}) : Run Unit :=
  Expression.assign host.engine scope (Expression.Target.ofText target.toList) v

/-- What is known of a run after it has ended. -/
structure Report where
  /-- The lines of the output, the unfinished last one included. -/
  lines : List String
  warnings : List String
  failure : Option Failure

namespace Report

/-- The output of a run. -/
def output (r : Report) : String := "\n".intercalate r.lines

/-- Whether a run ended without a failure. -/
def success (r : Report) : Bool := r.failure.isNone

/-- One line about the failure of a run. -/
def diagnostic (r : Report) : Option String := r.failure.map Failure.describe

end Report

def Machine.outputLines (m : Machine) : List String :=
  m.finished.toList ++ if m.pending.isEmpty then [] else [m.pending]

/-- Runs a program under limits and with inputs. -/
def run (limits : Limits) (inputs : Inputs) (code : String) (host : Host := {}) : Report :=
  let program : Run Flow := do execute (← Run.newScope []) code host
  match (Machine.start limits inputs host).perform program with
  | (.ok _, m) => ⟨m.outputLines, m.warnings, none⟩
  | (.error stop, m) => ⟨m.outputLines, m.warnings, some (stop.failure m.lineNumber)⟩

/-! ## Sessions -/

/-- A program with its inputs and settings, and the host that it finds when it is run. -/
structure Submission where
  code : String
  inputs : Inputs := .items []
  settings : Settings := []
  host : Host := {}

/-- The machine on which the next run starts. The limits stay in force, and the line number is the
one that the last run left. Nothing that a run starts with refers to the store, so it holds nothing
but the host. -/
def Machine.renewed (m : Machine) (host : Surroundings) : Machine :=
  { m with
    store := { host }, attached := true, finished := #[], pending := "", written := 0, warnings := [],
    inputs := [], callDepth := 0, steps := 0, handling := [] }

/-- The machine with its unfinished line of output finished. -/
def Machine.flushed (m : Machine) : Machine :=
  { m with finished := m.outputLines.toArray, pending := "" }

/-- Runs a program on a machine that earlier runs left behind. -/
def Machine.run (m : Machine) (inputs : Inputs) (code : String) (host : Host := {}) :
    Report × Machine :=
  let program : Run Flow := do execute (← Run.newScope []) code host
  match ((m.renewed host.toSurroundings).serving inputs).perform program with
  | (.ok _, m') => (⟨m'.outputLines, m'.warnings, none⟩, m'.flushed)
  | (.error stop, m') =>
    (⟨m'.outputLines, m'.warnings, some (stop.failure m'.lineNumber)⟩, m'.flushed)

/-- Runs a submission, after its settings have been applied to the limits that are in force. With
settings that cannot be applied nothing is run. -/
def Machine.submit (m : Machine) (s : Submission) : Except Failure Report × Machine :=
  match m.limits.update s.settings with
  | (limits, none) =>
    let (report, m') := { m with limits }.run s.inputs s.code s.host
    (.ok report, m')
  | (limits, some f) => (.error f, { m with limits })

/-- Runs submissions one after the other. -/
def Machine.submitAll (m : Machine) : List Submission → List (Except Failure Report) × Machine
  | [] => ([], m)
  | s :: rest =>
    let (report, m') := m.submit s
    let (reports, m'') := m'.submitAll rest
    (report :: reports, m'')

/-- Runs a submission on a fresh machine. -/
def Limits.submit (limits : Limits) (s : Submission) : Except Failure Report × Limits :=
  let (report, m) := Machine.submit { limits } s
  (report, m.limits)

/-- Runs submissions one after the other on a machine that is fresh at first. -/
def Limits.submitAll (limits : Limits) (submissions : List Submission) :
    List (Except Failure Report) :=
  (Machine.submitAll { limits } submissions).1

end SnippetGrader
