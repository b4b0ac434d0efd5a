import SnippetGrader.Machine.Failure
import SnippetGrader.Machine.Store
import SnippetGrader.Text.Blank

/-!
# The machine

The state of a run: its limits, the store, what was printed, the input that is left, and the
counters that the limits bound. A computation of type `Run α` changes the machine and gives an
`α`, a failure or exhaustion; changes made before a failure stay.
-/

namespace SnippetGrader

/-- What bounds a run. -/
structure Limits where
  /-- Rounds of one `while` statement. -/
  maxLoop : Int := 1000
  /-- Nested calls of functions that the program defines. -/
  maxCallDepth : Int := 30
  /-- Characters that may be printed. -/
  maxOutputChars : Int := 20000
  /-- Statements that may be executed. -/
  maxSteps : Int := 100000
  /-- Seconds that the run may take. -/
  maxTime : Float := 1.5

/-- The state of a run. -/
structure Machine where
  limits : Limits := {}
  store : Store := {}
  /-- Whether an expression is evaluated by a run, so that it can print, read input and make
  functions. -/
  attached : Bool := true
  /-- The finished lines of output. -/
  finished : Array String := #[]
  /-- The output after the last line end. -/
  pending : String := ""
  /-- Number of characters that the program tried to print. -/
  written : Nat := 0
  warnings : List String := []
  /-- The input that was not read yet. -/
  inputs : List Value := []
  callDepth : Nat := 0
  steps : Nat := 0
  /-- The failures whose handlers are running, innermost first. -/
  handling : List Failure := []
  /-- Number of the line of the statement that started last. -/
  lineNumber : Nat := 0

/-- The surroundings of a machine. -/
def Machine.host (m : Machine) : Surroundings := m.store.host

/-- A computation on a machine. -/
abbrev Run := EStateM Stop Machine

namespace Run

def fail {α : Type} (f : Failure) : Run α := throw (.failed f)

/-- The result of a computation that may fail on its own. -/
def ofExcept {α : Type} : Except Failure α → Run α
  | .ok a => pure a
  | .error f => fail f

def ofStop {α : Type} : Except Stop α → Run α
  | .ok a => pure a
  | .error s => throw s

/-- The store of the machine. -/
def store : Run Store := return (← get).store

def modifyStore (f : Store → Store) : Run Unit := modify fun m => { m with store := f m.store }

/-- The items of a list. -/
def items (ref : Nat) : Run (Array Value) := return (← store).items ref

def newList (xs : Array Value) : Run Value :=
  modifyGet fun m =>
    (.list m.store.lists.size, { m with store := { m.store with lists := m.store.lists.push xs } })

def setItems (ref : Nat) (xs : Array Value) : Run Unit :=
  modifyStore fun s => { s with lists := s.lists.setIfInBounds ref xs }

def growList (ref : Nat) (f : Array Value → Array Value) : Run Unit :=
  modifyStore fun s =>
    { s with lists := s.lists.modify ref f, sorting := touch ref s.sorting }

/-- Empties a list for the time of a sort. -/
def beginSort (ref : Nat) : Run Unit := do
  setItems ref #[]
  modifyStore fun s => { s with sorting := (ref, false) :: s.sorting }

/-- Ends the sort of a list with these items, and says whether others were put into it
meanwhile. -/
def endSort (ref : Nat) (xs : Array Value) : Run Bool := do
  let touched := ((← store).sorting.head?.map (·.2)).getD false
  setItems ref xs
  modifyStore fun s => { s with sorting := s.sorting.tail }
  return touched

def newTextList (xs : List (List Char)) : Run Value :=
  newList (xs.map fun t => Value.str (String.ofList t)).toArray

def newScope (scope : Scope) : Run Nat :=
  modifyGet fun m =>
    (m.store.scopes.size, { m with store := { m.store with scopes := m.store.scopes.push scope } })

/-- The names of a scope. -/
def scope (ref : Nat) : Run Scope := return (← store).scope ref

def lookup? (ref : Nat) (name : String) : Run (Option Value) := return (← scope ref).get? name

def bindName (ref : Nat) (name : String) (v : Value) : Run Unit :=
  modifyStore fun s => { s with scopes := s.scopes.modify ref fun sc => sc.set name v }

def setField (ref : Nat) (name : String) (v : Value) : Run Unit :=
  modifyStore fun s =>
    { s with objects := s.objects.modify ref fun o => { o with fields := o.fields.set name v } }

def newLock : Run Value :=
  modifyGet fun m => (.lock m.store.locks, { m with store := { m.store with locks := m.store.locks + 1 } })

def newException (kind message : String) : Run Value :=
  modifyGet fun m =>
    (.exception m.store.exceptions kind message,
      { m with store := { m.store with exceptions := m.store.exceptions + 1 } })

def newNan : Run Value :=
  modifyGet fun m => (.nan m.store.nans, { m with store := { m.store with nans := m.store.nans + 1 } })

/-- A value that was just computed; one that is no number is a new thing. -/
def fresh (v : Value) : Run Value :=
  match v with
  | .float x => if x.isNaN then newNan else return v
  | v => return v

/-- The value that a computation gives, which may fail on its own. -/
def computed (r : Except Failure Value) : Run Value := do fresh (← ofExcept r)

/-- The time that the clock shows. -/
def lookAtClock : Run Value := do
  let reading ← modifyGet fun m =>
    (m.store.host.clock.reading m.store.looks,
      { m with store := { m.store with looks := m.store.looks + 1 } })
  fresh (.float reading)

/-- Runs `body` and then `after`, whatever the outcome of `body`. -/
def finally' {α : Type} (body : Run α) (after : Run Unit) : Run α := fun m =>
  match body m with
  | .ok a m' =>
    match after m' with
    | .ok _ m'' => .ok a m''
    | .error e m'' => .error e m''
  | .error e m' =>
    match after m' with
    | .ok _ m'' => .error e m''
    | .error e' m'' => .error e' m''

/-- Runs `body`; a failure goes to `handler`, exhaustion does not. The machine stays as the
failing computation left it. -/
def onFailure {α : Type} (body : Run α) (handler : Failure → Run α) : Run α := fun m =>
  match body m with
  | .ok a m' => .ok a m'
  | .error (.failed f) m' => handler f m'
  | .error (.exhausted n) m' => .error (.exhausted n) m'

def attempt {α : Type} (body : Run α) : Run (Except Failure α) :=
  onFailure (Except.ok <$> body) fun f => return .error f

/-- The boundary around a call of a value: exhaustion inside becomes a failure that the program
can catch. -/
def guardCall {α : Type} (body : Run α) : Run α := fun m =>
  match body m with
  | .error (.exhausted n) m' => .error (.failed n.failure) m'
  | r => r

end Run

end SnippetGrader
