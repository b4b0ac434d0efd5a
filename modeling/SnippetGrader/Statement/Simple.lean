import SnippetGrader.Expression.Evaluate
import SnippetGrader.Statement.Clause

/-!
# Statements on one line

Assignments, imports, `return`, `raise`, `assert` and printing.
-/

namespace SnippetGrader.Statement

open Text Source Run Expression

/-! ## Assignment -/

/-- The further targets of a chained assignment and the text of its value, where at most `fuel`
targets are read. -/
def chainedTargets : (fuel : Nat) → List Char → List (List Char) × List Char
  | 0, value => ([], value)
  | fuel + 1, value =>
    match assignment? value with
    | none => ([], value)
    | some a =>
      if a.symbol == .assign && isChainTarget a.target && firstName a.target != "lambda" then
        let (targets, value) := chainedTargets fuel a.value
        (a.target :: targets, value)
      else ([], value)

def changeOperator? : Symbol → Option Operator
  | .addAssign => some .add
  | .subAssign => some .sub
  | .mulAssign => some .mul
  | .divAssign => some .div
  | .floorDivAssign => some .floorDiv
  | .modAssign => some .mod
  | .powAssign => some .pow
  | _ => none

/-- The new value of a target: a list is extended in place by another one. -/
def changedValue (op : Operator) (current v : Value) : Run Value := do
  match op, current, v with
  | .add, .list a, .list b =>
    let more ← items b
    if !more.isEmpty then growList a (· ++ more)
    return current
  | op, current, v => operate op current v

def executeAssignment (e : Engine) (scope : Nat) (a : Assignment) : Run Unit := do
  match changeOperator? a.symbol with
  | some op =>
    let v ← e.eval scope a.value
    let current ← e.eval scope a.target
    assign e scope (Target.ofText a.target) (← changedValue op current v)
  | none =>
    let (more, value) := chainedTargets a.value.length a.value
    let v ← e.eval scope value
    (a.target :: more).forM fun target => assign e scope (Target.ofText target) v

/-! ## Imports -/

def importNames (scope : Nat) (lib : Library) (parts : List (List Char)) : Run Unit :=
  parts.forM fun part => do
    let (name, alias_) := splitAlias part
    match lib.attribute? (String.ofList (trim name)) with
    | some v => bindName scope (String.ofList (trim (if alias_.isEmpty then name else alias_))) v
    | none => return

/-- Binds libraries that are imported; unknown ones are passed over. -/
def importLibraries (scope : Nat) (parts : List (List Char)) : Run Unit :=
  parts.forM fun part => do
    let (name, alias_) := splitAlias part
    match Library.ofName? (String.ofList (trim name)) with
    | some lib =>
      bindName scope (String.ofList (trim (if alias_.isEmpty then name else alias_))) (.library lib)
    | none => return

def executeImport (scope : Nat) (text : List Char) : Run Unit :=
  match fromImport? text with
  | some (source, names) =>
    let parts := cutTopLevel ',' (trimBy (fun c => c == '(' || c == ')') names)
    match Library.ofName? (String.ofList source) with
    | some lib => importNames scope lib parts
    | none => return
  | none => importLibraries scope (cutTopLevel ',' (text.drop 6))

/-! ## Other statements -/

def executeReturn (e : Engine) (scope : Nat) (text : List Char) : Run Flow := do
  return .returned (← e.eval scope (text.drop 6))

/-- The text of an error that is raised, without its cause. -/
def raisedText (text : List Char) : List Char :=
  let rest := trim (text.drop 5)
  match (findKeyword ["from"] rest).head? with
  | some s => trim (rest.take s.start)
  | none => rest

def holdsException (scope : Nat) (name : String) : Run Bool := do
  match ← lookup? scope name with
  | some (.exception _ _ _) => return true
  | _ => return false

def raiseValue (e : Engine) (scope : Nat) (text : List Char) : Run Flow := do
  match ← e.eval scope text with
  | .exception _ kind message => fail { kind, message }
  | _ => fail (.type "exceptions must derive from BaseException")

/-- Raises an error of a kind; its message is the first argument. -/
def raiseKind (e : Engine) (scope : Nat) (kind : String) (text : List Char) : Run Flow := do
  if text.isEmpty then fail { kind, message := "" }
  let (args, _) ← arguments e scope text
  match args.head? with
  | some v => fail { kind, message := ← display v }
  | none => fail { kind, message := "" }

/-- Executes `raise`; without an operand it raises the error that is being handled once more. -/
def executeRaise (e : Engine) (scope : Nat) (text : List Char) : Run Flow := do
  if (trim (text.drop 5)).isEmpty then
    match (← get).handling with
    | f :: _ => fail f
    | [] => fail { kind := "RuntimeError", message := "No active exception to reraise" }
  let operand := raisedText text
  match raisedCall? operand with
  | none => raiseValue e scope operand
  | some (name, inner) =>
    let kind := String.ofList name
    if ← holdsException scope kind then raiseValue e scope operand
    else raiseKind e scope kind (inner.getD [])

def executeAssert (e : Engine) (scope : Nat) (text : List Char) : Run Unit := do
  match cutTopLevel ',' (text.drop 6) with
  | [] => return
  | condition :: rest =>
    if !(← truthy (← e.eval scope condition)) then
      let message ← match rest with
        | text :: _ => do display (← e.eval scope text)
        | [] => pure ""
      fail { kind := "AssertionError", message }

/-- Executes a call of `print` that is a statement of its own. -/
def executePrint (e : Engine) (scope : Nat) (text : List Char) : Run Unit := do
  let (args, keywords) ← arguments e scope (text.drop 6).dropLast
  print args keywords

end SnippetGrader.Statement
