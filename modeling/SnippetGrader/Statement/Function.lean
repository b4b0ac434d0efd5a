import SnippetGrader.Expression.Evaluate
import SnippetGrader.Statement.Clause

/-!
# Functions and classes of a program

Defining functions and classes, calling functions and making objects. A function is called with a
copy of the scope in which it was defined, as that scope is at the time of the call.
-/

namespace SnippetGrader.Statement

open Text Source Run Expression

/-! ## Definitions -/

def defineFunction (e : Engine) (scope : Nat) (line : Line) (rest : List Line) :
    Run (Nat × Flow) := do
  match definitionHead? line.text with
  | none => fail (.form "invalid function definition")
  | some h =>
    let (params, defaults) ← parameters e scope h.params
    let b := body line (trim h.inline) rest
    let name := String.ofList h.name
    let f ← newFunction { name, params, defaults, body := b.lines, scope }
    bindName scope name f
    return (b.used, .normal)

/-- The default value of the first parameter after the object itself. -/
def firstDefault (params : List String) (defaults : Scope) : Value :=
  match params with
  | _ :: p :: _ => (defaults.get? p).getD (.int 0)
  | _ => .int 0

/-- The name and the default of the field that the body of a class sets up. -/
def classField (e : Engine) : List Line → Run (String × Value)
  | [] => return ("balance", .int 0)
  | line :: rest => do
    match initParams? line.text with
    | none => classField e rest
    | some text =>
      let (params, defaults) ← parameters e (← newScope []) text
      let inner := rest.take (blockLength line.indent rest)
      let name := (inner.findSome? fun l => selfField? l.text).map String.ofList
      return (name.getD "balance", firstDefault params defaults)

def newTemplate (t : Template) : Run Value :=
  modifyGet fun m =>
    (.template m.store.templates.size,
      { m with store := { m.store with templates := m.store.templates.push t } })

def defineClass (e : Engine) (scope : Nat) (line : Line) (rest : List Line) : Run (Nat × Flow) := do
  match classHead? line.text with
  | none => fail (.form "invalid class definition")
  | some h =>
    let b := body line (trim h.inline) rest
    let (field, default) ← classField e b.lines
    let parent := trim (h.parent.getD [])
    let name := String.ofList h.name
    let parent := if parent.isEmpty then none else some (String.ofList parent)
    let t ← newTemplate { name, parent, field, default }
    bindName scope name t
    return (b.used, .normal)

/-! ## Calls -/

/-- Binds named arguments; every name must be a parameter. -/
def bindKeywords (f : Function) (scope : Scope) : Keywords → Except Failure Scope
  | [] => .ok scope
  | (name, v) :: rest =>
    if f.params.contains name then bindKeywords f (scope.set name v) rest
    else
      .error (.type (f.name ++ "() got an unexpected keyword argument '" ++ name ++ "'"))

/-- The scope in which the body of a function runs. -/
def callScope (f : Function) (outer : Scope) (args : List Value) (keywords : Keywords) :
    Except Failure Scope := do
  if args.length > f.params.length then
    throw (.type (f.name ++ "() takes " ++ toString f.params.length ++
      " positional arguments but " ++ toString args.length ++ " were given"))
  let scope := (f.params.zip args).foldl (fun sc p => sc.set p.1 p.2) outer
  let scope ← bindKeywords f scope keywords
  let missing := (f.params.drop args.length).filter fun p => !Scope.has keywords p
  return missing.foldl (fun sc p => sc.set p ((f.defaults.get? p).getD .undefined)) scope

/-- The value of a function body that ended so. -/
def Flow.result : Flow → Value
  | .returned v => v
  | _ => .none

/-- Calls a function of the program. -/
def callFunction (e : Engine) (f : Function) (args : List Value) (keywords : Keywords) :
    Run Value := do
  let m ← get
  if (m.callDepth : Int) ≥ m.limits.maxCallDepth then
    fail (.recursion "maximum recursion depth exceeded")
  let scope ← newScope (← ofExcept (callScope f (m.store.scope f.scope) args keywords))
  modify fun m => { m with callDepth := m.callDepth + 1 }
  let flow ← finally' (e.block scope f.body)
    (modify fun m => { m with callDepth := m.callDepth - 1 })
  return Flow.result flow

def instantiate (ref : Nat) (t : Template) (args : List Value) : Run Value :=
  let object : Object := { template := ref, fields := [(t.field, args.head?.getD t.default)] }
  modifyGet fun m =>
    (.object m.store.objects.size,
      { m with store := { m.store with objects := m.store.objects.push object } })

/-- A function was given its own object by name. -/
def selfGivenTwice : Failure :=
  .type "Function.__call__() got multiple values for argument 'self'"

/-- The parameters of a class template that is called. -/
def templateSignature : Signature :=
  { name := "ClassTemplate.__call__", required := ["self"], variadic := true }

/-- Calls a value. -/
def apply (e : Engine) (v : Value) (args : List Value) (keywords : Keywords) : Run Value := do
  match v with
  | .builtin f => f.invoke e args keywords
  | .native f => f.invoke args keywords
  | .function ref =>
    if Scope.has keywords "self" then fail selfGivenTwice
    match (← store).functions[ref]? with
    | some f => callFunction e f args keywords
    | none => return .none
  | .template ref =>
    let _ ← ofExcept (templateSignature.bind (v :: args) keywords)
    match (← store).templates[ref]? with
    | some t => instantiate ref t args
    | none => return .none
  | v => fail (.type ("'" ++ v.baseType ++ "' object is not callable"))

end SnippetGrader.Statement
