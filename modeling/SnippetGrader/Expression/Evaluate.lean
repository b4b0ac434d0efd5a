import SnippetGrader.Expression.Arguments
import SnippetGrader.Expression.Call
import SnippetGrader.Expression.Chain
import SnippetGrader.Expression.Constant.Reading
import SnippetGrader.Expression.Form
import SnippetGrader.Expression.Template
import SnippetGrader.Machine.Console
import SnippetGrader.Source.Line
import SnippetGrader.Value.Format

/-!
# Evaluation

An expression is evaluated from its text. The forms are tried in a fixed order: literals, chains,
names, several expressions with commas, operators. The first form that fits the whole text gives
the value; a text that fits none is a value itself, namely that text.
-/

namespace SnippetGrader.Expression

open Text Source Run

/-! ## Literals -/

/-- The values of some expressions, without the blank ones. -/
def evaluateEach (e : Engine) (scope : Nat) (parts : List (List Char)) : Run (List Value) :=
  (parts.filter fun p => !p.isEmpty).mapM (e.eval scope)

/-- A failure of formatting, which is always a wrong value. -/
def asFormatFailure (f : Failure) : Failure :=
  if f.kind == "TypeError" then { f with kind := "ValueError" } else f

def fieldText (e : Engine) (scope : Nat) (field : Field) : Run String := do
  let v ← e.eval scope field.expression
  let v ← match field.conversion with
    | some 'r' | some 'a' => Value.str <$> repr v
    | _ => pure v
  onFailure (do ofStop (v.format (← store) field.spec)) fun f => fail (asFormatFailure f)

/-- A part of a string with filled-in values, read as a text if it is one. -/
def readPart (e : Engine) (scope : Nat) (raw : Bool) : Piece → Run Constant.Reading
  | .text cs => if raw then return .text cs else ofExcept (Constant.Reading.ofText cs)
  | .field cs => (fun t => .text t.toList) <$> fieldText e scope (Field.ofText cs)
  | .unclosed => fail (.form "f-string: expecting '\x7d'")

/-- The texts of the parts of a string, from position `i` on; each of them has to be a text. -/
def textsFrom (i : Nat) : List Constant.Reading → Except Failure (List (List Char))
  | [] => .ok []
  | .text cs :: rest => do return cs :: (← textsFrom (i + 1) rest)
  | .tuple :: _ => .error (.notText i "tuple")

/-- The value of a list literal with the text `inner` between its brackets. -/
def listValue (e : Engine) (scope : Nat) (inner : List Char) : Run Value := do
  match comprehension? inner with
  | some c => comprehend e scope c
  | none => newList (← evaluateEach e scope (cutTopLevel ',' inner)).toArray

def stringValue (e : Engine) (scope : Nat) (o : Literal.Opening) (text : List Char) : Run Value := do
  if o.isTemplate then
    let parts ← (pieces (o.between text)).mapM (readPart e scope o.isRaw)
    return .str (String.ofList (← ofExcept (textsFrom 0 parts)).flatten)
  else Literal.stringValue o text

def literal? (e : Engine) (scope : Nat) (text : List Char) : Run (Option Value) := do
  match String.ofList text with
  | "None" => return some .none
  | "True" => return some (.bool true)
  | "False" => return some (.bool false)
  | _ =>
    match Literal.numberValue? text with
    | some number => some <$> ofExcept number
    | none =>
      match (Literal.opening? text).filter fun o => o.stop text == text.length with
      | some o => some <$> stringValue e scope o text
      | none =>
        if text.head? == some '[' && isEnclosed text then
          some <$> listValue e scope (trim text.tail.dropLast)
        else return none

/-! ## Chains -/

def print (args : List Value) (keywords : Keywords) : Run Unit := do
  let part (name default : String) : Run String :=
    match keywords.lookup name with
    | none | some .none => return default
    | some v => display v
  let sep ← part "sep" " "
  let stop ← part "end" "\n"
  let texts ← args.mapM display
  write (sep.intercalate texts ++ stop)

/-- Calls a function by a name that is not bound in the scope; `none` if there is no such
function. -/
def callNamed? (e : Engine) (scope : Nat) (name : String) (text : List Char) :
    Run (Option Value) := do
  let attached := (← get).attached
  if attached && name == "print" then
    let (args, keywords) ← arguments e scope text
    print args keywords
    return some .none
  else if attached && name == "input" then
    let _ ← arguments e scope text
    some <$> readInput
  else
    match Builtin.ofName? name with
    | none => return none
    | some f =>
      let (args, keywords) ← arguments e scope text
      some <$> guardCall (f.invoke e args keywords)

/-- The item or slice that a subscript takes from a value. -/
def subscript (e : Engine) (scope : Nat) (v : Value) (text : List Char) : Run Value := do
  if !isSequence v then
    fail (.type ("'" ++ (← typeName v) ++ "' object is not subscriptable"))
  match cutTopLevel ':' text with
  | start :: stop :: rest =>
    let bound (p : List Char) : Run Value := if p.isEmpty then return .none else e.eval scope p
    let start ← bound start
    let stop ← bound stop
    let step ← bound (rest.head?.getD [])
    slice v start stop step
  | _ => item v (← e.eval scope text)

def follow (e : Engine) (scope : Nat) (v : Value) : List Trailer → Run Value
  | [] => return v
  | .attribute name :: .call text :: rest => do
    let (args, keywords) ← arguments e scope text
    follow e scope (← callMethod e v name args keywords) rest
  | .attribute name :: rest => do follow e scope (← attributeOf v name) rest
  | .call text :: rest => do
    let (args, keywords) ← arguments e scope text
    follow e scope (← callValue e v args keywords) rest
  | .index text :: rest => do follow e scope (← subscript e scope v text) rest

def namedChain? (e : Engine) (scope : Nat) (name : String) (trailers : List Trailer) :
    Run (Option Value) := do
  match ← lookup? scope name, trailers with
  | some v, trailers => some <$> follow e scope v trailers
  | none, .call text :: rest =>
    match ← callNamed? e scope name text with
    | some v => some <$> follow e scope v rest
    | none => return none
  | none, trailers =>
    match Builtin.ofName? name with
    | some f => some <$> follow e scope (.builtin f) trailers
    | none => return none

def chainValue? (e : Engine) (scope : Nat) (text : List Char) : Run (Option Value) := do
  match chain? text with
  | none => return none
  | some ⟨.group inner, []⟩ => some <$> e.eval scope inner.tail.dropLast
  | some ⟨_, []⟩ => return none
  | some ⟨.name name, trailers⟩ => namedChain? e scope (String.ofList name) trailers
  | some ⟨.literal head, trailers⟩ | some ⟨.group head, trailers⟩ =>
    some <$> follow e scope (← e.eval scope head) trailers

/-! ## Names, lists without brackets and operators -/

def nameValue? (scope : Nat) (text : List Char) : Run (Option Value) := do
  if isName text then
    let name := String.ofList text
    match ← lookup? scope name with
    | some v => return some v
    | none => return (Builtin.ofName? name).map .builtin
  else return none

/-- The value of several expressions with commas between them. -/
def tupleValue? (e : Engine) (scope : Nat) (text : List Char) : Run (Option Value) := do
  match cutTopLevel ',' text with
  | parts@(_ :: _ :: _) => return some (← newList (← evaluateEach e scope parts).toArray)
  | _ => return none

/-- The parameters of a function and the values of those that have a default, after `params` and
`defaults`. -/
def parametersFrom (e : Engine) (scope : Nat) (params : List String) (defaults : Scope) :
    List (List Char) → Run (List String × Scope)
  | [] => return (params, defaults)
  | part :: rest => do
    if part.isEmpty || part == ['*'] || part == ['/'] then
      parametersFrom e scope params defaults rest
    else
      let (front, default) := match cutAround? part ['='] with
        | some (front, default) => (front, some default)
        | none => (part, none)
      let name := String.ofList ((trim (front.takeWhile (· != ':'))).dropWhile (· == '*'))
      match default with
      | some text =>
        let v ← e.eval scope text
        parametersFrom e scope (params ++ [name]) (defaults.set name v) rest
      | none => parametersFrom e scope (params ++ [name]) defaults rest

/-- The parameters of a function and the values of those that have a default. -/
def parameters (e : Engine) (scope : Nat) (text : List Char) : Run (List String × Scope) :=
  parametersFrom e scope [] [] (cutTopLevel ',' text)

def newFunction (f : Function) : Run Value :=
  modifyGet fun m =>
    (.function m.store.functions.size,
      { m with store := { m.store with functions := m.store.functions.push f } })

/-- Makes a function without a name, whose body is one expression. -/
def makeLambda (e : Engine) (scope : Nat) (params body : List Char) : Run Value := do
  let (params, defaults) ← parameters e scope params
  let line : Line := ⟨"return ".toList ++ trim body, 1, (← get).lineNumber⟩
  newFunction { name := "<lambda>", params, defaults, body := [line], scope }

def formValue (e : Engine) (scope : Nat) (text : List Char) : Form → Run Value
  | .lambda params body => do
    if (← get).attached then makeLambda e scope params body
    else return .str (String.ofList text)
  | .conditional condition yes no => do
    if ← truthy (← e.eval scope condition) then e.eval scope yes else e.eval scope no
  | .either left right => do
    let v ← e.eval scope left
    if ← truthy v then return v else e.eval scope right
  | .both left right => do
    let v ← e.eval scope left
    if ← truthy v then e.eval scope right else return v
  | .negation operand => do return .bool (!(← truthy (← e.eval scope operand)))
  | .comparison c left right => do
    let v ← e.eval scope left
    let w ← e.eval scope right
    return .bool (← compareBy c v w)
  | .binary op left right => do
    let v ← e.eval scope left
    let w ← e.eval scope right
    operate op v w
  | .signed negative operand => do
    let v ← e.eval scope operand
    let sign := if negative then "unary -" else "unary +"
    let n ← ofExcept (SnippetGrader.operand (← store) sign v)
    match negative, v with
    | false, .nan _ => return v
    | _, _ => fresh (if negative then n.negate else n).toValue

/-- The value of an expression in a scope. -/
def evaluate (e : Engine) (scope : Nat) (expression : List Char) : Run Value := do
  let text := trim expression
  if text.isEmpty then return .none
  match ← literal? e scope text with
  | some v => return v
  | none =>
    match ← chainValue? e scope text with
    | some v => return v
    | none =>
      match ← nameValue? scope text with
      | some v => return v
      | none =>
        match ← tupleValue? e scope text with
        | some v => return v
        | none =>
          match form? text with
          | some form => formValue e scope text form
          | none => return .str (String.ofList text)

end SnippetGrader.Expression
