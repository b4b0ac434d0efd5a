import SnippetGrader.Source.Statement
import SnippetGrader.Statement.Function
import SnippetGrader.Statement.Simple

/-!
# Execution

`executeLine` executes the statement at the start of a list of lines and says how many of the
following lines belong to it; `executeBlock` executes one statement after the other until one ends
the block.
-/

namespace SnippetGrader.Statement

open Text Source Run Expression

/-! ## Conditions and loops -/

/-- Executes the first of some branches whose condition holds; a branch without condition always
does. -/
def firstBranch (e : Engine) (scope : Nat) : List (Option (List Char) × List Line) → Run Flow
  | [] => return .normal
  | (none, lines) :: _ => e.block scope lines
  | (some condition, lines) :: rest => do
    if ← truthy (← e.eval scope condition) then e.block scope lines
    else firstBranch e scope rest

def executeIf (e : Engine) (scope : Nat) (line : Line) (rest : List Line) : Run (Nat × Flow) := do
  let c ← ofExcept (compound "if" ["elif", "else"] ["else"] line rest)
  let more := c.clauses.map fun cl =>
    (if cl.word == "elif" then some cl.head else none, cl.lines)
  return (c.used, ← firstBranch e scope ((some c.head, c.lines) :: more))

/-- How a loop ends. -/
inductive LoopEnd where
  /-- There was nothing left to do. -/
  | finished
  | broke
  | returned (v : Value)
  /-- The limit on the number of rounds was reached. -/
  | limited

/-- Executes the body of a loop for each item. -/
def forEach (e : Engine) (scope : Nat) (target : Target) (lines : List Line) :
    List Value → Run LoopEnd
  | [] => return .finished
  | v :: rest => do
    assign e scope target v
    match ← e.block scope lines with
    | .broke => return .broke
    | .returned v => return .returned v
    | _ => forEach e scope target lines rest

/-- Executes the body of a loop while a condition holds, at most `fuel` times. -/
def whileTrue (e : Engine) (scope : Nat) (condition : List Char) (lines : List Line) :
    (fuel : Nat) → Run LoopEnd
  | 0 => return .limited
  | fuel + 1 => do
    if ← truthy (← e.eval scope condition) then
      match ← e.block scope lines with
      | .broke => return .broke
      | .returned v => return .returned v
      | _ => whileTrue e scope condition lines fuel
    else return .finished

def warn (text : String) : Run Unit :=
  modify fun m =>
    if m.warnings.contains text then m else { m with warnings := m.warnings ++ [text] }

/-- Goes on after a loop: what follows `else` is executed only if the loop ran to its end. -/
def afterLoop (e : Engine) (scope : Nat) (otherwise : Option (List Line)) : LoopEnd → Run Flow
  | .finished =>
    match otherwise with
    | some lines => e.block scope lines
    | none => return .normal
  | .broke => return .normal
  | .returned v => return .returned v
  | .limited => do
    warn ("While iterations limited to " ++ toString (← get).limits.maxLoop)
    return .normal

/-- The items that a loop goes through; a value without items has none. -/
def loopItems (v : Value) : Run (List Value) := return (← sequence? v).getD []

def executeFor (e : Engine) (scope : Nat) (line : Line) (rest : List Line) : Run (Nat × Flow) := do
  let h ← ofExcept (header "for" line)
  match (findKeyword ["in"] h.head).head? with
  | none => fail (.form "invalid for statement")
  | some s =>
    let c ← ofExcept (compound "for" ["else"] ["else"] line rest)
    let xs ← loopItems (← e.eval scope (c.head.drop s.stop))
    let stop ← forEach e scope (Target.ofText (c.head.take s.start)) c.lines xs
    return (c.used, ← afterLoop e scope (c.clause? "else") stop)

def executeWhile (e : Engine) (scope : Nat) (line : Line) (rest : List Line) : Run (Nat × Flow) := do
  let c ← ofExcept (compound "while" ["else"] ["else"] line rest)
  let stop ← whileTrue e scope c.head c.lines (← get).limits.maxLoop.toNat
  return (c.used, ← afterLoop e scope (c.clause? "else") stop)

/-- Executes `with`: its expressions are evaluated and bound, and nothing is closed at the end. -/
def executeWith (e : Engine) (scope : Nat) (line : Line) (rest : List Line) : Run (Nat × Flow) := do
  let c ← ofExcept (compound "with" [] [] line rest)
  (cutTopLevel ',' c.head).forM fun part => do
    let (expression, alias_) := splitAlias part
    let v ← e.eval scope expression
    if !(trim alias_).isEmpty then assign e scope (Target.ofText alias_) v
  return (c.used, ← e.block scope c.lines)

/-! ## Failures and their handlers -/

/-- The kind of failure of which another kind is a special case. -/
def parentKind? : String → Option String
  | "ZeroDivisionError" => some "ArithmeticError"
  | "OverflowError" => some "ArithmeticError"
  | "IndexError" => some "LookupError"
  | "KeyError" => some "LookupError"
  | _ => none

def isFatal (f : Failure) : Bool := f.kind == "StepLimitError" || f.kind == "TimeoutError"

/-- Whether a handler with a given header catches failures of a kind. -/
def catches (head : List Char) (kind : String) : Bool :=
  let types := trimBy (fun c => c == '(' || c == ')') (trim (splitAlias head).1)
  types.isEmpty || (cutAt ',' types).any fun t =>
    let name := String.ofList (trim t)
    name == "Exception" || name == "BaseException" || name == kind || parentKind? kind == some name

/-- Executes the handler that catches a failure; if none does, the first one. -/
def handle (e : Engine) (scope : Nat) (handlers : List Clause) (f : Failure) : Run Flow := do
  match (handlers.find? fun h => catches h.head f.kind) <|> handlers.head? with
  | none => fail f
  | some h =>
    let name := trim (splitAlias h.head).2
    if !name.isEmpty then
      bindName scope (String.ofList name) (← newException f.kind f.message)
    modify fun m => { m with handling := f :: m.handling }
    finally' (e.block scope h.lines) (modify fun m => { m with handling := m.handling.tail })

/-- Executes the body of `try` with its handlers, and what follows `else` if the body neither
failed nor ended early. -/
def guarded (e : Engine) (scope : Nat) (c : Compound) : Run Flow := do
  let handlers := c.clauses.filter fun cl => cl.word == "except"
  match ← attempt (e.block scope c.lines) with
  | .error f => if handlers.isEmpty || isFatal f then fail f else handle e scope handlers f
  | .ok flow =>
    match c.clause? "else" with
    | some lines => if flow.isNormal then e.block scope lines else return flow
    | none => return flow

/-- Executes `try`. What follows `finally` is executed in any case, and wins if it ends early. -/
def executeTry (e : Engine) (scope : Nat) (line : Line) (rest : List Line) : Run (Nat × Flow) := do
  let c ← ofExcept (compound "try" ["except", "else", "finally"] [] line rest)
  let outcome ← attempt (guarded e scope c)
  let last ← match c.clause? "finally" with
    | some lines => e.block scope lines
    | none => pure .normal
  if last.isNormal then return (c.used, ← ofExcept outcome) else return (c.used, last)

/-! ## Lines and blocks -/

/-- Executes a statement by its kind and gives the number of following lines that belong to it. -/
def executeKind (e : Engine) (scope : Nat) (line : Line) (rest : List Line) :
    StatementKind → Run (Nat × Flow)
  | .definition => defineFunction e scope line rest
  | .classDefinition => defineClass e scope line rest
  | .importing => do executeImport scope line.text; return (0, .normal)
  | .guarded => executeTry e scope line rest
  | .returning => return (0, ← executeReturn e scope line.text)
  | .raising => return (0, ← executeRaise e scope line.text)
  | .pass | .scoping => return (0, .normal)
  | .breaking => return (0, .broke)
  | .continuing => return (0, .continued)
  | .within => executeWith e scope line rest
  | .assertion => do executeAssert e scope line.text; return (0, .normal)
  | .assignment => do
    match assignment? line.text with
    | some a => executeAssignment e scope a
    | none => pure ()
    return (0, .normal)
  | .printing => do executePrint e scope line.text; return (0, .normal)
  | .forLoop => executeFor e scope line rest
  | .whileLoop => executeWhile e scope line rest
  | .conditional => executeIf e scope line rest
  | .clause => return (blockLength line.indent rest, .normal)
  | .expression => do let _ ← e.eval scope line.text; return (0, .normal)

/-- Executes the statement on `line`, which `rest` follows. A failure gets the line on which it
happened. -/
def executeLine (e : Engine) (scope : Nat) (line : Line) (rest : List Line) : Run (Nat × Flow) := do
  modify fun m => { m with lineNumber := line.number }
  onFailure (do tick; executeKind e scope line rest (classify line.text)) fun f =>
    fail (f.locate line.number (String.ofList line.text))

/-- Executes lines one after the other, of which the next `skip` are passed over, until a statement
ends the block. -/
def executeFrom (e : Engine) (scope : Nat) (skip : Nat) : List Line → Run Flow
  | [] => return .normal
  | line :: rest => do
    if skip > 0 then executeFrom e scope (skip - 1) rest
    else
      let (used, flow) ← executeLine e scope line rest
      if flow.isNormal then executeFrom e scope used rest else return flow

/-- Executes a block. -/
def executeBlock (e : Engine) (scope : Nat) (lines : List Line) : Run Flow :=
  executeFrom e scope 0 lines

end SnippetGrader.Statement
