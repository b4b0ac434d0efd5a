import SnippetGrader.Builtin.Signature
import SnippetGrader.Expression.Assign
import SnippetGrader.Source.Keyword

/-!
# List comprehensions and arguments of calls

A comprehension evaluates an element for each item of a sequence, in a scope of its own. The
arguments of a call are positional, named, or the items of a sequence; a comprehension may be the
only argument.
-/

namespace SnippetGrader.Expression

open Text Source Run

/-- The parts of `element for target in source if condition`. -/
structure Comprehension where
  element : List Char
  target : List Char
  source : List Char
  condition : Option (List Char)
deriving DecidableEq, Repr

def comprehension? (text : List Char) : Option Comprehension := do
  let f ← (findKeyword ["for"] text).head?
  if f.start == 0 then none
  let i ← (findKeyword ["in"] text).find? fun s => s.start > f.stop
  let element := text.take f.start
  let target := (text.take i.start).drop f.stop
  let rest := text.drop i.stop
  match (findKeyword ["if"] rest).head? with
  | some c => some ⟨element, target, rest.take c.start, some (rest.drop c.stop)⟩
  | none => some ⟨element, target, rest, none⟩

/-- Whether an item meets the condition of a comprehension. -/
def meets (e : Engine) (scope : Nat) : Option (List Char) → Run Bool
  | none => return true
  | some condition => do truthy (← e.eval scope condition)

def elements (e : Engine) (scope : Nat) (c : Comprehension) (target : Target)
    (done : Array Value) : List Value → Run (Array Value)
  | [] => return done
  | v :: rest => do
    assign e scope target v
    if ← meets e scope c.condition then
      elements e scope c target (done.push (← e.eval scope c.element)) rest
    else elements e scope c target done rest

/-- The list that a comprehension makes. -/
def comprehend (e : Engine) (scope : Nat) (c : Comprehension) : Run Value := do
  let xs ← iterate (← e.eval scope c.source)
  let inner ← newScope (← Run.scope scope)
  let results ← elements e inner c (Target.ofText c.target) #[] xs
  if results.size > maxSequence then fail .tooLarge
  newList results

/-- Evaluates the arguments of a call one after the other, after those in `args` and
`keywords`. -/
def argumentsFrom (e : Engine) (scope : Nat) (args : List Value) (keywords : Keywords) :
    List (List Char) → Run (List Value × Keywords)
  | [] => return (args, keywords)
  | part :: rest => do
    if part.isEmpty then argumentsFrom e scope args keywords rest
    else
      match keywordArgument? part with
      | some (name, text) =>
        let v ← e.eval scope text
        argumentsFrom e scope args (Scope.set keywords (String.ofList name) v) rest
      | none =>
        if part.head? == some '*' && part.tail.head? != some '*' then
          let more ← iterate (← e.eval scope part.tail)
          argumentsFrom e scope (args ++ more) keywords rest
        else
          let v ← e.eval scope part
          argumentsFrom e scope (args ++ [v]) keywords rest

def arguments (e : Engine) (scope : Nat) (text : List Char) : Run (List Value × Keywords) := do
  let parts := cutTopLevel ',' text
  let alone := match parts with
    | [part] => comprehension? part
    | _ => none
  match alone with
  | some c => return ([← comprehend e scope c], [])
  | none => argumentsFrom e scope [] [] parts

end SnippetGrader.Expression
