import SnippetGrader.Expression.Literal
import SnippetGrader.Source.Name

/-!
# Chains

A chain is a name, a literal or a group in parentheses, followed by attributes, calls and
subscripts without blanks between them.
-/

namespace SnippetGrader.Expression

open Text Source

/-- What a chain starts with. -/
inductive Head where
  | name (text : List Char)
  | literal (text : List Char)
  /-- A group in parentheses, which are part of the text. -/
  | group (text : List Char)
deriving DecidableEq, Repr

/-- A further link of a chain. -/
inductive Trailer where
  | attribute (name : String)
  | call (arguments : List Char)
  | index (text : List Char)
deriving DecidableEq, Repr

/-- A head and the links that follow it. -/
structure Chain where
  head : Head
  trailers : List Trailer
deriving DecidableEq, Repr

/-- Reads a text that consists of links alone; the next `skip` characters belong to the last
link. -/
def trailersFrom? (skip : Nat) : List Char → Option (List Trailer)
  | [] => some []
  | c :: rest =>
    if skip > 0 then trailersFrom? (skip - 1) rest
    else if c == '.' then
      let name := (splitName rest).1
      if name.isEmpty then none
      else (trailersFrom? name.length rest).map (.attribute (String.ofList name) :: ·)
    else if c == '(' || c == '[' then
      match matchingClose (c :: rest) 0 with
      | none => none
      | some k =>
        let inner := rest.take (k - 1)
        (trailersFrom? k rest).map ((if c == '(' then .call inner else .index inner) :: ·)
    else none

/-- The head of a chain and what follows it. -/
def splitHead? (text : List Char) : Option (Head × List Char) :=
  match Literal.opening? text with
  | some o =>
    let stop := o.stop text
    some (.literal (text.take stop), text.drop stop)
  | none =>
    let (name, rest) := splitName text
    if !name.isEmpty then some (.name name, rest)
    else if text.head? == some '(' || text.head? == some '[' then
      (matchingClose text 0).map fun k =>
        let inner := text.take (k + 1)
        (if text.head? == some '(' then .group inner else .literal inner, text.drop (k + 1))
    else none

def chain? (text : List Char) : Option Chain := do
  let (head, rest) ← splitHead? text
  let trailers ← trailersFrom? 0 rest
  some ⟨head, trailers⟩

end SnippetGrader.Expression
