import SnippetGrader.Source.Form
import SnippetGrader.Source.Symbol

/-!
# Targets of assignments

What stands on the left of an assignment: a name, several targets for the items of a sequence, an
item of a list or a field of an object.
-/

namespace SnippetGrader.Expression

open Text Source

/-- The target of an assignment. -/
inductive Target where
  | name (n : String)
  /-- One target for each item of a sequence. -/
  | items (targets : List Target)
  /-- An item of the list that an expression gives. -/
  | item (object index : List Char)
  /-- A field of the object that an expression gives. -/
  | field (object : List Char) (name : String)
  /-- A text that is no target. -/
  | other (text : List Char)

def itemTarget? (text : List Char) : Option (List Char × List Char) :=
  if text.getLast? != some ']' then none
  else
    let opens := ((scan text).filter fun m => m.char == '[' && m.depth == 0).map (·.index)
    let last := text.length - 1
    (opens.reverse.find? fun i => i > 0 && matchingClose text i == some last).map fun i =>
      (text.take i, (text.take last).drop (i + 1))

def fieldTarget? (text : List Char) : Option (List Char × String) := do
  let dot ← ((tokens text).filter fun t => t.symbol == .dot).getLast?
  let name := text.drop (dot.pos + 1)
  if isName name then some (text.take dot.pos, String.ofList name) else none

namespace Target

/-- Reads a target that is nested at most `fuel` deep. -/
def ofTextWithin : (fuel : Nat) → List Char → Target
  | 0, text => .other (trim text)
  | fuel + 1, text =>
    let text := trim text
    if isName text then .name (String.ofList text)
    else
      match annotatedName? text with
      | some n => .name (String.ofList n)
      | none =>
        let parts := cutTopLevel ',' text
        let bracketed := text.head? == some '(' || text.head? == some '['
        let enclosed := parts.length == 1 && bracketed && isEnclosed text
        let inner := text.tail.dropLast
        let parts := if enclosed then cutTopLevel ',' inner else parts
        if enclosed && parts.length == 1 then ofTextWithin fuel inner
        else if parts.length > 1 then
          .items ((parts.filter fun p => !p.isEmpty).map (ofTextWithin fuel))
        else
          match itemTarget? text with
          | some (object, index) => .item object index
          | none =>
            match fieldTarget? text with
            | some (object, fieldName) => .field object fieldName
            | none => .other text

def ofText (text : List Char) : Target := ofTextWithin (text.length + 1) text

end Target

end SnippetGrader.Expression
