import SnippetGrader.Source.Symbol

/-!
# Strings with filled-in values

The body of such a string is text with fields in braces. A doubled brace is a brace of the text. A
field is an expression, with an optional conversion and an optional format.
-/

namespace SnippetGrader.Expression

open Text Source

/-- A part of a string with filled-in values. -/
inductive Piece where
  | text (cs : List Char)
  | field (cs : List Char)
  /-- A field that is not closed, after which nothing is read. -/
  | unclosed
deriving DecidableEq, Repr

/-- The parts of a body. `open_` is the open text, last character first, and the next `skip`
characters belong to the last part. -/
def piecesFrom (open_ : List Char) (skip : Nat) : List Char → List Piece
  | [] => [.text open_.reverse]
  | c :: rest =>
    if skip > 0 then piecesFrom open_ (skip - 1) rest
    else if (c == '{' || c == '}') && rest.head? == some c then piecesFrom (c :: open_) 1 rest
    else if c == '{' then
      match matchingClose (c :: rest) 0 with
      | none => [.unclosed]
      | some k => .text open_.reverse :: .field (rest.take (k - 1)) :: piecesFrom [] k rest
    else piecesFrom (c :: open_) 0 rest

def pieces (body : List Char) : List Piece := piecesFrom [] 0 body

/-- A field: its expression, the letter of its conversion and its format. -/
structure Field where
  expression : List Char
  conversion : Option Char
  spec : List Char
deriving DecidableEq, Repr

def splitConversion (text : List Char) : List Char × Option Char :=
  match (trim text).reverse with
  | c :: '!' :: rest =>
    if c == 'r' || c == 's' || c == 'a' then (rest.reverse, some c) else (text, none)
  | _ => (text, none)

def Field.ofText (text : List Char) : Field :=
  let (front, spec) := match headerColon? text with
    | some i => (text.take i, text.drop (i + 1))
    | none => (text, [])
  let (expression, conversion) := splitConversion front
  ⟨expression, conversion, spec⟩

end SnippetGrader.Expression
