import SnippetGrader.Machine.Failure
import SnippetGrader.Source.Line
import SnippetGrader.Source.Name

/-!
# Headers, bodies and clauses

A compound statement is a header with a colon and a body, which stands on the same line or in the
block below. Further clauses may follow at the same indentation, each with a header and a body.
-/

namespace SnippetGrader.Statement

open Text Source

/-- The header of a compound statement: what stands between its keyword and the colon, and what
stands after the colon. -/
structure Header where
  head : List Char
  inline : List Char
deriving DecidableEq, Repr

/-- Reads the header of a line that starts with a keyword. -/
def header (keyword : String) (line : Line) : Except Failure Header :=
  match headerColon? line.text with
  | none => .error (.form ("expected ':' after '" ++ keyword ++ "'"))
  | some i =>
    .ok ⟨trim ((line.text.take i).drop keyword.length), trim (line.text.drop (i + 1))⟩

/-- The statements of a body and the number of following lines that belong to it. -/
structure Body where
  lines : List Line
  used : Nat
deriving DecidableEq, Repr

/-- The body of a header on `line`, which `rest` follows. -/
def body (line : Line) (inline : List Char) (rest : List Line) : Body :=
  if inline.isEmpty then
    let n := blockLength line.indent rest
    ⟨rest.take n, n⟩
  else
    let parts := (cutTopLevel ';' inline).filter fun p => !p.isEmpty
    ⟨parts.map (⟨·, line.indent + 1, line.number⟩), 0⟩

/-- A further clause of a compound statement. -/
structure Clause where
  word : String
  head : List Char
  lines : List Line
deriving DecidableEq, Repr

/-- The clauses at an indentation that start with one of `words`, up to the first that starts with
one of `last`, and the number of lines that they take. The next `skip` lines are passed over. -/
def clausesFrom (indent : Nat) (words last : List String) (skip : Nat) :
    List Line → Except Failure (List Clause × Nat)
  | [] => .ok ([], 0)
  | line :: rest =>
    if skip > 0 then clausesFrom indent words last (skip - 1) rest
    else
      let word := firstName line.text
      if line.indent == indent && words.contains word then do
        let h ← header word line
        let b := body line h.inline rest
        let clause : Clause := ⟨word, h.head, b.lines⟩
        if last.contains word then return ([clause], 1 + b.used)
        let (more, used) ← clausesFrom indent words last b.used rest
        return (clause :: more, 1 + b.used + used)
      else .ok ([], 0)

/-- A compound statement: the text of its header, its body, its further clauses and the number of
following lines that belong to it. -/
structure Compound where
  head : List Char
  lines : List Line
  clauses : List Clause
  used : Nat
deriving DecidableEq, Repr

/-- Reads a compound statement whose further clauses start with one of `words`, the last one with
one of `last`. -/
def compound (keyword : String) (words last : List String) (line : Line) (rest : List Line) :
    Except Failure Compound := do
  let h ← header keyword line
  let b := body line h.inline rest
  let (clauses, used) ← clausesFrom line.indent words last b.used rest
  return ⟨h.head, b.lines, clauses, b.used + used⟩

/-- The body of the last clause that starts with a word. -/
def Compound.clause? (c : Compound) (word : String) : Option (List Line) :=
  ((c.clauses.filter fun cl => cl.word == word).getLast?).map (·.lines)

end SnippetGrader.Statement
