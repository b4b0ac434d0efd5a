import SnippetGrader.Source.Line
import SnippetGrader.Source.Name

/-!
# Kinds of statements

The kind of a logical line is decided by its first word, except that a line which is no compound
statement and holds an assignment symbol is an assignment.
-/

namespace SnippetGrader.Source

/-- What a logical line does. -/
inductive StatementKind where
  | definition | classDefinition | importing | guarded | returning | raising | pass | breaking
  | continuing | scoping | within | assertion | assignment | printing | forLoop | whileLoop
  | conditional | clause | expression
deriving DecidableEq, Repr

namespace StatementKind

/-- The name of a kind. -/
def name : StatementKind → String
  | definition => "definition" | classDefinition => "class" | importing => "import"
  | guarded => "try" | returning => "return" | raising => "raise" | pass => "pass"
  | breaking => "break" | continuing => "continue" | scoping => "global" | within => "with"
  | assertion => "assert" | assignment => "assignment" | printing => "print" | forLoop => "for"
  | whileLoop => "while" | conditional => "if" | clause => "clause" | expression => "expression"

/-- The kind that a first word alone decides. -/
def ofKeyword? : String → Option StatementKind
  | "def" => some definition
  | "class" => some classDefinition
  | "import" => some importing
  | "from" => some importing
  | "try" => some guarded
  | "return" => some returning
  | "raise" => some raising
  | "pass" => some pass
  | "break" => some breaking
  | "continue" => some continuing
  | "global" => some scoping
  | "nonlocal" => some scoping
  | "with" => some within
  | "assert" => some assertion
  | _ => none

/-- The kind of a compound statement or of one of its later clauses. -/
def ofCompound? : String → Option StatementKind
  | "for" => some forLoop
  | "while" => some whileLoop
  | "if" => some conditional
  | "elif" => some clause
  | "else" => some clause
  | "except" => some clause
  | "finally" => some clause
  | _ => none

end StatementKind

/-- Whether a text is one call of `print` and nothing else. -/
def isPrintCall (text : List Char) : Bool :=
  (text.drop 5).head? == some '(' && matchingClose text 5 == some (text.length - 1)

/-- The kind of a logical line. -/
def classify (text : List Char) : StatementKind :=
  let word := firstName text
  match StatementKind.ofKeyword? word with
  | some kind => kind
  | none =>
    match StatementKind.ofCompound? word with
    | some kind => kind
    | none =>
      if (assignment? text).isSome then .assignment
      else if word == "print" && isPrintCall text then .printing
      else .expression

end SnippetGrader.Source
