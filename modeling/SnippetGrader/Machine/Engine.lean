import SnippetGrader.Machine.Basic

/-!
# What a computation may call on

Evaluating text, calling a value and running a block call on each other. Each is written against
an `Engine`, which offers all three one level of nesting further down.
-/

namespace SnippetGrader

/-- How a statement or a block ends when it does not fail. -/
inductive Flow where
  | normal
  | returned (v : Value)
  | broke
  | continued

/-- Whether the next statement is executed. -/
def Flow.isNormal : Flow → Bool
  | normal => true
  | _ => false

/-- Keyword arguments, in the order of the call. -/
abbrev Keywords := List (String × Value)

/-- Evaluation, calls and blocks one level further down. -/
structure Engine where
  /-- The value of an expression in a scope. -/
  eval : (scope : Nat) → List Char → Run Value
  /-- The result of calling a value. -/
  apply : Value → List Value → Keywords → Run Value
  /-- The effect of a block in a scope. -/
  block : (scope : Nat) → List Source.Line → Run Flow

end SnippetGrader
