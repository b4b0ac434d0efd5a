import SnippetGrader.Statement.Execute

/-!
# The engine

Evaluation, calls and blocks call on each other through an engine one level further down.
`Engine.level n` allows `n` levels of nesting; below them everything is exhausted.
-/

namespace SnippetGrader

/-- The engine below which there is no other. -/
def Engine.exhausted : Engine where
  eval _ _ := throw (.exhausted .evaluation)
  apply _ _ _ := throw (.exhausted .evaluation)
  block _ _ := throw (.exhausted .evaluation)

/-- The engine with `n` levels of nesting. -/
def Engine.level : Nat → Engine
  | 0 => Engine.exhausted
  | n + 1 =>
    let e := Engine.level n
    { eval := Expression.evaluate e
      apply := Statement.apply e
      block := Statement.executeBlock e }

/-- The engine that programs run on: it allows as many levels as the host has room for. -/
def Host.engine (h : Host) : Engine := Engine.level h.levels

/-- The failure that a stopped computation is reported as; exhaustion is reported on the line of
the statement that started last. -/
def Stop.failure (line : Nat) : Stop → Failure
  | failed f => f
  | exhausted _ =>
    { kind := "RecursionError", message := "maximum recursion depth exceeded", line := some line }

end SnippetGrader
