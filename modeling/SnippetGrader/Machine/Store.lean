import SnippetGrader.Machine.Host
import SnippetGrader.Value.Basic

/-!
# The store

The store holds all that values refer to: lists, functions, class templates, objects and scopes.
A reference is the position at which a thing was put; nothing is ever removed. What a program can
come upon of its host, such as the time that the clock shows, is found by way of the store.
-/

namespace SnippetGrader

/-- Everything that values refer to, and the surroundings. -/
structure Store where
  lists : Array (Array Value) := #[]
  functions : Array Function := #[]
  templates : Array Template := #[]
  objects : Array Object := #[]
  scopes : Array Scope := #[]
  /-- Number of locks made so far. -/
  locks : Nat := 0
  /-- The lists that are being sorted, the innermost sort first, and whether items were put into
  them meanwhile. -/
  sorting : List (Nat × Bool) := []
  /-- Number of exceptions made so far. -/
  exceptions : Nat := 0
  /-- Number of results so far that are no numbers. -/
  nans : Nat := 0
  /-- How often the program has looked at the clock. -/
  looks : Nat := 0
  host : Surroundings := {}

/-- Notes that items were put into a list, for the innermost sort of it. -/
def touch (ref : Nat) : List (Nat × Bool) → List (Nat × Bool)
  | [] => []
  | (r, touched) :: rest => if r == ref then (r, true) :: rest else (r, touched) :: touch ref rest

namespace Store

/-- The items of a list. -/
def items (s : Store) (ref : Nat) : Array Value := s.lists[ref]?.getD #[]

/-- The names of a scope. -/
def scope (s : Store) (ref : Nat) : Scope := s.scopes[ref]?.getD []

def className (s : Store) (ref : Nat) : String :=
  ((s.objects[ref]?.bind fun o => s.templates[o.template]?).map (·.name)).getD ""

end Store

end SnippetGrader
