/-!
# Classes of characters given by intervals

A class of characters beyond ASCII is a table of closed intervals of code points.
-/

namespace SnippetGrader.Text

/-- Whether the code point of `c` lies in one of the closed intervals of `table`. -/
def inIntervals (table : Array (Nat × Nat)) (c : Char) : Bool :=
  table.any fun r => r.1 ≤ c.toNat && c.toNat ≤ r.2

end SnippetGrader.Text
