import SnippetGrader.Expression.Constant.Grammar

/-!
# Text between triple marks

The text between the fields of a string is decoded by setting it between triple marks and reading
the result as a constant. It is then mostly one string literal; but a text that holds triple marks
itself can be several, or a tuple of constants. A text that is no constant stands for itself.
-/

namespace SnippetGrader.Constant

open Literal

/-- What a text stands for: a text, or a tuple. -/
inductive Reading where
  | text (cs : List Char)
  | tuple
deriving DecidableEq, Repr

/-- What a text stands for if it is set between triple marks. A text without backslashes stands for
itself. -/
def Reading.ofText (text : List Char) : Except Failure Reading :=
  if !text.contains '\\' || text.any isForbidden then .ok (.text text)
  else
    let source := unifyLineEnds ("\"\"\"".toList ++ text ++ "\"\"\"".toList)
    match (Tree.parse? source).map Tree.evaluate with
    | some (.ok (.text cs)) => .ok (.text cs)
    | some (.ok _) => .ok .tuple
    | some (.error (.failed f)) => .error f
    | _ => .ok (.text text)

end SnippetGrader.Constant
