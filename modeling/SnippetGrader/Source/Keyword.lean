import SnippetGrader.Source.Name
import SnippetGrader.Source.Scan

/-!
# Keyword phrases in source text

`findKeyword` gives the spans of a phrase that start in code at depth zero and stand alone.
-/

namespace SnippetGrader.Source

open Text

/-- A part of a text: the positions from `start` up to, not including, `stop`. -/
structure Span where
  start : Nat
  stop : Nat
deriving DecidableEq, Repr

/-- The span of a phrase at position `i`, where the text reads `text` and `before` is the
character in front. -/
def phraseAt? (phrase : List String) (i : Nat) (before : Option Char) (text : List Char) :
    Option Span :=
  if before.any fun c => isWord c || c == '.' then none
  else
    match dropPhrase? phrase text with
    | none => none
    | some rest =>
      if rest.head?.any isWord then none else some ⟨i, i + (text.length - rest.length)⟩

/-- The spans of a phrase from position `i` on, for a reader in state `r`. -/
def findKeywordFrom (phrase : List String) (r : Reader) (i : Nat) (before : Option Char) :
    List Char → List Span
  | [] => []
  | c :: rest =>
    match r.step c rest with
    | (r', .code 0) =>
      match phraseAt? phrase i before (c :: rest) with
      | some span => span :: findKeywordFrom phrase r' (i + 1) (some c) rest
      | none => findKeywordFrom phrase r' (i + 1) (some c) rest
    | (r', _) => findKeywordFrom phrase r' (i + 1) (some c) rest

/-- The spans of a phrase that start in code at depth zero, from left to right. -/
def findKeyword (phrase : List String) (text : List Char) : List Span :=
  findKeywordFrom phrase {} 0 none text

def Span.slice (s : Span) (text : List Char) : List Char := (text.drop s.start).take (s.stop - s.start)

end SnippetGrader.Source
