import SnippetGrader.Text.Search

/-!
# Search patterns

A pattern describes pieces of text. `Pattern.rests` gives what can be left of a text after a
piece at its start that fits the pattern; `Pattern.occurs` asks for such a piece anywhere, at
positions that an anchor on the character in front admits.
-/

namespace SnippetGrader.Text

/-- A description of pieces of text. -/
inductive Pattern where
  /-- These characters and no others. -/
  | exactly (piece : List Char)
  /-- One character of a class. -/
  | one (class_ : Char → Bool)
  /-- Any number of characters of a class, also none. -/
  | many (class_ : Char → Bool)
  /-- A piece of either kind. -/
  | either (left right : Pattern)
  /-- A piece of the first kind, then one of the second. -/
  | andThen (first second : Pattern)

namespace Pattern

/-- At least one character of a class. -/
def some (class_ : Char → Bool) : Pattern := andThen (one class_) (many class_)

/-- A piece that may be missing. -/
def maybe (p : Pattern) : Pattern := either p (exactly [])

/-- Pieces one after the other. -/
def all : List Pattern → Pattern
  | [] => exactly []
  | p :: rest => andThen p (all rest)

def word (text : String) : Pattern := exactly text.toList

/-- A text and all that is left of it after dropping characters of a class, one at a time. -/
def dropMany (class_ : Char → Bool) : List Char → List (List Char)
  | [] => [[]]
  | c :: rest => (c :: rest) :: if class_ c then dropMany class_ rest else []

/-- All that can be left of a text after a piece at its start that fits the pattern. -/
def rests : Pattern → List Char → List (List Char)
  | exactly piece, text => (dropFront? piece text).toList
  | one _, [] => []
  | one class_, c :: rest => if class_ c then [rest] else []
  | many class_, text => dropMany class_ text
  | either left right, text => left.rests text ++ right.rests text
  | andThen first second, text => (first.rests text).flatMap second.rests

/-- Whether a fitting piece starts in `text`, which follows the character `before`, at a position
whose character in front satisfies `anchor`. -/
def occursAfter (p : Pattern) (anchor : Option Char → Bool) (before : Option Char) :
    List Char → Bool
  | [] => anchor before && !(p.rests []).isEmpty
  | c :: rest =>
    (anchor before && !(p.rests (c :: rest)).isEmpty) || occursAfter p anchor (Option.some c) rest

/-- Whether a fitting piece starts at an admitted position of the text. -/
def occurs (p : Pattern) (anchor : Option Char → Bool) (text : List Char) : Bool :=
  occursAfter p anchor none text

/-- Every position is admitted. -/
def anywhere (_ : Option Char) : Bool := true

/-- The start of the text and of each line is admitted. -/
def atLineStart (before : Option Char) : Bool := before == none || before == Option.some '\n'

end Pattern

end SnippetGrader.Text
