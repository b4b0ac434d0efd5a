import SnippetGrader.Text.Blank

/-!
# Comparing output with an expected answer

The comparison is lenient about blanks at the ends. An answer in square brackets is compared
character by character, where both kinds of quotation marks count as one. An answer of several
lines is compared line by line, without blank lines and without blanks at the ends of lines. Any
other answer is compared with every run of blanks read as one space.
-/

namespace SnippetGrader.Grading

open Text

/-- Writes every quotation mark as a double one. -/
def unifyQuotes (text : List Char) : List Char := text.map fun c => if c == '\'' then '"' else c

/-- The trimmed lines of a text that are not blank. -/
def solidLines (text : List Char) : List (List Char) :=
  ((lines text).map trim).filter fun line => !line.isEmpty

/-- Whether a text is delimited by square brackets. -/
def isBracketed (text : List Char) : Bool :=
  text.head? == some '[' && text.getLast? == some ']'

/-- Whether an output counts as the expected answer. -/
def outputMatches (actual expected : List Char) : Bool :=
  let actual := trim actual
  let expected := trim expected
  if isBracketed expected then unifyQuotes actual == unifyQuotes expected
  else if expected.contains '\n' then solidLines actual == solidLines expected
  else squeeze actual == squeeze expected

end SnippetGrader.Grading
