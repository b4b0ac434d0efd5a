import SnippetGrader.Text.Blank
import SnippetGrader.Text.Case
import SnippetGrader.Text.Digit
import SnippetGrader.Text.Letter
import SnippetGrader.Text.Pattern

/-!
# Rules on the text of a submission

A rule is a sentence in the words of an exercise. It activates every check of the catalogue one
of whose keyword groups it contains, letter case aside. An active check looks at the raw text of
the submission and reports its message if the text breaks it. Each check reports at most once,
and reports come in the order of the catalogue.
-/

namespace SnippetGrader.Grading

open Text

/-- One check of the catalogue. -/
structure Check where
  name : String
  /-- Keyword groups; a rule must contain every keyword of one group. -/
  triggers : List (List String)
  /-- What is reported when the text breaks the check. -/
  message : String
  /-- Whether a text breaks the check. -/
  brokenBy : List Char → Bool

def Check.triggeredBy (check : Check) (rule : List Char) : Bool :=
  let rule := toLower rule
  check.triggers.any fun group => group.all fun keyword => contains rule keyword.toList

section

open Pattern

/-- Any character but a line feed. -/
def inLine (c : Char) : Bool := c != '\n'

def printsNumber : Pattern := all
  [word "print(", many isBlank, maybe (word "-"), some isDecimalDigit,
   maybe (all [word ".", some isDecimalDigit]), many isBlank, word ")"]

/-- A call that prints one string literal without quotation marks inside. -/
def printsString : Pattern :=
  let mark := fun c => c == '"' || c == '\''
  all [word "print(", many isBlank, one mark, many fun c => !mark c, one mark, many isBlank,
    word ")"]

/-- A line that starts with a keyword and then a name. -/
def namingLine (keyword : String) : Pattern :=
  all [many isBlank, word keyword, some isBlank, one isNameStart]

def endlessLoop : Pattern := all
  [many isBlank, word "while", some isBlank, either (word "True") (word "1"), many isBlank,
   word ":"]

def forHead : Pattern := all
  [many isBlank, word "for", some isBlank, some inLine, some isBlank, word "in", some isBlank,
   some inLine, word ":"]

def libraryCall : Pattern := all
  [either (word "math") (either (word "random") (either (word "os") (either (word "sys")
    (word "collections")))), word "."]

def atWordStart (before : Option Char) : Bool := !before.any isWord

end

def holds (piece : String) (source : List Char) : Bool := contains source piece.toList

/-- All checks, in the order in which they report. -/
def catalogue : List Check := [
  { name := "hardcoding"
    triggers := [["variables"], ["hardcoding"]]
    message := "Rule violation: No hardcoding values allowed! Use variables instead."
    brokenBy := fun source =>
      printsNumber.occurs Pattern.anywhere source || printsString.occurs Pattern.anywhere source },
  { name := "docstring"
    triggers := [["docstring"]]
    message := "Rule violation: Functions must have docstrings! Add \"\"\"documentation\"\"\" to your functions."
    brokenBy := fun source => holds "def " source && !holds "\"\"\"" source },
  { name := "global"
    triggers := [["global"]]
    message := "Rule violation: No global variables allowed! Keep variables local to functions."
    brokenBy := (namingLine "global").occurs Pattern.atLineStart },
  { name := "terminate"
    triggers := [["terminate"]]
    message := "Rule violation: Loops must terminate! Avoid while True or missing loop conditions."
    brokenBy := endlessLoop.occurs Pattern.atLineStart },
  { name := "builtin-sort"
    triggers := [["sort", "built-in"]]
    message := "Rule violation: No built-in sort functions allowed! Implement your own sorting algorithm."
    brokenBy := fun source => holds ".sort(" source || holds "sorted(" source },
  { name := "override"
    triggers := [["override"]]
    message := "Rule violation: Each class must override at least one method! Override __str__, __repr__, or another method."
    brokenBy := fun source =>
      (namingLine "class").occurs Pattern.atLineStart source && !holds "def __" source &&
        !holds "def toString" source },
  { name := "functional"
    triggers := [["for-loops", "functional"]]
    message := "Rule violation: No for-loops allowed! Use functional programming with map(), filter(), and lambda."
    brokenBy := forHead.occurs Pattern.atLineStart },
  { name := "thread-safe"
    triggers := [["thread-safe"]]
    message := "Rule violation: All operations must be thread-safe! Use proper locking mechanisms."
    brokenBy := fun source => count source "Lock()".toList > 1 },
  { name := "from-scratch"
    triggers := [["library functions", "scratch"]]
    message := "Rule violation: Implement algorithms from scratch! No library functions allowed."
    brokenBy := libraryCall.occurs atWordStart },
  { name := "custom-encryption"
    triggers := [["encrypted"], ["custom algorithms"]]
    message := "Rule violation: All data must be encrypted/decrypted using custom algorithms!"
    brokenBy := fun source =>
      holds "password" source || holds "secret" source || holds "key" source }]

/-- The messages of the active checks that a submission breaks. Empty rules activate nothing. -/
def violations (source : List Char) (rules : List (List Char)) : List String :=
  let rules := rules.filter fun rule => !rule.isEmpty
  (catalogue.filter fun check => rules.any check.triggeredBy && check.brokenBy source).map
    (·.message)

/-- What the checks say about a submission. -/
structure RuleReport where
  valid : Bool
  violations : List String
  deriving Repr, DecidableEq

/-- Checks a submission against a list of rules. A source or a list that is null is empty, and a
null rule activates nothing. -/
def validate (source : Option String) (rules : Option (List (Option String))) : RuleReport :=
  let broken := violations (source.getD "").toList (((rules.getD []).filterMap id).map String.toList)
  { valid := broken.isEmpty, violations := broken }

end SnippetGrader.Grading
