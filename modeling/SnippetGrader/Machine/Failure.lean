/-!
# Failures

A failure is an error of the program that is run: it has a kind, by which `except` clauses catch
it, and a message. The statement during which it happens adds its line. Apart from failures, a
computation stops when the text it evaluates is nested too deeply.
-/

namespace SnippetGrader

/-- An error of the program that is run. -/
structure Failure where
  kind : String
  message : String
  line : Option Nat := none
  text : Option String := none
deriving DecidableEq, Repr

namespace Failure

def describe (f : Failure) : String :=
  let head := if f.message.isEmpty then f.kind else f.kind ++ ": " ++ f.message
  match f.line with
  | some n => head ++ " (line " ++ toString n ++ ")"
  | none => head

/-- Adds the line on which a failure happened, unless it has one. -/
def locate (f : Failure) (line : Nat) (text : String) : Failure :=
  if f.line.isSome then f else { f with line := some line, text := some text }

/-- An operand or argument has the wrong type. -/
def type (message : String) : Failure := { kind := "TypeError", message }

/-- An item of a type other than text stands at a position among texts that are joined. -/
def notText (position : Nat) (itemType : String) : Failure :=
  type ("sequence item " ++ toString position ++ ": expected str instance, " ++ itemType ++ " found")

/-- An operand or argument has the right type and a wrong value. -/
def value (message : String) : Failure := { kind := "ValueError", message }

/-- A position lies outside a sequence. -/
def index (message : String) : Failure := { kind := "IndexError", message }

def missing (message : String) : Failure := { kind := "AttributeError", message }

def overflow (message : String) : Failure := { kind := "OverflowError", message }

def zeroDivision (message : String) : Failure := { kind := "ZeroDivisionError", message }

/-- A text has the wrong form. -/
def form (message : String) : Failure := { kind := "SyntaxError", message }

/-- A text would hold half of a surrogate pair, which texts here do not. -/
def surrogate : Failure := { kind := "UnicodeError", message := "surrogates not allowed" }

/-- A sequence is longer than a program may build. -/
def tooLarge : Failure :=
  { kind := "MemoryError", message := "sequence too large (max 100000 items)" }

/-- Calls are nested too deeply. -/
def recursion (message : String) : Failure := { kind := "RecursionError", message }

end Failure

/-- What can be nested too deeply. -/
inductive Nesting where
  /-- Texts that are evaluated, and calls. -/
  | evaluation
  /-- Lists whose text is written. -/
  | writing
deriving DecidableEq, Repr

/-- Why a computation stops without a result. -/
inductive Stop where
  /-- The program failed. -/
  | failed (f : Failure)
  /-- Something is nested too deeply. -/
  | exhausted (by_ : Nesting)
deriving DecidableEq, Repr

/-- The failure that a call reports when something inside it is nested too deeply. -/
def Nesting.failure : Nesting → Failure
  | evaluation =>
    .recursion "maximum recursion depth exceeded while calling a Python object"
  | writing =>
    .recursion "maximum recursion depth exceeded while getting the repr of an object"

end SnippetGrader
