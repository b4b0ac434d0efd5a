import SnippetGrader.Source.Form
import SnippetGrader.Source.Keyword
import SnippetGrader.Source.Symbol
import SnippetGrader.Text.Digit
import SnippetGrader.Text.Pattern
import SnippetGrader.Value.Arithmetic

/-!
# Forms of expressions with operators

`form?` finds the operator that binds loosest in a text and the texts of its operands. Sums and
products are cut at their last operator, comparisons and powers at their first.
-/

namespace SnippetGrader.Expression

open Text Source

/-- An expression with an operator and the texts of its operands. -/
inductive Form where
  | lambda (params body : List Char)
  | conditional (condition yes no : List Char)
  | either (left right : List Char)
  | both (left right : List Char)
  | negation (operand : List Char)
  | comparison (c : Value.Comparison) (left right : List Char)
  | binary (op : Operator) (left right : List Char)
  | signed (negative : Bool) (operand : List Char)
deriving DecidableEq, Repr

def innerKeywords (phrase : List String) (text : List Char) : List Span :=
  (findKeyword phrase text).filter fun s => s.start > 0

def conditional? (text : List Char) : Option Form := do
  let i ← (innerKeywords ["if"] text).head?
  let e ← (findKeyword ["else"] text).find? fun s => s.start > i.stop
  some (.conditional ((text.take e.start).drop i.stop) (text.take i.start) (text.drop e.stop))

/-- Cuts a text at the first occurrence of a keyword after its start. -/
def cutAtKeyword? (word : String) (text : List Char) : Option (List Char × List Char) :=
  (innerKeywords [word] text).head?.map fun s => (text.take s.start, text.drop s.stop)

/-! ## Comparisons -/

def comparisonOf? : Symbol → Option Value.Comparison
  | .eq => some .eq
  | .ne => some .ne
  | .lt => some (.order .lt)
  | .le => some (.order .le)
  | .gt => some (.order .gt)
  | .ge => some (.order .ge)
  | _ => none

def comparisonWords : List (List String × Value.Comparison) :=
  [(["not", "in"], .notMember), (["is", "not"], .distinct), (["in"], .member), (["is"], .identical)]

def comparisons (text : List Char) : List (Span × Value.Comparison) :=
  ((tokens text).filterMap fun t => (comparisonOf? t.symbol).map fun c => (⟨t.pos, t.stop⟩, c)) ++
    comparisonWords.flatMap fun w => (innerKeywords w.1 text).map fun s => (s, w.2)

/-- Whether a span starts before another one, or at the same place and is longer. -/
def precedes (a b : Span) : Bool := a.start < b.start || (a.start == b.start && a.stop > b.stop)

def comparison? (text : List Char) : Option Form :=
  match comparisons text with
  | [] => none
  | first :: rest =>
    let (s, c) := rest.foldl (fun best x => if precedes x.1 best.1 then x else best) first
    some (.comparison c (text.take s.start) (text.drop s.stop))

/-! ## Arithmetic -/

/-- The words after which a plus or minus is a sign. -/
def signWords : List String :=
  ["and", "or", "not", "in", "is", "if", "else", "return", "lambda", "yield"]

/-- The word that ends a text: the longest run of word characters at its end, from the first one
on that can start a name. -/
def lastWord (text : List Char) : String :=
  let run := (text.reverse.takeWhile isWord).reverse
  String.ofList (run.dropWhile fun c => !isNameStart c)

/-- The part of a number before its exponent, with the mark of the exponent. -/
def exponentStart : Pattern :=
  .all [.one isDecimalDigit, .many fun c => c == '_' || isDecimalDigit c,
    .maybe (.all [.word ".", .many isDecimalDigit]), .one fun c => c == 'e' || c == 'E']

/-- Whether `text`, which follows the character `before`, ends in the start of a number with
exponent. -/
def endsInExponentAfter (before : Option Char) : List Char → Bool
  | [] => false
  | c :: rest =>
    (isDecimalDigit c && !(before.any fun b => isWord b || b == '.') &&
        (exponentStart.rests (c :: rest)).any List.isEmpty) ||
      endsInExponentAfter (some c) rest

/-- Whether a text ends in the start of a number with exponent, such as `2.5e`. -/
def endsInExponent (text : List Char) : Bool :=
  (text.getLast? == some 'e' || text.getLast? == some 'E') && endsInExponentAfter none text

/-- A character that can end an operand without being a letter or a digit. -/
def endsOperand (c : Char) : Bool := c == '_' || isCloser c || isQuote c

/-- Whether a plus or minus after `before` joins two operands and is no sign. -/
def joinsOperands (before : List Char) : Bool :=
  let before := trimEnd before
  match before.getLast? with
  | none => false
  | some c =>
    (isAlphanumeric c || endsOperand c) && !signWords.contains (lastWord before) &&
      !endsInExponent before

def operatorOf? : Symbol → Option Operator
  | .add => some .add
  | .sub => some .sub
  | .mul => some .mul
  | .div => some .div
  | .floorDiv => some .floorDiv
  | .mod => some .mod
  | .pow => some .pow
  | _ => none

/-- Cuts a text at a token into the operands of one of some operators, if it can be cut there. -/
def binaryAt? (ops : List Operator) (text : List Char) (t : Token) : Option Form := do
  let op ← operatorOf? t.symbol
  let sum := op == .add || op == .sub
  if ops.contains op && t.pos > 0 && !((text.drop t.stop).all isBlank) &&
      (!sum || joinsOperands (text.take t.pos)) then
    some (.binary op (text.take t.pos) (text.drop t.stop))
  else none

def firstBinary? (ops : List Operator) (text : List Char) : Option Form :=
  (tokens text).findSome? (binaryAt? ops text)

def lastBinary? (ops : List Operator) (text : List Char) : Option Form :=
  (tokens text).reverse.findSome? (binaryAt? ops text)

def signed? : List Char → Option Form
  | '-' :: rest => some (.signed true rest)
  | '+' :: rest => some (.signed false rest)
  | _ => none

def lambda? (text : List Char) : Option Form :=
  (headerColon? text).map fun i => .lambda ((text.take i).drop 6) (text.drop (i + 1))

/-- The operator of a text that binds loosest, with its operands. -/
def form? (text : List Char) : Option Form :=
  if startsWithWord text "lambda" then lambda? text
  else
    conditional? text
    <|> (cutAtKeyword? "or" text).map (fun p => Form.either p.1 p.2)
    <|> (cutAtKeyword? "and" text).map (fun p => Form.both p.1 p.2)
    <|> (if startsWithWord text "not" then some (.negation (text.drop 3)) else none)
    <|> comparison? text
    <|> lastBinary? [.add, .sub] text
    <|> lastBinary? [.mul, .div, .floorDiv, .mod] text
    <|> signed? text
    <|> firstBinary? [.pow] text

end SnippetGrader.Expression
