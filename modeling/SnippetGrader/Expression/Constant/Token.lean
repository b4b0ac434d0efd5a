import SnippetGrader.Expression.Literal
import SnippetGrader.Text.Identifier

/-!
# Tokens of a constant expression

A constant expression is read from tokens: words, numerals, string literals, brackets and marks.
A line end is a blank inside brackets; outside of them only blank lines and comments may follow
it. Brackets have to match and may be nested at most `maxOpen` deep.
-/

namespace SnippetGrader.Constant

open Text Source Literal

/-- A number as it is written, without a sign. -/
inductive Numeral where
  | whole (n : Nat)
  /-- A number with a point or an exponent. -/
  | decimal
  | imaginary
deriving DecidableEq, Repr

/-- A token. -/
inductive Token where
  | word (cs : List Char)
  | numeral (n : Numeral)
  /-- A string literal with the text between its marks. -/
  | string (o : Opening) (body : List Char)
  | opens (bracket : Char)
  | closes (bracket : Char)
  | mark (symbol : String)
deriving DecidableEq, Repr

/-! ## Words -/

/-- A character with which a word goes on, before its characters are checked. -/
def isWordPart (c : Char) : Bool := c == '_' || c.isAlphanum || c.toNat ≥ 128

/-- Words that are no names. -/
def keywords : List String :=
  ["False", "None", "True", "and", "as", "assert", "async", "await", "break", "class", "continue",
    "def", "del", "elif", "else", "except", "finally", "for", "from", "global", "if", "import",
    "in", "is", "lambda", "nonlocal", "not", "or", "pass", "raise", "return", "try", "while",
    "with", "yield"]

/-- Whether a word is a name. -/
def isName (word : List Char) : Bool := !keywords.contains (String.ofList word)

def word? (text : List Char) : Option (Token × List Char) :=
  let run := text.takeWhile isWordPart
  if run.any (·.toNat ≥ 128) && !isIdentifier run then none
  else some (.word run, text.drop run.length)

/-! ## Numerals -/

/-- The digits at the start of a text, without the single underscores before them, and what
follows them. -/
def digitRun (isDigit : Char → Bool) : List Char → List Char × List Char
  | '_' :: c :: rest =>
    if isDigit c then
      let (digits, more) := digitRun isDigit rest
      (c :: digits, more)
    else ([], '_' :: c :: rest)
  | c :: rest =>
    if isDigit c then
      let (digits, more) := digitRun isDigit rest
      (c :: digits, more)
    else ([], c :: rest)
  | [] => ([], [])

def isPlainDigit (c : Char) : Bool := Number.isDigitIn 10 c

def numeralFollowers : List String := ["and", "else", "for", "if", "in", "is", "not", "or"]

def endsNumeral (rest : List Char) : Bool :=
  !rest.head?.any isWordPart || numeralFollowers.any fun w => w.toList.isPrefixOf rest

/-- Drops an exponent, and tells whether there was one; `none` if it has a sign and no digits. -/
def dropExponent? : List Char → Option (Bool × List Char)
  | [] => some (false, [])
  | c :: rest =>
    if c == 'e' || c == 'E' then
      let digits := dropSign rest
      if digits.head?.any isPlainDigit then some (true, (digitRun isPlainDigit digits).2)
      else if digits.length < rest.length then none
      else some (false, c :: rest)
    else some (false, c :: rest)

/-- Drops a point and the digits after it, and tells whether there was one. -/
def dropFraction : List Char → Bool × List Char
  | '.' :: rest =>
    (true, if rest.head?.any isPlainDigit then (digitRun isPlainDigit rest).2 else rest)
  | rest => (false, rest)

/-- The whole number that decimal digits name. It has no leading zeros, unless it is zero, and not
too many digits. -/
def wholeOfDigits? (digits : List Char) : Option Numeral :=
  if digits.all (· == '0') then some (.whole 0)
  else if digits.head? == some '0' || digits.length > Number.maxDigits then none
  else some (.whole (Number.valueOf 10 0 digits))

def markedNumeral? (base : Nat) (text : List Char) : Option (Numeral × List Char) :=
  let (digits, rest) := digitRun (Number.isDigitIn base) text
  if digits.isEmpty || !endsNumeral rest then none
  else some (.whole (Number.valueOf base 0 digits), rest)

def plainNumeral? (text : List Char) : Option (Numeral × List Char) := do
  let (digits, rest) :=
    if text.head?.any isPlainDigit then digitRun isPlainDigit text else ([], text)
  let (hasPoint, rest) := dropFraction rest
  let (hasExponent, rest) ← dropExponent? rest
  match rest with
  | 'j' :: rest | 'J' :: rest => if endsNumeral rest then some (.imaginary, rest) else none
  | _ =>
    if !endsNumeral rest then none
    else if hasPoint || hasExponent then some (.decimal, rest)
    else (wholeOfDigits? digits).map fun n => (n, rest)

def numeral? (text : List Char) : Option (Numeral × List Char) :=
  match Number.markedBase? text with
  | some base => markedNumeral? base (text.drop 2)
  | none => plainNumeral? text

/-! ## String literals and marks -/

/-- Whether the letters before a quotation mark can stand together. -/
def isStringOpening (o : Opening) : Bool :=
  o.isKnown || [['f'], ['f', 'r'], ['r', 'f']].contains o.flags

/-- Reads the string literal at the start of a text, which begins with `o`. -/
def string? (o : Opening) (text : List Char) : Option (Token × List Char) :=
  if !isStringOpening o then none
  else
    (splitContent? o.quote o.triple (text.drop (o.letters.length + o.marks))).map fun p =>
      (.string o p.1, p.2)

/-- The marks between operands, the longer ones first. -/
def marks : List String :=
  ["...", "**", "//", "<<", ">>", "<=", ">=", "==", "!=", ":=", ",", ":", ".", "+", "-", "*", "/",
    "|", "&", "<", ">", "=", "%", "~", "^", "@"]

def mark? (text : List Char) : Option (Token × List Char) :=
  (marks.find? fun m => m.toList.isPrefixOf text).map fun m => (.mark m, text.drop m.length)

def token? (text : List Char) : Option (Token × List Char) :=
  match opening? text with
  | some o => string? o text
  | none =>
    match text with
    | [] => none
    | c :: rest =>
      if isPlainDigit c || (c == '.' && rest.head?.any isPlainDigit) then
        (numeral? text).map fun p => (.numeral p.1, p.2)
      else if isWordPart c then word? text
      else if isOpener c then some (.opens c, rest)
      else if isCloser c then some (.closes c, rest)
      else mark? text

/-! ## Blanks and comments -/

def isInlineBlank (c : Char) : Bool := c == ' ' || c == '\t' || c == '\x0c'

/-- Drops the blanks at the start of a line; a line that ends in a backslash goes on in the next
one. -/
def dropInline : List Char → List Char
  | '\\' :: '\n' :: rest => dropInline rest
  | c :: rest => if isInlineBlank c then dropInline rest else c :: rest
  | [] => []

/-- What is left of a text after its blanks, line ends and comments; `inComment` says that a comment
is open. -/
def dropIdle (inComment : Bool) : List Char → List Char
  | [] => []
  | '\n' :: rest | '\\' :: '\n' :: rest => dropIdle false rest
  | c :: rest =>
    if inComment || c == '#' then dropIdle true rest
    else if isInlineBlank c then dropIdle false rest
    else c :: rest

/-- Whether all lines of a text are blank or comments. -/
def holdsNoCode (text : List Char) : Bool := (dropIdle false text).isEmpty

/-! ## Token lists -/

/-- How many brackets can be open at a time. -/
def maxOpen : Nat := 200

/-- The brackets that are open after a token, the innermost first. -/
def openAfter? (open_ : List Char) : Token → Option (List Char)
  | .opens c => if open_.length < maxOpen then some (c :: open_) else none
  | .closes c =>
    match open_ with
    | o :: outer => if closerOf? o == some c then some outer else none
    | [] => none
  | _ => some open_

/-- The tokens of a text inside the brackets `open_`, at most `fuel` of them. -/
def tokensFrom? : (fuel : Nat) → (open_ : List Char) → List Char → Option (List Token)
  | 0, _, _ => none
  | fuel + 1, open_, text =>
    let text := if open_.isEmpty then dropInline text else dropIdle false text
    if open_.isEmpty && holdsNoCode text then some []
    else do
      let (token, rest) ← token? text
      let open_ ← openAfter? open_ token
      let more ← tokensFrom? fuel open_ rest
      some (token :: more)

def tokens? (text : List Char) : Option (List Token) := tokensFrom? (text.length + 1) [] text

end SnippetGrader.Constant
