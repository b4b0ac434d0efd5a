import SnippetGrader.Builtin.Convert
import SnippetGrader.Source.Scan
import SnippetGrader.Text.CharacterName.Lookup

/-!
# Literals of numbers and strings

`numberValue?` reads a text as a number. A string literal starts with at most two letters and a
quotation mark, or three of them; `decode?` gives the characters that it stands for. A literal
with an unknown combination of letters, a missing mark at its end or a malformed escape has no
such reading; then `between` gives what stands between its marks as it is written.
-/

namespace SnippetGrader.Literal

open Text Source

/-! ## Numbers -/

def isDigitOrBar (c : Char) : Bool := c == '_' || isDecimalDigit c

/-- What follows the digits of an unsigned number, with a point or without. -/
def afterDigits? : List Char → Option (List Char)
  | [] => none
  | c :: rest =>
    if isDecimalDigit c then
      match rest.dropWhile isDigitOrBar with
      | '.' :: more => some (more.dropWhile isDigitOrBar)
      | other => some other
    else if c == '.' && rest.head?.any isDecimalDigit then some (rest.dropWhile isDigitOrBar)
    else none

def dropSign : List Char → List Char
  | c :: rest => if c == '+' || c == '-' then rest else c :: rest
  | [] => []

/-- Whether a text is a number: digits with an optional sign, point and exponent. -/
def isNumber (text : List Char) : Bool :=
  match afterDigits? (dropSign text) with
  | none => false
  | some [] => true
  | some (c :: rest) =>
    let digits := dropSign rest
    (c == 'e' || c == 'E') && !digits.isEmpty && digits.all isDecimalDigit

/-- The number that a text is, if it is one. A point or an exponent makes it a floating point
number. -/
def numberValue? (text : List Char) : Option (Except Failure Value) :=
  if !isNumber text then none
  else
    let plain := String.ofList (text.filter (· != '_'))
    if text.any fun c => c == '.' || c == 'e' || c == 'E' then
      some (Value.float <$> Convert.toFloat (.str plain))
    else some (Value.int <$> Convert.toInt (.str plain))

/-! ## Strings -/

/-- The start of a string literal. -/
structure Opening where
  /-- The letters before the quotation mark. -/
  letters : List Char
  quote : Char
  triple : Bool
deriving DecidableEq, Repr

/-- A letter that may stand before a quotation mark. -/
def isOpeningLetter (c : Char) : Bool := "rRbBuUfF".toList.contains c

def opening? (text : List Char) : Option Opening :=
  let letters := text.takeWhile isOpeningLetter
  match text.drop letters.length with
  | q :: rest => if letters.length ≤ 2 && isQuote q then some ⟨letters, q, tripled q rest⟩ else none
  | [] => none

namespace Opening

/-- Number of quotation marks at each end. -/
def marks (o : Opening) : Nat := if o.triple then 3 else 1

/-- The letters in lower case. -/
def flags (o : Opening) : List Char := o.letters.map Char.toLower

def isTemplate (o : Opening) : Bool := o.flags.contains 'f'

/-- Whether a backslash has no meaning in the literal. -/
def isRaw (o : Opening) : Bool := o.flags.contains 'r'

/-- Whether the literal is a list of bytes. -/
def isBytes (o : Opening) : Bool := o.flags.contains 'b'

def isKnown (o : Opening) : Bool :=
  [[], ['r'], ['u'], ['b'], ['b', 'r'], ['r', 'b']].contains o.flags

/-- Position just past the string literal that starts a text. -/
def stop (o : Opening) (text : List Char) : Nat :=
  o.letters.length + literalLength (text.drop o.letters.length)

/-- What stands between the marks of a literal, as it is written. -/
def between (o : Opening) (text : List Char) : List Char :=
  (text.take (text.length - o.marks)).drop (o.letters.length + o.marks)

end Opening

def unifyLineEnds : List Char → List Char
  | [] => []
  | '\r' :: '\n' :: rest => '\n' :: unifyLineEnds rest
  | '\r' :: rest => '\n' :: unifyLineEnds rest
  | c :: rest => c :: unifyLineEnds rest

/-- The text before the first unescaped closing marks and the text after them. A line may end only
inside triple marks. -/
def splitContent? (quote : Char) (triple : Bool) : List Char → Option (List Char × List Char)
  | [] => none
  | '\\' :: c :: rest =>
    (splitContent? quote triple rest).map fun p => ('\\' :: c :: p.1, p.2)
  | c :: rest =>
    if c == quote && (!triple || tripled c rest) then
      some ([], if triple then rest.drop 2 else rest)
    else if c == '\n' && !triple then none
    else (splitContent? quote triple rest).map fun p => (c :: p.1, p.2)

/-- The character with a number, if there is one. Half of a surrogate pair is no character. -/
def charOfNat? (n : Nat) : Option Char := if n.isValidChar then some (Char.ofNat n) else none

/-- Reads the `count` hexadecimal digits of an escape; the letter before them belongs to it. -/
def hexEscape? (count : Nat) (digits : List Char) : Option (List Char × Nat) :=
  let run := (digits.take count).takeWhile (Number.isDigitIn 16)
  if run.length < count then none
  else (charOfNat? (Number.valueOf 16 0 run)).map fun c => ([c], count + 1)

def octalEscape (digits : List Char) : List Char × Nat :=
  let run := (digits.take 3).takeWhile (Number.isDigitIn 8)
  ([Char.ofNat (Number.valueOf 8 0 run)], run.length)

/-- Reads an escape by the name of a character, which stands in braces. -/
def nameEscape? : List Char → Option (List Char × Nat)
  | '{' :: rest =>
    let name := rest.takeWhile (· != '}')
    if name.length < rest.length then
      (CharacterName.characterNamed? name).map fun c => ([c], name.length + 3)
    else none
  | _ => none

/-- The characters that a backslash and the text after it stand for, and the number of characters
after the backslash that belong to them; `none` if the escape is malformed. An unknown escape is a
backslash. Escapes for wide characters count only if `wide`. -/
def escape? (wide : Bool) : List Char → Option (List Char × Nat)
  | [] => none
  | c :: rest =>
    match c with
    | '\n' => some ([], 1)
    | '\\' => some (['\\'], 1)
    | '\'' => some (['\''], 1)
    | '"' => some (['"'], 1)
    | 'a' => some (['\x07'], 1)
    | 'b' => some (['\x08'], 1)
    | 'f' => some (['\x0c'], 1)
    | 'n' => some (['\n'], 1)
    | 'r' => some (['\r'], 1)
    | 't' => some (['\t'], 1)
    | 'v' => some (['\x0b'], 1)
    | 'x' => hexEscape? 2 rest
    | 'u' => if wide then hexEscape? 4 rest else some (['\\'], 0)
    | 'U' => if wide then hexEscape? 8 rest else some (['\\'], 0)
    | 'N' => if wide then nameEscape? rest else some (['\\'], 0)
    | c => if Number.isDigitIn 8 c then some (octalEscape (c :: rest)) else some (['\\'], 0)

/-- The characters that a text with escapes stands for; the next `skip` characters belong to the
last escape. -/
def unescapeFrom (wide : Bool) (skip : Nat) : List Char → Option (List Char)
  | [] => some []
  | c :: rest =>
    if skip > 0 then unescapeFrom wide (skip - 1) rest
    else if c == '\\' then
      match escape? wide rest with
      | some (cs, used) => (unescapeFrom wide used rest).map (cs ++ ·)
      | none => none
    else (unescapeFrom wide 0 rest).map (c :: ·)

/-- The characters that a text with escapes stands for. -/
def unescape? (wide : Bool) (text : List Char) : Option (List Char) := unescapeFrom wide 0 text

/-- The characters that the text between the marks of a literal stands for. -/
def decodeContent? (o : Opening) (body : List Char) : Option (List Char) :=
  if o.isBytes && body.any (fun c => c.toNat ≥ 128) then none
  else if o.isRaw then some body
  else unescape? (!o.isBytes) body

/-- Reads the string literal at the start of a text: the characters that it stands for and the
text after it. -/
def decodeFirst? (o : Opening) (text : List Char) : Option (List Char × List Char) := do
  if !o.isKnown then none
  let (body, rest) ← splitContent? o.quote o.triple (text.drop (o.letters.length + o.marks))
  let cs ← decodeContent? o body
  some (cs, rest)

/-- A character that no source text holds. -/
def isForbidden (c : Char) : Bool := c.toNat == 0

/-- The characters that a string literal stands for, which makes up the whole text. -/
def decode? (o : Opening) (text : List Char) : Option (List Char) :=
  if text.any isForbidden then none
  else
    match decodeFirst? o (unifyLineEnds text) with
    | some (cs, []) => some cs
    | _ => none

/-- The value of a string literal without filled-in values: a text, or a list of bytes. -/
def stringValue (o : Opening) (text : List Char) : Run Value :=
  match decode? o text with
  | none => return .str (String.ofList (o.between text))
  | some cs =>
    if o.isBytes then
      Run.newList (cs.map fun c => Value.int ((c.toNat % 256 : Nat) : Int)).toArray
    else return .str (String.ofList cs)

end SnippetGrader.Literal
