import SnippetGrader.Expression.Constant.Token

/-!
# Well-formed string literals with fields

A string literal with filled-in values is no constant, but it may stand in an expression whose
other parts are read, and then its fields have to be well formed. A field is an expression, with
an optional equals sign, conversion and format; a format may hold fields once more. Inside the
expression of a field neither a backslash nor a comment may stand.
-/

namespace SnippetGrader.Constant

open Text Source Literal

def isBrace (c : Char) : Bool := c == '{' || c == '}'

/-- The text at the start of a body up to a brace, whether that brace is doubled, and what follows:
the text after a doubled brace, else the text from the brace on. Only outside of a format can a
brace be doubled. `inName` says that the name of a character is open, in which braces do not count.
A backslash before a brace stands for itself. -/
def splitText (raw inFormat inName : Bool) : List Char → List Char × Bool × List Char
  | [] => ([], false, [])
  | c :: rest =>
    let keep (cs : List Char) (p : List Char × Bool × List Char) := (cs ++ p.1, p.2)
    if inName then keep [c] (splitText raw inFormat (c != '}') rest)
    else if isBrace c then
      if !inFormat && rest.head? == some c then ([c], true, rest.tail) else ([], false, c :: rest)
    else if c == '\\' && !raw then
      match rest with
      | 'N' :: '{' :: more => keep [c, 'N', '{'] (splitText raw inFormat true more)
      | d :: more =>
        if !isBrace d then keep [c, d] (splitText raw inFormat false more)
        else if !inFormat && more.head? == some d then ([c, d], true, more.tail)
        else ([c, c], false, d :: more)
      | [] => ([c], false, [])
    else keep [c] (splitText raw inFormat false rest)

/-- The expression of a field and the text from the character on that ends it. `quote` is the mark
of the open string literal, with whether it is tripled, and `open_` are the open brackets. -/
def splitExpression? : (quote : Option (Char × Bool)) → (open_ : List Char) → List Char →
    Option (List Char × List Char)
  | _, _, [] => none
  | some (q, triple), open_, c :: rest =>
    let keep (cs : List Char) := Option.map fun p : List Char × List Char => (cs ++ p.1, p.2)
    if c == '\\' then none
    else if c != q then keep [c] (splitExpression? (some (q, triple)) open_ rest)
    else if !triple then keep [c] (splitExpression? none open_ rest)
    else
      match rest with
      | a :: b :: more =>
        if a == q && b == q then keep [c, a, b] (splitExpression? none open_ more)
        else keep [c] (splitExpression? (some (q, triple)) open_ (a :: b :: more))
      | more => keep [c] (splitExpression? (some (q, triple)) open_ more)
  | none, open_, c :: rest =>
    let keep (cs : List Char) := Option.map fun p : List Char × List Char => (cs ++ p.1, p.2)
    if c == '\\' || c == '#' then none
    else if isQuote c then
      match rest with
      | a :: b :: more =>
        if a == c && b == c then keep [c, a, b] (splitExpression? (some (c, true)) open_ more)
        else keep [c] (splitExpression? (some (c, false)) open_ (a :: b :: more))
      | more => keep [c] (splitExpression? (some (c, false)) open_ more)
    else if isOpener c then
      if open_.length < maxOpen then keep [c] (splitExpression? none (c :: open_) rest) else none
    else if open_.isEmpty && "!:\x7d=<>".toList.contains c then
      match rest with
      | '=' :: more =>
        if "!=<>".toList.contains c then keep [c, '='] (splitExpression? none open_ more)
        else some ([], c :: '=' :: more)
      | more =>
        if c == '<' || c == '>' then keep [c] (splitExpression? none open_ more)
        else some ([], c :: more)
    else if isCloser c then
      match open_ with
      | o :: outer =>
        if closerOf? o == some c then keep [c] (splitExpression? none outer rest) else none
      | [] => none
    else keep [c] (splitExpression? none open_ rest)

def isPlainBlank (c : Char) : Bool := c == ' ' || (9 ≤ c.toNat && c.toNat ≤ 13)

def dropEquals : List Char → List Char
  | '=' :: rest => rest.dropWhile isPlainBlank
  | rest => rest

/-- Drops a conversion; `none` if its letter is unknown. -/
def dropConversion? : List Char → Option (List Char)
  | '!' :: c :: rest => if c == 's' || c == 'r' || c == 'a' then some rest else none
  | ['!'] => none
  | rest => some rest

/-- Reads a body, or a format inside `depth` fields, as long as it is well formed, with at most
`fuel` fields and doubled braces: what is left is empty, or starts with the brace that ends the
format. -/
def dropBody? (isExpression : List Char → Bool) (raw : Bool) :
    (fuel depth : Nat) → List Char → Option (List Char)
  | 0, _, _ => none
  | fuel + 1, depth, text => do
    let (literal, doubled, rest) := splitText raw (depth > 0) false text
    if !raw && (unescape? true literal).isNone then none
    if doubled then dropBody? isExpression raw fuel depth rest
    else
      match rest with
      | '{' :: rest =>
        if depth ≥ 2 then none
        let (expression, rest) ← splitExpression? none [] rest
        if expression.all (fun c => c == '\n' || isInlineBlank c) then none
        if !isExpression expression then none
        let rest ← dropConversion? (dropEquals rest)
        let rest ← match rest with
          | ':' :: format => dropBody? isExpression raw fuel (depth + 1) format
          | other => some other
        match rest with
        | '}' :: rest => dropBody? isExpression raw fuel depth rest
        | _ => none
      | '}' :: rest => if depth > 0 then some ('}' :: rest) else none
      | other => if depth == 0 then some other else none

/-- Whether the body of a string literal with fields is well formed, where `isExpression` tells the
expressions. -/
def isTemplateBody (isExpression : List Char → Bool) (raw : Bool) (body : List Char) : Bool :=
  dropBody? isExpression raw (body.length + 1) 0 body == some []

end SnippetGrader.Constant
