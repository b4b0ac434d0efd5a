import SnippetGrader.Text.Blank

/-!
# Scanning source text

A reader goes through source text once, from the left. It knows whether it stands in code or
in a string literal, and how many brackets are open. `scan` lists the characters that stand in
code with their bracket depth; the other functions of this module answer questions about those
characters: where a bracket closes, where separators at depth zero cut the text, where a comment
starts, and whether a text is complete.
-/

namespace SnippetGrader.Source

open Text

/-- A character that opens or closes a string literal. -/
def isQuote (c : Char) : Bool := c == '"' || c == '\''

/-- An opening bracket. -/
def isOpener (c : Char) : Bool := c == '(' || c == '[' || c == '{'

def isCloser (c : Char) : Bool := c == ')' || c == ']' || c == '}'

/-- The bracket that closes an opening bracket. -/
def closerOf? (c : Char) : Option Char :=
  if c == '(' then some ')' else if c == '[' then some ']' else if c == '{' then some '}' else none

/-- What the reader is in the middle of. -/
inductive Mode where
  /-- Code: anything outside string literals. -/
  | code
  /-- A literal between single marks, opened by `quote`. -/
  | single (quote : Char)
  /-- The character after a backslash in such a literal. -/
  | escaped (quote : Char)
  /-- The opening marks of a triple literal, of which `left` are still to come. -/
  | opening (quote : Char) (left : Nat)
  /-- A literal between triple marks; a backslash has no meaning in it for the reader. -/
  | triple (quote : Char)
  /-- The closing marks of a triple literal, of which `left` are still to come. -/
  | closing (left : Nat)
deriving DecidableEq, Repr

/-- The reader's state: its mode and the number of open brackets. -/
structure Reader where
  mode : Mode := .code
  depth : Nat := 0
deriving DecidableEq, Repr

/-- Where a character stands: in a string literal, or in code at a bracket depth. A bracket has
the depth of the context that it opens or closes. -/
inductive Place where
  | quoted
  | code (depth : Nat)
deriving DecidableEq, Repr

/-- Whether `c`, followed by `rest`, is the first of three equal characters. -/
def tripled (c : Char) : List Char → Bool
  | a :: b :: _ => a == c && b == c
  | _ => false

/-- Reads the character `c`, which is followed by `rest`. A closing bracket with no open bracket
leaves the depth at zero. -/
def Reader.step (r : Reader) (c : Char) (rest : List Char) : Reader × Place :=
  match r.mode with
  | .code =>
    if isQuote c then
      ({ r with mode := if tripled c rest then .opening c 2 else .single c }, .quoted)
    else if isCloser c then ({ r with depth := r.depth - 1 }, .code (r.depth - 1))
    else if isOpener c then ({ r with depth := r.depth + 1 }, .code r.depth)
    else (r, .code r.depth)
  | .single q =>
    ({ r with mode := if c == '\\' then .escaped q else if c == q then .code else .single q },
      .quoted)
  | .escaped q => ({ r with mode := .single q }, .quoted)
  | .opening q left => ({ r with mode := if left ≤ 1 then .triple q else .opening q (left - 1) },
      .quoted)
  | .triple q =>
    ({ r with mode := if c == q && tripled c rest then .closing 2 else .triple q }, .quoted)
  | .closing left => ({ r with mode := if left ≤ 1 then .code else .closing (left - 1) }, .quoted)

/-- A character of code, with its position in the text and its bracket depth. -/
structure Mark where
  index : Nat
  char : Char
  depth : Nat
deriving DecidableEq, Repr

/-- The characters of code from position `i` on, for a reader in state `r`. -/
def scanFrom (r : Reader) (i : Nat) : List Char → List Mark
  | [] => []
  | c :: rest =>
    match r.step c rest with
    | (r', .quoted) => scanFrom r' (i + 1) rest
    | (r', .code d) => ⟨i, c, d⟩ :: scanFrom r' (i + 1) rest

/-- The characters of a text that stand in code. -/
def scan (text : List Char) : List Mark := scanFrom {} 0 text

/-- Position of the bracket that closes the one at position `i`, if `i` holds an opening bracket
and the first closing bracket at its depth is of the same kind. -/
def matchingClose (text : List Char) (i : Nat) : Option Nat :=
  match text.drop i with
  | [] => none
  | c :: rest => do
    let closer ← closerOf? c
    let m ← (scan (c :: rest)).tail.find? fun m => m.depth == 0 && isCloser m.char
    if m.char == closer then some (i + m.index) else none

/-- Whether the bracket that opens `text` closes at its very end. -/
def isEnclosed (text : List Char) : Bool := matchingClose text 0 == some (text.length - 1)

/-- The pieces between the separators at depth zero, untrimmed; `piece` is the open piece, last
character first. -/
def cutTopLevelFrom (sep : Char) (r : Reader) (piece : List Char) : List Char → List (List Char)
  | [] => [piece.reverse]
  | c :: rest =>
    let (r', place) := r.step c rest
    if place == .code 0 && c == sep then piece.reverse :: cutTopLevelFrom sep r' [] rest
    else cutTopLevelFrom sep r' (c :: piece) rest

/-- The trimmed pieces between the separators that stand in code at depth zero; a blank text has
no pieces. -/
def cutTopLevel (sep : Char) (text : List Char) : List (List Char) :=
  if text.all isBlank then [] else (cutTopLevelFrom sep {} [] text).map trim

/-- Cuts off a comment and the blanks before it. A text without comment stays as it is. -/
def stripComment (text : List Char) : List Char :=
  match (scan text).find? fun m => m.char == '#' with
  | some m => trimEnd (text.take m.index)
  | none => text

/-- How a text leaves the reader: the number of open brackets, and whether a triple literal is
still open. -/
structure Balance where
  depth : Nat
  inTriple : Bool
deriving DecidableEq, Repr

/-- The balance of what a reader in state `r` reads, up to a comment. -/
def balanceFrom (r : Reader) : List Char → Balance
  | [] => ⟨r.depth, match r.mode with | .triple _ => true | _ => false⟩
  | c :: rest =>
    if r.mode == .code && c == '#' then ⟨r.depth, false⟩
    else balanceFrom (r.step c rest).1 rest

/-- The balance of a text, up to its comment. -/
def balance (text : List Char) : Balance := balanceFrom {} text

/-- Number of characters read, counted on from `n`, until the reader is back in code. -/
def literalLengthFrom (r : Reader) (n : Nat) : List Char → Nat
  | [] => n
  | c :: rest =>
    let r' := (r.step c rest).1
    if r'.mode == .code then n + 1 else literalLengthFrom r' (n + 1) rest

/-- Length of the string literal that `text` starts with; an unterminated literal extends to the
end of the text. -/
def literalLength (text : List Char) : Nat := literalLengthFrom {} 0 text

end SnippetGrader.Source
