import SnippetGrader.Source.Scan
import SnippetGrader.Text.Search

/-!
# Operator symbols

The symbols of the language and the list of those that stand in code at depth zero. The longest
symbol at a position wins, so `**=` is never read as `*` and `*=`.
-/

namespace SnippetGrader.Source

open Text

/-- A symbol of the language. -/
inductive Symbol where
  | powAssign | floorDivAssign
  | eq | ne | le | ge | pow | floorDiv | addAssign | subAssign | mulAssign | divAssign
  | modAssign | arrow | walrus
  | assign | lt | gt | add | sub | mul | div | mod | colon | dot
deriving DecidableEq, Repr

namespace Symbol

/-- The characters of a symbol. -/
def chars : Symbol → List Char
  | powAssign => ['*', '*', '='] | floorDivAssign => ['/', '/', '=']
  | eq => ['=', '='] | ne => ['!', '='] | le => ['<', '='] | ge => ['>', '=']
  | pow => ['*', '*'] | floorDiv => ['/', '/']
  | addAssign => ['+', '='] | subAssign => ['-', '='] | mulAssign => ['*', '=']
  | divAssign => ['/', '='] | modAssign => ['%', '='] | arrow => ['-', '>'] | walrus => [':', '=']
  | assign => ['='] | lt => ['<'] | gt => ['>'] | add => ['+'] | sub => ['-'] | mul => ['*']
  | div => ['/'] | mod => ['%'] | colon => [':'] | dot => ['.']

/-- How a symbol is written. -/
def text (s : Symbol) : String := String.ofList s.chars

/-- All symbols, longer ones first. -/
def all : List Symbol :=
  [powAssign, floorDivAssign,
   eq, ne, le, ge, pow, floorDiv, addAssign, subAssign, mulAssign, divAssign, modAssign, arrow,
   walrus,
   assign, lt, gt, add, sub, mul, div, mod, colon, dot]

def length (s : Symbol) : Nat := s.chars.length

def isSymbolChar (c : Char) : Bool :=
  c == '*' || c == '/' || c == '=' || c == '!' || c == '<' || c == '>' || c == '+' || c == '-' ||
    c == '%' || c == ':' || c == '.'

def at? (text : List Char) : Option Symbol :=
  if text.head?.any isSymbolChar then all.find? fun s => startsWith text s.chars else none

/-- The symbols that bind a target to a value. -/
def isAssignment : Symbol → Bool
  | assign | addAssign | subAssign | mulAssign | divAssign | floorDivAssign | modAssign
  | powAssign => true
  | _ => false

end Symbol

/-- A symbol and the position of its first character. -/
structure Token where
  pos : Nat
  symbol : Symbol
deriving DecidableEq, Repr

/-- The position just past a token. -/
def Token.stop (t : Token) : Nat := t.pos + t.symbol.length

/-- The tokens from position `i` on; the next `skip` characters belong to the last token. -/
def tokensFrom (r : Reader) (i skip : Nat) : List Char → List Token
  | [] => []
  | c :: rest =>
    let (r', place) := r.step c rest
    if skip > 0 then tokensFrom r' (i + 1) (skip - 1) rest
    else
      match if place == .code 0 then Symbol.at? (c :: rest) else none with
      | some s => ⟨i, s⟩ :: tokensFrom r' (i + 1) (s.length - 1) rest
      | none => tokensFrom r' (i + 1) 0 rest

/-- The symbols that stand in code at depth zero, from left to right. -/
def tokens (text : List Char) : List Token := tokensFrom {} 0 0 text

/-- Position of the first colon that is a symbol of its own. -/
def headerColon? (text : List Char) : Option Nat :=
  ((tokens text).find? fun t => t.symbol == .colon).map (·.pos)

/-- An assignment: its target, its symbol and the text of its value. -/
structure Assignment where
  target : List Char
  symbol : Symbol
  value : List Char
deriving DecidableEq, Repr

/-- Reads a text as an assignment at its first assignment symbol; the target and the value must
not be blank. -/
def assignment? (text : List Char) : Option Assignment :=
  match (tokens text).find? fun t => t.symbol.isAssignment with
  | none => none
  | some t =>
    let target := trim (text.take t.pos)
    let value := trim (text.drop t.stop)
    if target.isEmpty || value.isEmpty then none else some ⟨target, t.symbol, value⟩

end SnippetGrader.Source
