import SnippetGrader.Builtin.Signature
import SnippetGrader.Text.Case
import SnippetGrader.Text.Digit
import SnippetGrader.Text.Letter
import SnippetGrader.Value.Slice

/-!
# Methods of texts

What a program can ask of a text: replacing, cutting, trimming, joining, letter case, and
questions about its characters and its ends.
-/

namespace SnippetGrader.TextMethod

open Run

/-- A text as a value. -/
def text (cs : List Char) : Value := .str (String.ofList cs)

/-- The name of a type in a message about an argument. -/
def argumentType : Value → String
  | .none => "None"
  | v => v.baseType

def textArgument (name : String) (position : Nat) : Value → Except Failure (List Char)
  | .str t => .ok t.toList
  | v =>
    .error (.type (name ++ "() argument " ++ toString position ++ " must be str, not " ++
      argumentType v))

/-- How often something is done: a negative number means as often as possible, which is `all`. -/
def limit (all : Nat) (v : Value) : Except Failure Nat := do
  let n ← asCount v
  return if n < 0 then all else n.toNat

def replace (self : List Char) (args : List Value) (keywords : Keywords) : Except Failure Value := do
  noKeywords "str.replace" keywords
  between "replace" 2 3 args
  let old ← textArgument "replace" 1 (args[0]?.getD .none)
  let new ← textArgument "replace" 2 (args[1]?.getD .none)
  let n ← limit (self.length + 1) (args[2]?.getD (.int (-1)))
  return text (Text.replaceUpTo n old new self)

def splitSlots : Slots := { name := "split", params := ["sep", "maxsplit"] }

/-- Cuts at a separator, or at runs of blanks. -/
def split (self : List Char) (args : List Value) (keywords : Keywords) : Run Value := do
  let bound ← ofExcept (splitSlots.bind args keywords)
  let n ← ofExcept (limit self.length (argumentAt bound 1 (.int (-1))))
  match argumentAt bound 0 .none with
  | .none => newTextList (Text.wordsUpTo n self)
  | .str sep =>
    if sep.isEmpty then fail (.value "empty separator")
    newTextList (Text.cutAround sep.toList n self)
  | v => fail (.type ("must be str or None, not " ++ v.baseType))

def strip (self : List Char) (args : List Value) (keywords : Keywords) : Except Failure Value := do
  noKeywords "str.strip" keywords
  between "strip" 0 1 args
  match args[0]?.getD .none with
  | .none => return text (Text.trim self)
  | .str chars => return text (Text.trimBy chars.toList.contains self)
  | _ => throw (.type "strip arg must be None or str")

/-- The texts that are joined, from position `i` on. -/
def piecesFrom (i : Nat) : List Value → Except Failure (List (List Char))
  | [] => .ok []
  | .str t :: rest => do return t.toList :: (← piecesFrom (i + 1) rest)
  | v :: _ => .error (.notText i v.baseType)

def joinSignature : Signature := { name := "_join", required := ["sep", "items"] }

def join (self : Value) (args : List Value) (keywords : Keywords) : Run Value := do
  let (bound, _) ← ofExcept (joinSignature.bind (self :: args) keywords)
  let pieces ← ofExcept (piecesFrom 0 (← iterate (argumentAt bound 1 .none)))
  match self with
  | .str sep => return text (sep.toList.intercalate pieces)
  | v => return v

/-- Checks the number of arguments of a question about an end of a text. -/
def checkEndCount (name : String) (n : Nat) : Except Failure Unit :=
  if n < 1 then .error (.type (name ++ "() takes at least 1 argument (0 given)"))
  else if n > 3 then
    .error (.type (name ++ "() takes at most 3 arguments (" ++ toString n ++ " given)"))
  else .ok ()

/-- The answer to a question about an end of the part of a text between two bounds. -/
def endTest (name : String) (test : List Char → List Char → Bool) (self : List Char)
    (args : List Value) (keywords : Keywords) : Except Failure Value := do
  noKeywords ("str." ++ name) keywords
  checkEndCount name args.length
  let start := (← Slice.bound? (args[1]?.getD .none)).getD 0
  let stop := (← Slice.bound? (args[2]?.getD .none)).getD self.length
  match args[0]?.getD .none with
  | .str piece =>
    let n := self.length
    let first := if start < 0 then clampBound n 0 n start else start
    let last := clampBound n 0 n stop
    let part := (self.take last.toNat).drop first.toNat
    return .bool (first + piece.length ≤ last && test part piece.toList)
  | v =>
    throw (.type (name ++ " first arg must be str or a tuple of str, not " ++ v.baseType))

/-- The answer to a question about all characters of a text that has some. -/
def everyChar (name : String) (p : Char → Bool) (self : List Char) (args : List Value)
    (keywords : Keywords) : Except Failure Value := do
  noArguments ("str." ++ name) args keywords
  return .bool (!self.isEmpty && self.all p)

def changed (name : String) (f : List Char → List Char) (self : List Char) (args : List Value)
    (keywords : Keywords) : Except Failure Value := do
  noArguments ("str." ++ name) args keywords
  return text (f self)

/-- The method of a text with a given name. -/
def ofName? (name : String) (self : String) : Option (List Value → Keywords → Run Value) :=
  let cs := self.toList
  match name with
  | "replace" => some fun args keywords => ofExcept (replace cs args keywords)
  | "split" => some (split cs)
  | "isalpha" => some fun args keywords => ofExcept (everyChar name Text.isLetter cs args keywords)
  | "isdigit" => some fun args keywords => ofExcept (everyChar name Text.isDigitLike cs args keywords)
  | "upper" => some fun args keywords => ofExcept (changed name Text.toUpper cs args keywords)
  | "lower" => some fun args keywords => ofExcept (changed name Text.toLower cs args keywords)
  | "strip" => some fun args keywords => ofExcept (strip cs args keywords)
  | "join" => some (join (.str self))
  | "startswith" => some fun args keywords => ofExcept (endTest name Text.startsWith cs args keywords)
  | "endswith" => some fun args keywords => ofExcept (endTest name Text.endsWith cs args keywords)
  | _ => none

end SnippetGrader.TextMethod
