import SnippetGrader.Expression.Constant.Token
import SnippetGrader.Machine.Failure
import SnippetGrader.Number.Dyadic

/-!
# Constant expressions

A `Tree` is an expression, of which only the parts that can be constant are kept. `Tree.evaluate`
gives the constant that it is: a text, a number, a word such as `None`, or a collection of
constants. Parts are evaluated from left to right, and the first one that is no constant, or that
cannot be a member of a set or a key, decides why there is none.
-/

namespace SnippetGrader.Constant

open Text

/-- An expression. -/
inductive Tree where
  | text (cs : List Char)
  | bytes
  | numeral (n : Numeral)
  /-- One of the constants that are words, or an ellipsis. -/
  | word
  | name (cs : List Char)
  /-- An attribute or an item of something. -/
  | place
  /-- An expression after a star. -/
  | starred (inner : Tree)
  /-- A sign before an operand. -/
  | signed (operand : Tree)
  /-- A sum or difference of two operands. -/
  | sum (left right : Tree)
  | tuple (items : List Tree)
  | list (items : List Tree)
  | set (items : List Tree)
  | dict (entries : List (Tree × Tree))
  /-- The empty set, which is written as a call. -/
  | emptySet
  /-- An expression that is no constant. -/
  | other

/-- The name whose call without arguments is the empty set. -/
def isSetName (cs : List Char) : Bool := cs.map plainLetter == "set".toList

namespace Tree

def call (callee : Tree) (hasArguments : Bool) : Tree :=
  match callee with
  | name cs => if !hasArguments && isSetName cs then emptySet else other
  | _ => other

mutual

def isTarget : Tree → Bool
  | name _ | place => true
  | tuple items | list items => areTargets items
  | _ => false

/-- Whether the items of a collection can be assigned to, with a star or without. -/
def areTargets : List Tree → Bool
  | [] => true
  | starred t :: rest => isTarget t && areTargets rest
  | t :: rest => isTarget t && areTargets rest

end

def numeral? : Tree → Option Numeral
  | numeral n => some n
  | _ => none

/-- The numeral that an expression is, apart from a sign. -/
def signedNumeral? : Tree → Option Numeral
  | signed t => t.numeral?
  | t => t.numeral?

end Tree

/-- The kind of a constant, as far as it matters for what it is part of. -/
inductive Kind where
  | text (cs : List Char)
  /-- A number, bytes or a word. -/
  | plain
  /-- A tuple; `unhashable` is the type of its first item that cannot be a member of a set. -/
  | tuple (unhashable : Option String)
  | list
  | set
  | dict
deriving DecidableEq, Repr

/-- The type on account of which a constant cannot be a member of a set or a key. -/
def Kind.unhashable? : Kind → Option String
  | text _ | plain => none
  | tuple type => type
  | list => some "list"
  | set => some "set"
  | dict => some "dict"

/-- Why an expression has no constant. -/
inductive Refusal where
  /-- It is not made of constants. -/
  | notConstant
  /-- Its constants do not fit together. -/
  | failed (f : Failure)
deriving DecidableEq, Repr

/-- Checks that a constant can be a member of a set or a key. -/
def Kind.checkHashable (c : Kind) : Except Refusal Unit :=
  match c.unhashable? with
  | some type => .error (.failed (.type ("unhashable type: '" ++ type ++ "'")))
  | none => .ok ()

/-- The sum of a real and an imaginary number, the only one that is a constant. -/
def sumConstant (left right : Tree) : Except Refusal Kind :=
  match left.signedNumeral?, right.numeral? with
  | some (.whole n), some .imaginary =>
    if (Number.floatOfInt? n).isSome then .ok .plain
    else .error (.failed (.overflow "int too large to convert to float"))
  | some .decimal, some .imaginary => .ok .plain
  | _, _ => .error .notConstant

namespace Tree

mutual

/-- The kind of the constant that an expression is. -/
def evaluate : Tree → Except Refusal Kind
  | text cs => .ok (.text cs)
  | bytes | numeral _ | word => .ok .plain
  | signed t => if t.numeral?.isSome then .ok .plain else .error .notConstant
  | sum left right => sumConstant left right
  | tuple items => do return .tuple ((← evaluateAll items).findSome? Kind.unhashable?)
  | list items => do
    let _ ← evaluateAll items
    return .list
  | set items => do
    evaluateMembers items
    return .set
  | dict entries => do
    evaluateEntries entries
    return .dict
  | emptySet => .ok .set
  | name _ | place | starred _ | other => .error .notConstant

def evaluateAll : List Tree → Except Refusal (List Kind)
  | [] => .ok []
  | t :: rest => do
    let c ← evaluate t
    return c :: (← evaluateAll rest)

def evaluateMembers : List Tree → Except Refusal Unit
  | [] => .ok ()
  | t :: rest => do
    (← evaluate t).checkHashable
    evaluateMembers rest

def evaluateEntries : List (Tree × Tree) → Except Refusal Unit
  | [] => .ok ()
  | (key, value) :: rest => do
    let k ← evaluate key
    let _ ← evaluate value
    k.checkHashable
    evaluateEntries rest

end

end Tree

end SnippetGrader.Constant
