import SnippetGrader.Builtin.Convert

/-!
# Data from outside

What the surroundings of a program hand over: settings, inputs, names that are bound before the
program starts, and the answers that are expected. Data are trees; `Datum.toValue` makes a value
of the language of them.
-/

namespace SnippetGrader

/-- A piece of data. -/
inductive Datum where
  /-- A value that holds no other values. -/
  | plain (v : Value)
  | lock
  | exception (kind message : String)
  | list (items : List Datum)
  | dict (entries : List (String × Datum))
deriving Inhabited

namespace Datum

def nothing : Datum := .plain .none

def isNothing : Datum → Bool
  | plain .none => true
  | _ => false

def typeName : Datum → String
  | plain v => v.baseType
  | lock => "LockObject"
  | exception _ _ => "ExceptionValue"
  | list _ => "list"
  | dict _ => "dict"

def truthy : Datum → Bool
  | plain v => v.truthy {}
  | lock | exception _ _ => true
  | list items => !items.isEmpty
  | dict entries => !entries.isEmpty

mutual

def toValue : Datum → Run Value
  | plain v => Run.fresh v
  | lock => Run.newLock
  | exception kind message => Run.newException kind message
  | list items => do Run.newList (← toValues items).toArray
  | dict _ => return .undefined

def toValues : List Datum → Run (List Value)
  | [] => return []
  | d :: rest => do
    let v ← toValue d
    return v :: (← toValues rest)

end

/-- Binds names to data in a new scope. -/
def bindAll (entries : List (String × Datum)) : Run Nat := do
  let scope ← Run.newScope []
  entries.forM fun (name, d) => do Run.bindName scope name (← d.toValue)
  return scope

mutual

/-- The text of a datum as it stands inside a list. -/
def reprText : Datum → Except Failure String
  | plain v => v.plainRepr {}
  | lock => .ok "<unlocked lock object>"
  | exception kind message => (Value.exception 0 kind message).plainRepr {}
  | list items => do return "[" ++ ", ".intercalate (← reprTexts items) ++ "]"
  | dict entries => do return "\x7b" ++ ", ".intercalate (← entryTexts entries) ++ "\x7d"

/-- The texts of data as they stand inside a list. -/
def reprTexts : List Datum → Except Failure (List String)
  | [] => .ok []
  | d :: rest => do
    let t ← reprText d
    return t :: (← reprTexts rest)

def entryTexts : List (String × Datum) → Except Failure (List String)
  | [] => .ok []
  | (key, d) :: rest => do
    let t ← reprText d
    return (String.ofList (Text.quote key.toList) ++ ": " ++ t) :: (← entryTexts rest)

end

/-- The text of a datum as it is printed. -/
def text : Datum → Except Failure String
  | plain (.str t) => .ok t
  | exception _ message => .ok message
  | d => reprText d

def toInt : Datum → Except Failure Int
  | plain v => Convert.toInt v
  | d => .error (Convert.noInt d.typeName)

/-- The floating point number that a datum converts to. -/
def toFloat : Datum → Except Failure Float
  | plain v => Convert.toFloat v
  | d => .error (Convert.noFloat d.typeName)

def isText (t : String) : Datum → Bool
  | plain (.str s) => s == t
  | _ => false

/-- What a datum holds under a key. Lists and texts hold nothing under a key; one that has the key
as an item or a piece is refused, and so is a datum that holds nothing at all. -/
def entry? (key : String) : Datum → Except Failure (Option Datum)
  | dict entries => .ok (entries.lookup key)
  | list items =>
    if items.any (isText key) then
      .error (.type "list indices must be integers or slices, not str")
    else .ok none
  | plain (.str t) =>
    if Text.contains t.toList key.toList then
      .error (.type "string indices must be integers, not 'str'")
    else .ok none
  | d => .error (.type ("argument of type '" ++ d.typeName ++ "' is not iterable"))

/-- What a datum holds under the first of some keys under which it holds something. -/
def pick? (d : Datum) : List String → Except Failure (Option Datum)
  | [] => .ok none
  | key :: rest => do
    match ← d.entry? key with
    | some found => if found.isNothing then d.pick? rest else return some found
    | none => d.pick? rest

/-- The items of a datum: those of a list, the characters of a text, the keys of a dictionary. -/
def items : Datum → Except Failure (List Datum)
  | list items => .ok items
  | dict entries => .ok (entries.map fun p => .plain (.str p.1))
  | plain (.str t) => .ok (t.toList.map fun c => .plain (.str c.toString))
  | d => .error (.type ("'" ++ d.typeName ++ "' object is not iterable"))

end Datum

end SnippetGrader
