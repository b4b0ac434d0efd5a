import SnippetGrader.Machine.Engine
import SnippetGrader.Value.Arithmetic

/-!
# Binding arguments to parameters

Three families of functions tell their callers in different words what is wrong with a call.
`Signature.bind` serves functions with named parameters and `Slots.bind` those of the kernel. The
other functions of the kernel take arguments by position only and check their number;
`noKeywords`, `exactlyOne`, `between` and `noArguments` are their checks.
-/

namespace SnippetGrader

/-- The parameters of a function. -/
structure Signature where
  name : String
  /-- Names of the parameters that every call supplies. -/
  required : List String := []
  /-- Names of the parameters that a call may leave out. -/
  optional : List String := []
  /-- Whether further positional arguments are taken. -/
  variadic : Bool := false

namespace Signature

/-- All parameter names, in order. -/
def params (sig : Signature) : List String := sig.required ++ sig.optional

/-- Checks the keyword arguments of a call with `count` positional arguments. -/
def checkKeywords (sig : Signature) (count : Nat) : Keywords → Except Failure Unit
  | [] => .ok ()
  | (key, _) :: rest =>
    match sig.params.idxOf? key with
    | none => .error (.type (sig.name ++ "() got an unexpected keyword argument '" ++ key ++ "'"))
    | some i =>
      if i < count then
        .error (.type (sig.name ++ "() got multiple values for argument '" ++ key ++ "'"))
      else checkKeywords sig count rest

def checkCount (sig : Signature) (count : Nat) : Except Failure Unit :=
  let most := sig.params.length
  if sig.variadic || count ≤ most then .ok ()
  else
    let takes :=
      if sig.optional.isEmpty then
        toString most ++ " positional argument" ++ if most == 1 then "" else "s"
      else
        "from " ++ toString sig.required.length ++ " to " ++ toString most ++ " positional arguments"
    .error (.type (sig.name ++ "() takes " ++ takes ++ " but " ++ toString count ++
      (if count == 1 then " was" else " were") ++ " given"))

/-- Names in quotation marks, as a list in a sentence. -/
def listed : List String → String
  | [] => ""
  | [a] => "'" ++ a ++ "'"
  | [a, b] => "'" ++ a ++ "' and '" ++ b ++ "'"
  | names =>
    let quoted := names.map fun n => "'" ++ n ++ "'"
    ", ".intercalate quoted.dropLast ++ ", and " ++ quoted.getLast?.getD ""

def checkMissing (sig : Signature) (count : Nat) (keywords : Keywords) : Except Failure Unit :=
  let missing := (sig.required.drop count).filter fun p => !keywords.any fun k => k.1 == p
  if missing.isEmpty then .ok ()
  else
    .error (.type (sig.name ++ "() missing " ++ toString missing.length ++
      " required positional argument" ++ (if missing.length == 1 then "" else "s") ++ ": " ++
      listed missing))

/-- The arguments of a call by position of the parameter, and the further positional ones. -/
def bind (sig : Signature) (args : List Value) (keywords : Keywords) :
    Except Failure (List (Option Value) × List Value) := do
  sig.checkKeywords args.length keywords
  sig.checkCount args.length
  sig.checkMissing args.length keywords
  let given := args.map some
  let named := (sig.params.drop args.length).map fun p => keywords.lookup p
  return ((given ++ named).take sig.params.length, args.drop sig.params.length)

end Signature

def argumentAt (bound : List (Option Value)) (i : Nat) (default : Value) : Value :=
  (bound[i]?.join).getD default

/-- The parameters of a function of the kernel that can be given by name. -/
structure Slots where
  name : String
  params : List String
  /-- How many of the first parameters cannot be given by name; every call supplies them. -/
  unnamed : Nat := 0
  /-- How many of the first parameters every call supplies. -/
  required : Nat := 0
  /-- Whether the parameters can be given by name only. -/
  namedOnly : Bool := false

namespace Slots

/-- The parameters that can be given by name. -/
def names (slots : Slots) : List String := slots.params.drop slots.unnamed

def checkCount (slots : Slots) (positional named : Nat) : Except Failure Unit :=
  let most := slots.params.length
  if positional + named > most then
    .error (.type (slots.name ++ "() takes at most " ++ toString most ++
      (if positional == 0 then " keyword" else "") ++ " argument" ++
      (if most == 1 then "" else "s") ++ " (" ++ toString (positional + named) ++ " given)"))
  else if slots.namedOnly && positional > 0 then
    .error (.type (slots.name ++ "() takes no positional arguments"))
  else if positional < slots.unnamed then
    .error (.type (slots.name ++ "() takes at least " ++ toString slots.unnamed ++
      " positional argument" ++ (if slots.unnamed == 1 then "" else "s") ++ " (" ++
      toString positional ++ " given)"))
  else .ok ()

/-- Checks that every required parameter from position `i` on is supplied. -/
def checkRequired (slots : Slots) (keywords : Keywords) (i : Nat) : List String → Except Failure Unit
  | [] => .ok ()
  | p :: rest =>
    if i < slots.required && !keywords.any fun k => k.1 == p then
      .error (.type (slots.name ++ "() missing required argument '" ++ p ++ "' (pos " ++
        toString (i + 1) ++ ")"))
    else checkRequired slots keywords (i + 1) rest

/-- Checks that no parameter is given both ways, and then that all names are names of
parameters. -/
def checkNames (slots : Slots) (positional : Nat) (keywords : Keywords) : Except Failure Unit := do
  let given := (slots.params.take positional).zipIdx.drop slots.unnamed
  match given.find? fun p => keywords.any fun k => k.1 == p.1 with
  | some (p, i) =>
    throw (.type ("argument for " ++ slots.name ++ "() given by name ('" ++ p ++
      "') and position (" ++ toString (i + 1) ++ ")"))
  | none =>
    match keywords.find? fun k => !slots.names.contains k.1 with
    | some (k, _) =>
      throw (.type ("'" ++ k ++ "' is an invalid keyword argument for " ++ slots.name ++ "()"))
    | none => return

/-- The arguments of a call by position of the parameter. -/
def bind (slots : Slots) (args : List Value) (keywords : Keywords) :
    Except Failure (List (Option Value)) := do
  slots.checkCount args.length keywords.length
  slots.checkRequired keywords args.length (slots.params.drop args.length)
  slots.checkNames args.length keywords
  return args.map some ++ (slots.params.drop args.length).map fun p => keywords.lookup p

end Slots

def noKeywords (name : String) (keywords : Keywords) : Except Failure Unit :=
  if keywords.isEmpty then .ok () else .error (.type (name ++ "() takes no keyword arguments"))

def noArguments (name : String) (args : List Value) (keywords : Keywords) : Except Failure Unit := do
  noKeywords name keywords
  if !args.isEmpty then
    throw (.type (name ++ "() takes no arguments (" ++ toString args.length ++ " given)"))

def exactlyOne (name : String) (args : List Value) (keywords : Keywords) : Except Failure Value := do
  noKeywords name keywords
  match args with
  | [v] => return v
  | _ =>
    throw (.type (name ++ "() takes exactly one argument (" ++ toString args.length ++ " given)"))

/-- A number of arguments, as a message writes it. -/
def argumentCount (n : Nat) : String := toString n ++ if n == 1 then " argument" else " arguments"

/-- Checks that there are at least `least` and at most `most` arguments. -/
def between (name : String) (least most : Nat) (args : List Value) : Except Failure Unit :=
  let n := args.length
  if least == most && n != least then
    .error (.type (name ++ " expected " ++ argumentCount least ++ ", got " ++ toString n))
  else if n < least then
    .error (.type (name ++ " expected at least " ++ argumentCount least ++ ", got " ++ toString n))
  else if n > most then
    .error (.type (name ++ " expected at most " ++ argumentCount most ++ ", got " ++ toString n))
  else .ok ()

/-- The whole number that a value is. -/
def asIndex (v : Value) : Except Failure Int :=
  match v with
  | .int n => .ok n
  | .bool b => .ok (if b then 1 else 0)
  | v => .error (.type ("'" ++ v.baseType ++ "' object cannot be interpreted as an integer"))

/-- The whole number that a value is, if it can count items. -/
def asCount (v : Value) : Except Failure Int := do
  let n ← asIndex v
  if fitsIndex n then return n
  else throw (.overflow "Python int too large to convert to C ssize_t")

/-- The whole number that a value is, if it has at most 32 bits. -/
def asSmall (v : Value) : Except Failure Int := do
  let n ← asIndex v
  if -(Number.twoPow 31) ≤ n && n < Number.twoPow 31 then return n
  else throw (.overflow "Python int too large to convert to C int")

namespace Run

/-- The items of a list or the characters of a text. -/
def sequence? (v : Value) : Run (Option (List Value)) := do
  match v with
  | .list ref => return some (← items ref).toList
  | .str t => return some (t.toList.map fun c => .str c.toString)
  | _ => return none

/-- The items of a list or the characters of a text; other values are refused by the name of
their type. -/
def iterate (v : Value) : Run (List Value) := do
  match ← sequence? v with
  | some xs => return xs
  | none => fail (.type ("'" ++ (← typeName v) ++ "' object is not iterable"))

/-- As `iterate`, but all objects are refused by one name. -/
def iteratePlain (v : Value) : Run (List Value) := do
  match ← sequence? v with
  | some xs => return xs
  | none => fail (.type ("'" ++ v.baseType ++ "' object is not iterable"))

end Run

end SnippetGrader
