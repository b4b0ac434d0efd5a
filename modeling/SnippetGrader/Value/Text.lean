import SnippetGrader.Machine.Basic
import SnippetGrader.Number.FloatText
import SnippetGrader.Number.Reading
import SnippetGrader.Text.Quoted

/-!
# Values as text

`reprText` writes a value the way it stands inside a list, `displayText` the way it is printed.
The two differ for texts, which are printed without quotation marks, and for exceptions, which
are printed as their message. A list that is reached again inside itself is written `[...]`.
-/

namespace SnippetGrader

open Number

/-- A whole number in decimal, if it is not too long. -/
def intText (n : Int) : Except Failure String :=
  if n.natAbs < tenPow maxDigits then
    .ok (String.ofList ((if n < 0 then ['-'] else []) ++ digitsOf n.natAbs))
  else
    .error (.value ("Exceeds the limit (4300 digits) for integer string conversion; " ++
      "use sys.set_int_max_str_digits() to increase the limit"))

namespace Value

/-- The name of the type of a value; all objects have one type. -/
def baseType : Value → String
  | none => "NoneType" | bool _ => "bool" | int _ => "int" | float _ => "float"
  | nan _ => "float" | complex _ _ => "complex" | str _ => "str" | list _ => "list" | undefined => "_Undefined"
  | lock _ => "LockObject" | library _ => "NativeModule"
  | builtin f => if f.isKernel then "builtin_function_or_method" else "function"
  | native f =>
    match f with
    | .makeLock => "type"
    | .decode64 | .encode64 | .sleep => "function"
    | _ => "builtin_function_or_method"
  | exception _ _ _ => "ExceptionValue" | function _ => "Function" | template _ => "ClassTemplate"
  | object _ => "Instance"

/-- The name of the type of a value, which for an object is the name of its class. -/
def typeName (s : Store) : Value → String
  | object ref => s.className ref
  | v => v.baseType

def truthy (s : Store) : Value → Bool
  | none => false
  | bool b => b
  | int n => n != 0
  | float x => x != 0
  | complex re im => re != 0 || im != 0
  | str t => !t.isEmpty
  | list ref => !(s.items ref).isEmpty
  | undefined => false
  | _ => true

/-- The text of a value that is not a list. -/
def plainRepr (s : Store) : Value → Except Failure String
  | none => .ok "None"
  | bool b => .ok (if b then "True" else "False")
  | int n => intText n
  | float x => .ok (floatText x)
  | nan _ => .ok (floatText notANumber)
  | complex re im => .ok (complexText re im)
  | str t => .ok (String.ofList (Text.quote t.toList))
  | list _ => .ok "[...]"
  | undefined => .ok "undefined"
  | lock _ => .ok "<unlocked lock object>"
  | library lib => .ok ("<module '" ++ lib.name ++ "'>")
  | builtin f =>
    .ok (if f.isKernel then "<built-in function " ++ f.name ++ ">" else s.host.functionText f.name)
  | native .makeLock => .ok "<class 'backend.gauntlet.values.LockObject'>"
  | native .decode64 => .ok (s.host.functionText "b64decode")
  | native .encode64 => .ok (s.host.functionText "b64encode")
  | native .sleep => .ok (s.host.functionText "sleep")
  | native f => .ok ("<built-in function " ++ String.ofList ((f.path.toList.dropWhile (· != '.')).drop 1) ++ ">")
  | exception _ kind message => .ok (kind ++ "(" ++ String.ofList (Text.quote message.toList) ++ ")")
  | function ref => .ok ("<function " ++ ((s.functions[ref]?.map (·.name)).getD "") ++ ">")
  | template ref => .ok ("<class '" ++ ((s.templates[ref]?.map (·.name)).getD "") ++ "'>")
  | object ref => .ok ("<" ++ s.className ref ++ " object>")

/-- The text of a value inside the lists `outer`, nested at most `depth` deep. -/
def reprWithin (s : Store) (outer : List Nat) : (depth : Nat) → Value → Except Stop String
  | 0, _ => .error (.exhausted .writing)
  | depth + 1, v =>
    match v with
    | list ref =>
      if outer.contains ref then .ok "[...]"
      else do
        let texts ← (s.items ref).toList.mapM (reprWithin s (ref :: outer) depth)
        return "[" ++ ", ".intercalate texts ++ "]"
    | v => (plainRepr s v).mapError .failed

/-- The text of a value as it stands inside a list. -/
def reprText (s : Store) (v : Value) : Except Stop String := reprWithin s [] s.host.nesting v

/-- The text of a value as it is printed. -/
def displayText (s : Store) : Value → Except Stop String
  | str t => .ok t
  | exception _ _ message => .ok message
  | v => reprText s v

end Value

namespace Run

/-- The text of a value as it stands inside a list. -/
def repr (v : Value) : Run String := do ofStop (v.reprText (← store))

/-- The text of a value as it is printed. -/
def display (v : Value) : Run String := do ofStop (v.displayText (← store))

def truthy (v : Value) : Run Bool := return v.truthy (← store)

def typeName (v : Value) : Run String := return v.typeName (← store)

end Run

end SnippetGrader
