import SnippetGrader.Source.Line

/-!
# Values

The values of the language. Lists, functions, class templates and objects are references into a
store, because two names may hold the same one and see each other's changes. Locks, exceptions and
results that are no numbers have a reference to tell them apart; everything else is held by value.
-/

namespace SnippetGrader

/-- The functions that every program can call by name. -/
inductive Builtin where
  | len | str | list | any | all | ord | chr | range | int | float | bool | abs | sum | min | max
  | round | enumerate | zip | sorted | reversed | map | filter
deriving DecidableEq, Repr

/-- The libraries that a program can import. -/
inductive Library where
  | base64 | threading | time | math
deriving DecidableEq, Repr

/-- The functions of the libraries. -/
inductive Native where
  | decode64 | encode64 | makeLock | sleep | now | sqrt | floor | ceil | gcd
deriving DecidableEq, Repr

/-- A value of the language. -/
inductive Value where
  | none
  | bool (b : Bool)
  | int (n : Int)
  | float (x : Float)
  /-- The outcome of a computation that has no number as its result. It is equal to nothing, but a
  list holds it as the thing that it is. -/
  | nan (ref : Nat)
  | complex (re im : Float)
  | str (s : String)
  | list (ref : Nat)
  /-- What a parameter holds that a call did not supply. -/
  | undefined
  | lock (ref : Nat)
  | library (lib : Library)
  | builtin (f : Builtin)
  | native (f : Native)
  /-- What `except … as name` binds. -/
  | exception (ref : Nat) (kind message : String)
  | function (ref : Nat)
  | template (ref : Nat)
  | object (ref : Nat)
deriving Inhabited

namespace Builtin

/-- All functions that can be called by name. -/
def every : List Builtin :=
  [len, str, list, any, all, ord, chr, range, int, float, bool, abs, sum, min, max, round,
   enumerate, zip, sorted, reversed, map, filter]

/-- The name by which a program calls a function. -/
def name : Builtin → String
  | len => "len" | str => "str" | list => "list" | any => "any" | all => "all" | ord => "ord"
  | chr => "chr" | range => "range" | int => "int" | float => "float" | bool => "bool"
  | abs => "abs" | sum => "sum" | min => "min" | max => "max" | round => "round"
  | enumerate => "enumerate" | zip => "zip" | sorted => "sorted" | reversed => "reversed"
  | map => "map" | filter => "filter"

def ofName? (n : String) : Option Builtin := every.find? fun f => f.name == n

/-- Whether a function belongs to the kernel of the language, which shows in the name of its
type. -/
def isKernel : Builtin → Bool
  | ord | chr | abs | sum | min | max | round => true
  | _ => false

end Builtin

namespace Library

/-- The name under which a library is imported. -/
def name : Library → String
  | base64 => "base64" | threading => "threading" | time => "time" | math => "math"

def ofName? : String → Option Library
  | "base64" => some base64
  | "threading" => some threading
  | "time" => some time
  | "math" => some math
  | _ => none

def pi : Float := Float.ofBits 0x400921fb54442d18

/-- The base of the natural logarithm. -/
def euler : Float := Float.ofBits 0x4005bf0a8b145769

def attribute? : Library → String → Option Value
  | base64, "b64decode" => some (.native .decode64)
  | base64, "b64encode" => some (.native .encode64)
  | threading, "Lock" => some (.native .makeLock)
  | threading, "RLock" => some (.native .makeLock)
  | time, "sleep" => some (.native .sleep)
  | time, "time" => some (.native .now)
  | math, "sqrt" => some (.native .sqrt)
  | math, "floor" => some (.native .floor)
  | math, "ceil" => some (.native .ceil)
  | math, "gcd" => some (.native .gcd)
  | math, "pi" => some (.float pi)
  | math, "e" => some (.float euler)
  | math, "inf" => some (.float (1.0 / 0.0))
  | _, _ => none

end Library

/-- The library and the name of a library function. -/
def Native.path : Native → String
  | decode64 => "base64.b64decode" | encode64 => "base64.b64encode"
  | makeLock => "threading.Lock" | sleep => "time.sleep" | now => "time.time"
  | sqrt => "math.sqrt" | floor => "math.floor" | ceil => "math.ceil" | gcd => "math.gcd"

/-- The names of a scope and their values, in the order in which they were first bound. -/
abbrev Scope := List (String × Value)

namespace Scope

/-- The value of a name. -/
def get? (scope : Scope) (name : String) : Option Value := scope.lookup name

def set (scope : Scope) (name : String) (v : Value) : Scope :=
  match scope with
  | [] => [(name, v)]
  | (n, w) :: rest => if n == name then (n, v) :: rest else (n, w) :: set rest name v

def has (scope : Scope) (name : String) : Bool := (scope.get? name).isSome

end Scope

/-- A function that a program defines. Its scope is the one in which it was defined, as it is at
the time of a call. -/
structure Function where
  name : String
  params : List String
  defaults : Scope
  body : List Source.Line
  scope : Nat

/-- A class as far as it is simulated: one field with a default value. -/
structure Template where
  name : String
  parent : Option String
  field : String
  default : Value

/-- An object of a class template. -/
structure Object where
  template : Nat
  fields : Scope

end SnippetGrader
