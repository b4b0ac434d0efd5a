import SnippetGrader.Text.Search
import SnippetGrader.Value.Numeric
import SnippetGrader.Value.Text

/-!
# Equality and order of values

Numbers are equal and ordered by value, texts by their characters, lists item by item. Exceptions
of one kind with one message are equal. Other values are equal only to themselves, and have no
order. Among the items of lists, the same thing counts as equal to itself without a further look,
even a result that is no number.
-/

namespace SnippetGrader

namespace Value

/-- Whether two values are the same thing, for those that a program can tell apart. Two numbers or
two texts of one content are here always the same thing; the language leaves open whether they are,
and this is one of the answers that it allows. -/
def same : Value → Value → Bool
  | none, none => true
  | bool a, bool b => a == b
  | int m, int n => m == n
  | float x, float y => x.toBits == y.toBits
  | nan a, nan b => a == b
  | complex a b, complex c d => a.toBits == c.toBits && b.toBits == d.toBits
  | str s, str t => s == t
  | list a, list b => a == b
  | undefined, undefined => true
  | lock a, lock b => a == b
  | library a, library b => a == b
  | builtin a, builtin b => a == b
  | native a, native b => a == b
  | exception a _ _, exception b _ _ => a == b
  | function a, function b => a == b
  | template a, template b => a == b
  | object a, object b => a == b
  | _, _ => false

/-- Equality of two numbers, one of which may be complex; `none` if one value is no number. -/
def numericEq? (v w : Value) : Option Bool :=
  match v, w with
  | complex a b, complex c d => some (a == c && b == d)
  | complex a b, w => (Num.ofValue? w).map fun n => b == 0 && (Num.float a).compare? n == some .eq
  | v, complex c d => (Num.ofValue? v).map fun n => d == 0 && n.compare? (Num.float c) == some .eq
  | v, w => do
    let a ← Num.ofValue? v
    let b ← Num.ofValue? w
    return a.compare? b == some .eq

/-- Lists are nested too deeply to be compared. -/
def tooNested : Failure := .recursion "maximum recursion depth exceeded in comparison"

/-- Whether an item of a list counts as equal to a value: it is the same thing, or it is equal
by `eq`. -/
def agree (eq : Value → Value → Except Failure Bool) (v w : Value) : Except Failure Bool :=
  if same v w then .ok true else eq v w

/-- Whether two lists of items agree item by item. -/
def allEqual (eq : Value → Value → Except Failure Bool) : List Value → List Value → Except Failure Bool
  | [], [] => .ok true
  | v :: vs, w :: ws => do if ← agree eq v w then allEqual eq vs ws else return false
  | _, _ => .ok false

/-- Equality of two values whose lists are nested at most `depth` deep. -/
def eqWithin (s : Store) : (depth : Nat) → Value → Value → Except Failure Bool
  | 0, _, _ => .error tooNested
  | depth + 1, v, w =>
    match v, w with
    | list a, list b =>
      if a == b then .ok true
      else if (s.items a).size != (s.items b).size then .ok false
      else allEqual (eqWithin s depth) (s.items a).toList (s.items b).toList
    | exception _ k m, exception _ l n => .ok (k == l && m == n)
    | v, w => .ok ((numericEq? v w).getD (same v w))

/-- Equality of two values. -/
def eq (s : Store) (v w : Value) : Except Failure Bool := eqWithin s s.host.nesting v w

/-- Whether an item of a list counts as equal to a value. -/
def itemEq (s : Store) (v w : Value) : Except Failure Bool := agree (eq s) v w

/-- A question about the order of two values. -/
inductive Relation where
  | lt | le | gt | ge
deriving DecidableEq, Repr

/-- How a question about the order is written. -/
def Relation.text : Relation → String
  | lt => "<" | le => "<=" | gt => ">" | ge => ">="

def Relation.holds : Relation → Ordering → Bool
  | lt, o => o == .lt
  | le, o => o != .gt
  | gt, o => o == .gt
  | ge, o => o != .lt

/-- The items of two lists from the first place on at which they differ. -/
def firstDifference (eq : Value → Value → Except Failure Bool) :
    List Value → List Value → Except Failure (List Value × List Value)
  | v :: vs, w :: ws => do
    if ← agree eq v w then firstDifference eq vs ws else return (v :: vs, w :: ws)
  | vs, ws => .ok (vs, ws)

def unordered (r : Relation) (v w : Value) : Failure :=
  .type ("'" ++ r.text ++ "' not supported between instances of '" ++ v.baseType ++ "' and '" ++
    w.baseType ++ "'")

/-- The order of two values whose lists are nested at most `depth` deep. -/
def relateWithin (s : Store) (r : Relation) : (depth : Nat) → Value → Value → Except Failure Bool
  | 0, _, _ => .error tooNested
  | depth + 1, v, w =>
    match v, w with
    | str a, str b => .ok (r.holds (Ord.compare a b))
    | list a, list b =>
      if a == b then .ok (r.holds .eq)
      else do
        match ← firstDifference (eqWithin s depth) (s.items a).toList (s.items b).toList with
        | (v :: _, w :: _) => relateWithin s r depth v w
        | (vs, ws) => return r.holds (Ord.compare vs.length ws.length)
    | v, w =>
      match Num.ofValue? v, Num.ofValue? w with
      | some a, some b => .ok (((a.compare? b).map r.holds).getD false)
      | _, _ => .error (unordered r v w)

def relate (s : Store) (r : Relation) (v w : Value) : Except Failure Bool :=
  relateWithin s r s.host.nesting v w

/-- Whether one of some items counts as equal to `v`. -/
def anyEqual (s : Store) (v : Value) : List Value → Except Failure Bool
  | [] => .ok false
  | w :: ws => do if ← itemEq s w v then return true else anyEqual s v ws

/-- A question about two values. -/
inductive Comparison where
  | eq | ne | order (r : Relation) | member | notMember | identical | distinct
deriving DecidableEq, Repr

/-- Whether a value is an item of a list or a piece of a text. -/
def isMember (s : Store) (v w : Value) : Except Failure Bool :=
  match w with
  | list ref => anyEqual s v (s.items ref).toList
  | str t =>
    match v with
    | str piece => .ok (Text.contains t.toList piece.toList)
    | v => .error (.type ("'in <string>' requires string as left operand, not " ++ v.baseType))
  | w => .error (.type ("argument of type '" ++ w.typeName s ++ "' is not iterable"))

def compareBy (s : Store) (c : Comparison) (v w : Value) : Except Failure Bool :=
  match c with
  | .eq => eq s v w
  | .ne => (! ·) <$> eq s v w
  | .order r => relate s r v w
  | .member => isMember s v w
  | .notMember => (! ·) <$> isMember s v w
  | .identical => .ok (same v w)
  | .distinct => .ok (!same v w)

end Value

end SnippetGrader
