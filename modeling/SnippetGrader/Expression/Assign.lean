import SnippetGrader.Expression.Target
import SnippetGrader.Machine.Engine
import SnippetGrader.Value.Slice
import SnippetGrader.Value.Text

/-!
# Assignment

`assign` binds a value to a target. The expressions inside a target are evaluated when the
assignment reaches them, so an assignment to several targets may fail after some of them are
bound.
-/

namespace SnippetGrader.Expression

open Run

/-- The items of a sequence that is assigned to `count` targets. -/
def unpacked (count : Nat) (v : Value) : Run (List Value) := do
  let xs ← match v with
    | .list ref => pure (← items ref).toList
    | .str t => pure (t.toList.map fun c => Value.str c.toString)
    | v => fail (.type ("cannot unpack non-iterable " ++ (← typeName v) ++ " object"))
  if xs.length < count then
    fail (.value ("not enough values to unpack (expected " ++ toString count ++ ", got " ++
      toString xs.length ++ ")"))
  if xs.length > count then
    fail (.value ("too many values to unpack (expected " ++ toString count ++ ")"))
  return xs

def storeItem (e : Engine) (scope : Nat) (object index : List Char) (v : Value) : Run Unit := do
  match ← e.eval scope object with
  | .list ref =>
    match ← e.eval scope index with
    | .int i =>
      match position? (← items ref).size i with
      | some j => modifyStore fun s => { s with lists := s.lists.modify ref (·.setIfInBounds j v) }
      | none => fail (.index "list assignment index out of range")
    | key => fail (.type ("list indices must be integers, not " ++ (← typeName key)))
  | object =>
    fail (.type ("'" ++ (← typeName object) ++ "' object does not support item assignment"))

def storeField (e : Engine) (scope : Nat) (object : List Char) (name : String) (v : Value) :
    Run Unit := do
  match ← e.eval scope object with
  | .object ref => setField ref name v
  | object =>
    fail (.missing ("cannot set attribute '" ++ name ++ "' on '" ++ (← typeName object) ++
      "' object"))

mutual

/-- Binds a value to a target. -/
def assign (e : Engine) (scope : Nat) : Target → Value → Run Unit
  | .name n, v => bindName scope n v
  | .items targets, v => do assignEach e scope targets (← unpacked targets.length v)
  | .item object index, v => storeItem e scope object index v
  | .field object name, v => storeField e scope object name v
  | .other text, _ =>
    fail (.form ("cannot assign to expression '" ++ String.ofList text ++ "'"))

def assignEach (e : Engine) (scope : Nat) : List Target → List Value → Run Unit
  | target :: targets, v :: vs => do
    assign e scope target v
    assignEach e scope targets vs
  | _, _ => return

end

end SnippetGrader.Expression
