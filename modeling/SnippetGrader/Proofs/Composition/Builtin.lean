import SnippetGrader.Proofs.Composition.Basic
import SnippetGrader.Proofs.Failures.Statement

/-!
# The composition of values, functions and methods

Operators, conversions and the methods of texts work on the store alone. The functions that take
a function as an argument ask the engine to call it with one item at a time, and nothing else; a
function that was itself called with one item asks for nothing. So calls that functions make of
each other are nested at most once before a function of the program is reached.
-/

namespace SnippetGrader

def Reach.nothing : Reach :=
  ⟨fun _ => False, fun _ _ => False, fun _ => False, fun _ => False, fun _ => False, False⟩

/-- Values may be called with one argument by position. -/
def Reach.callbacks : Reach :=
  ⟨fun _ => False, fun args keywords => (∃ x, args = [x]) ∧ keywords = [], fun _ => False,
    fun _ => False, fun _ => False, False⟩

namespace Composed

variable {R : Reach}

/-! ## Operators -/

theorem repeatSequence (v : Value) (count : Int) :
    Composed R fun _ => Run.repeatSequence v count := by
  unfold Run.repeatSequence
  cases v with
  | list ref => exact .bind (items ref) fun xs => bindExcept (by simp) fun _ => newList _
  | str t => exact bindExcept (by simp) fun n => pure _
  | _ => exact pure _

theorem arithmetic (op : Operator) (v w : Value) : Composed R fun _ => (do
    let s ← Run.store
    let a ← Run.ofExcept (operand s op.text v)
    let b ← Run.ofExcept (operand s op.text w)
    Run.computed (op.onNumbers a b)) :=
  .looking (fun s => by simp only [operand_bodiless]) fun _ =>
    bindExcept (by simp) fun _ => bindExcept (by simp) fun _ => computed _ (by simp)

theorem operate (op : Operator) (v w : Value) : Composed R fun _ => Run.operate op v w := by
  unfold Run.operate
  dsimp only
  split
  · exact .bind (display _) fun _ => .checked (fail _ rfl) fun _ => pure _
  · exact .bind (items _) fun _ => .bind (items _) fun _ => .checked (fail _ rfl) fun _ => newList _
  · exact .ite (fun _ => repeatSequence _ _) fun _ => arithmetic _ _ _
  · exact .ite (fun _ => repeatSequence _ _) fun _ => arithmetic _ _ _
  · exact arithmetic _ _ _

theorem plainAdd (v w : Value) : Composed R fun _ => Run.plainAdd v w := by
  unfold Run.plainAdd
  split
  · exact pure _
  · exact fail _ rfl
  · exact .bind (items _) fun _ => .bind (items _) fun _ => newList _
  · exact fail _ rfl
  · exact computed _ (by simp)

theorem plainSub (v w : Value) : Composed R fun _ => Run.plainSub v w := computed _ (by simp)

theorem compareBy (c : Value.Comparison) (v w : Value) :
    Composed R fun _ => Run.compareBy c v w :=
  .looking (fun s => by simp only [Value.compareBy_bodiless]) fun _ => ofExcept _ (by simp)

/-! ## Conversions and sequences -/

theorem sequence? (v : Value) : Composed R fun _ => Run.sequence? v := by
  unfold Run.sequence?
  cases v with
  | list ref => exact .bind (items ref) fun _ => pure _
  | _ => exact pure _

theorem iterate (v : Value) : Composed R fun _ => Run.iterate v := by
  unfold Run.iterate
  refine .bind (sequence? v) fun o => ?_
  cases o with
  | none => exact .bind (typeName v) fun _ => fail _ rfl
  | some xs => exact pure xs

theorem iteratePlain (v : Value) : Composed R fun _ => Run.iteratePlain v := by
  unfold Run.iteratePlain
  refine .bind (sequence? v) fun o => ?_
  cases o with
  | none => exact fail _ rfl
  | some xs => exact pure xs

theorem convertFloat (v : Value) : Composed R fun _ => Convert.float v := by
  unfold Convert.float
  cases v with
  | nan ref => exact pure _
  | _ => exact computed _ (by simp)

theorem convertList (v : Value) : Composed R fun _ => Convert.list v := by
  unfold Convert.list
  split
  · exact newList _
  · refine .bind (sequence? _) fun o => ?_
    cases o with
    | none => exact newList _
    | some xs => exact newList _

theorem newTextList (xs : List (List Char)) : Composed R fun _ => Run.newTextList xs := newList _

theorem newLists (groups : List (List Value)) : Composed R fun _ => Sequence.newLists groups :=
  .bind (mapM groups fun _ _ => newList _) fun _ => newList _

theorem len (v : Value) : Composed R fun _ => Sequence.len v := by
  unfold Sequence.len
  cases v with
  | list ref => exact .bind (items ref) fun _ => pure _
  | str t => exact pure _
  | _ => exact .bind (typeName _) fun _ => fail _ rfl

theorem anyItem (v : Value) : Composed R fun _ => Sequence.any v :=
  .bind (iterate v) fun _ =>
    .looking (fun s => by simp only [Value.truthy_bodiless]) fun _ => pure _

theorem allItems (v : Value) : Composed R fun _ => Sequence.all v :=
  .bind (iterate v) fun _ =>
    .looking (fun s => by simp only [Value.truthy_bodiless]) fun _ => pure _

theorem range (args : List Value) : Composed R fun _ => Sequence.range args :=
  bindExcept (by simp) fun _ => .checked (fail _ rfl) fun _ => .checked (fail _ rfl) fun _ =>
    newList _

theorem enumerate (v start : Value) : Composed R fun _ => Sequence.enumerate v start :=
  .bind (iterate v) fun _ => bindExcept (by simp) fun _ => newLists _

theorem zip (args : List Value) : Composed R fun _ => Sequence.zip args :=
  .bind (mapM args fun v _ => iterate v) fun _ => newLists _

theorem reversed (v : Value) : Composed R fun _ => Sequence.reversed v :=
  .bind (iterate v) fun _ => newList _

theorem sum (v start : Value) : Composed R fun _ => Sequence.sum v start := by
  unfold Sequence.sum
  refine .bind (iteratePlain v) fun xs => ?_
  split
  · exact fail _ rfl
  · refine .bind (foldlM (fun v w => plainAdd v w) xs _) fun total => ?_
    cases total with
    | nan ref => exact newNan
    | _ => exact pure _

/-- What follows a sort knows that no line is noted on the failure of a comparison. -/
theorem sortByKey {α : Type} (descending : Bool) (pairs : List (Value × Value))
    {k : Sorting.Outcome Failure Value → Engine → Run α}
    (hk : ∀ o, (∀ f ∈ o.failure, f.Unplaced) → Composed R (k o)) :
    Composed R fun e => Sequence.sortByKey descending pairs >>= fun o => k o e := by
  let sortedOn (s : Store) : Sorting.Outcome Failure Value :=
    let o := Sorting.sort (fun a b => Value.relate s .lt a.1 b.1) descending pairs
    { items := o.items.map (·.2), failure := o.failure }
  refine looking (f := fun s e => k (sortedOn s) e) (fun s => ?_) fun s => hk _ ?_
  · simp only [sortedOn, Value.relate_bodiless]
  · exact Sorting.sort_failure (fun a b => by simp) descending pairs

def sortEnded (ref : Nat) (xs : Array Value) (s : Store) : Store :=
  { s with lists := s.lists.setIfInBounds ref xs, sorting := s.sorting.tail }

/-- Whether items were put into a list while it was sorted. -/
def sortTouched (s : Store) : Bool := (s.sorting.head?.map (·.2)).getD false

theorem endSort (ref : Nat) (xs : Array Value) : Composed R fun _ => Run.endSort ref xs :=
  apart (fun s => (.ok (sortTouched s), sortEnded ref xs s)) (fun _ => ⟨rfl, rfl, rfl⟩)
    fun _ => trivial

/-! ## Functions that call a function

Without a key nothing is called, so what the engine must allow depends on the key. -/

theorem keyed (key : Value) (xs : List Value) (hR : key ≠ .none → ∀ x, R.calls [x] []) :
    Composed R fun e => Sequence.keyed e key xs := by
  unfold Sequence.keyed
  cases key with
  | none => exact pure _
  | _ => exact mapM xs fun x _ => .bind (.apply _ [x] [] (hR nofun x)) fun _ => pure _

theorem sorted (v reverse key : Value) (hR : key ≠ .none → ∀ x, R.calls [x] []) :
    Composed R fun e => Sequence.sorted e v reverse key := by
  unfold Sequence.sorted
  refine .bind (iterate v) fun xs => bindExcept (by simp) fun n =>
    .bind (keyed key xs hR) fun pairs => sortByKey _ _ fun o ho => ?_
  cases h : o.failure with
  | none => exact newList _
  | some f => exact fail f (ho f h)

theorem bestByKey (x : Sequence.Extreme) (key : Value) (best : Value × Value) (vs : List Value)
    (hR : ∀ x, R.calls [x] []) : Composed R fun e => Sequence.bestByKey e x key best vs := by
  induction vs generalizing best with
  | nil => exact pure _
  | cons v vs ih =>
    unfold Sequence.bestByKey
    refine .bind (.apply key [v] [] (hR v)) fun k =>
      .looking (fun s => by simp only [Value.relate_bodiless]) fun s =>
        bindExcept (by simp) fun b => ?_
    exact .ite (fun _ => ih (k, v)) fun _ => ih best

theorem bestItem (x : Sequence.Extreme) (key : Value) (default : Option Value) (xs : List Value)
    (hR : key ≠ .none → ∀ x, R.calls [x] []) :
    Composed R fun e => (match xs, key, default with
      | [], _, some v => Pure.pure v
      | [], _, none => Run.fail (.value (x.name ++ "() arg is an empty sequence"))
      | v :: rest, .none, _ => do
        Run.ofExcept (Sequence.bestOf (← Run.store) x (v, v) (rest.map fun w => (w, w)))
      | v :: rest, key, _ => do
        Sequence.bestByKey e x key (← e.apply key [v] [], v) rest) := by
  cases xs with
  | nil =>
    cases default with
    | none => exact fail _ rfl
    | some v => exact pure v
  | cons v rest =>
    cases key with
    | none =>
      exact .looking (fun s => by simp only [Sequence.bestOf_bodiless]) fun _ => ofExcept _ (by simp)
    | _ => exact .bind (.apply _ [v] [] (hR nofun v)) fun _ => bestByKey x _ _ rest (hR nofun)

section Callbacks

variable (hR : ∀ x, R.calls [x] [])
include hR

theorem mapItems (f v : Value) : Composed R fun e => Sequence.map e f v :=
  .bind (iterate v) fun xs => .bind (mapM xs fun x _ => .apply f [x] [] (hR x)) fun _ => newList _

theorem filterItems (f v : Value) : Composed R fun e => Sequence.filter e f v := by
  unfold Sequence.filter
  refine .bind (iterate v) fun xs => .bind (filterM (fun x => ?_) xs) fun _ => newList _
  cases f with
  | none => exact truthy x
  | _ => exact .bind (.apply _ [x] [] (hR x)) fun _ => truthy _

theorem extreme (x : Sequence.Extreme) (args : List Value) (keywords : Keywords) :
    Composed R fun e => Sequence.extreme e x args keywords := by
  unfold Sequence.extreme
  refine .checked (fail _ rfl) fun _ => bindExcept (by simp) fun bound =>
    .checked (fail _ rfl) fun _ => ?_
  obtain _ | ⟨v, _ | ⟨w, vs⟩⟩ := args
  · exact .bind (pure _) fun xs => bestItem x _ _ xs fun _ => hR
  · exact .bind (iteratePlain v) fun xs => bestItem x _ _ xs fun _ => hR
  · exact .bind (pure _) fun xs => bestItem x _ _ xs fun _ => hR

theorem invokeBound (f : Builtin) (arg : Nat → Value → Value) (rest : List Value) :
    Composed R fun e => f.invokeBound e arg rest := by
  unfold Builtin.invokeBound
  cases f with
  | len => exact len _
  | str => exact .bind (display _) fun _ => pure _
  | list => exact convertList _
  | int => exact ofExcept _ (by simp)
  | float => exact convertFloat _
  | bool => exact .bind (truthy _) fun _ => pure _
  | any => exact anyItem _
  | all => exact allItems _
  | range => exact range _
  | enumerate => exact enumerate _ _
  | zip => exact zip _
  | sorted => exact sorted _ _ _ fun _ => hR
  | reversed => exact reversed _
  | map => exact mapItems hR _ _
  | filter => exact filterItems hR _ _
  | _ => exact pure _

theorem invoke (f : Builtin) (args : List Value) (keywords : Keywords) :
    Composed R fun e => f.invoke e args keywords := by
  unfold Builtin.invoke
  cases f with
  | ord => exact ofExcept _ (by simp)
  | chr => exact ofExcept _ (by simp)
  | abs => exact computed _ (by simp)
  | sum => exact bindExcept (by simp) fun _ => sum _ _
  | min => exact extreme hR .least args keywords
  | max => exact extreme hR .greatest args keywords
  | round => exact bindExcept (by simp) fun _ => computed _ (by simp)
  | _ => exact bindExcept (by simp) fun p => invokeBound hR _ _ p.2

theorem sort (ref : Nat) (args : List Value) (keywords : Keywords) :
    Composed R fun e => ListMethod.sort e ref args keywords := by
  unfold ListMethod.sort
  refine bindExcept (by simp) fun bound => bindExcept (by simp) fun n => .bind (items ref) fun xs =>
    .bind (beginSort ref) fun _ => .bind ?keys fun pairs => sortByKey _ _ fun o ho =>
      .bind (endSort ref _) fun touched => ?done
  case keys =>
    exact .undoing (keyed _ _ fun _ => hR) sortTouched (sortEnded ref xs)
      (.of_apart fun _ => ⟨rfl, rfl, rfl⟩) fun _ => rfl
  case done =>
    cases h : o.failure with
    | some f => exact fail f (ho f h)
    | none => exact .checked (fail _ rfl) fun _ => pure _

end Callbacks

theorem append (ref : Nat) (args : List Value) (keywords : Keywords) :
    Composed R fun _ => ListMethod.append ref args keywords :=
  bindExcept (by simp) fun _ => .bind (growList ref _) fun _ => pure _

theorem extend (ref : Nat) (args : List Value) (keywords : Keywords) :
    Composed R fun _ => ListMethod.extend ref args keywords :=
  bindExcept (by simp) fun _ => .bind (iteratePlain _) fun _ =>
    .checked (growList ref _) fun _ => pure _

theorem pop (ref : Nat) (args : List Value) (keywords : Keywords) :
    Composed R fun _ => ListMethod.pop ref args keywords := by
  unfold ListMethod.pop
  refine bindExcept (by simp) fun _ => bindExcept (by simp) fun _ => bindExcept (by simp) fun i =>
    .bind (items ref) fun xs => .checked (fail _ rfl) fun _ => ?_
  cases position? xs.size i with
  | none => exact fail _ rfl
  | some j =>
    exact .bind (items ref) fun _ => .bind (modifyStore _ fun _ => ⟨rfl, rfl, rfl⟩) fun _ => pure _

theorem insert (ref : Nat) (args : List Value) (keywords : Keywords) :
    Composed R fun _ => ListMethod.insert ref args keywords :=
  bindExcept (by simp) fun _ => bindExcept (by simp) fun _ => bindExcept (by simp) fun _ =>
    .bind (items ref) fun _ => .bind (growList ref _) fun _ => pure _

theorem index (ref : Nat) (args : List Value) (keywords : Keywords) :
    Composed R fun _ => ListMethod.index ref args keywords := by
  unfold ListMethod.index
  refine bindExcept (by simp) fun _ => bindExcept (by simp) fun _ =>
    bindExcept (by simp) fun start => bindExcept (by simp) fun stop => .bind (items ref) fun xs =>
      .looking (fun s => by simp only [ListMethod.findEqual_bodiless]) fun s =>
      bindExcept (by simp) fun o => ?_
  cases o with
  | none => exact .bind (repr _) fun _ => fail _ rfl
  | some i => exact pure _

theorem count (ref : Nat) (args : List Value) (keywords : Keywords) :
    Composed R fun _ => ListMethod.count ref args keywords :=
  bindExcept (by simp) fun _ =>
    .looking (fun s => by simp only [ListMethod.countEqual_bodiless]) fun _ =>
    .bind (items ref) fun _ =>
    bindExcept (by simp) fun _ => pure _

theorem remove (ref : Nat) (args : List Value) (keywords : Keywords) :
    Composed R fun _ => ListMethod.remove ref args keywords := by
  unfold ListMethod.remove
  refine bindExcept (by simp) fun v => .bind (items ref) fun xs =>
    .looking (fun s => by simp only [ListMethod.findEqual_bodiless]) fun s =>
    bindExcept (by simp) fun o => ?_
  cases o with
  | none => exact fail _ rfl
  | some i => exact .bind (setItems ref _) fun _ => pure _

theorem reverse (ref : Nat) (args : List Value) (keywords : Keywords) :
    Composed R fun _ => ListMethod.reverse ref args keywords :=
  bindExcept (by simp) fun _ => .bind (items ref) fun _ => .bind (setItems ref _) fun _ => pure _

theorem split (self : List Char) (args : List Value) (keywords : Keywords) :
    Composed R fun _ => TextMethod.split self args keywords := by
  unfold TextMethod.split
  refine bindExcept (by simp) fun bound => bindExcept (by simp) fun n => ?_
  cases argumentAt bound 0 .none with
  | none => exact newTextList _
  | str sep => exact .checked (fail _ rfl) fun _ => newTextList _
  | _ => exact fail _ rfl

theorem join (self : Value) (args : List Value) (keywords : Keywords) :
    Composed R fun _ => TextMethod.join self args keywords := by
  unfold TextMethod.join
  refine bindExcept (by simp) fun p => .bind (iterate _) fun xs =>
    bindExcept (by simp) fun pieces => ?_
  cases self with
  | str sep => exact pure _
  | _ => exact pure _

theorem native (f : Native) (args : List Value) (keywords : Keywords) :
    Composed R fun _ => f.invoke args keywords := by
  unfold Native.invoke
  cases f with
  | decode64 => exact bindExcept (by simp) fun _ => bindExcept (by simp) fun _ => newList _
  | encode64 =>
    exact bindExcept (by simp) fun _ => .looking (fun s => by simp only [Native.bytesOf_bodiless])
      fun _ => bindExcept (by simp) fun _ => pure _
  | makeLock => exact .ite (fun _ => newLock) fun _ => fail _ rfl
  | sleep => exact bindExcept (by simp) fun _ => pure _
  | now => exact bindExcept (by simp) fun _ => lookAtClock
  | sqrt => exact computed _ (by simp)
  | floor => exact ofExcept _ (by simp)
  | ceil => exact ofExcept _ (by simp)
  | gcd => exact bindExcept (by simp) fun _ => ofExcept _ (by simp)

theorem deposit (ref : Nat) (args : List Value) (keywords : Keywords) :
    Composed R fun _ => Expression.deposit ref args keywords :=
  bindExcept (by simp) fun _ =>
    .looking (fun s => by simp only [Expression.mainField_bodiless]) fun _ =>
    .bind (plainAdd _ _) fun _ => .bind (setField ref _ _) fun _ => pure _

theorem withdraw (ref : Nat) (args : List Value) (keywords : Keywords) :
    Composed R fun _ => Expression.withdraw ref args keywords := by
  unfold Expression.withdraw
  refine bindExcept (by simp) fun amount =>
    .looking (fun s => by simp only [Expression.mainField_bodiless]) fun s =>
      .bind (compareBy _ _ _) fun b => ?_
  exact .ite (fun _ => .bind (plainSub _ _) fun _ => .bind (setField ref _ _) fun _ => pure _)
    fun _ => pure _

/-! Methods are found by name. The name decides which one it is, so the cases follow the tables. -/

theorem textMethod {name self : String} {method : List Value → Keywords → Run Value}
    (h : TextMethod.ofName? name self = some method) (args : List Value) (keywords : Keywords) :
    Composed R fun _ => method args keywords := by
  unfold TextMethod.ofName? at h
  split at h <;> cases h
  all_goals first
    | exact ofExcept _ (by simp)
    | exact split _ args keywords
    | exact join _ args keywords

theorem objectMethod {ref : Nat} {name : String} {method : List Value → Keywords → Run Value}
    (h : Expression.objectMethod? ref name = some method) (args : List Value)
    (keywords : Keywords) : Composed R fun _ => method args keywords := by
  unfold Expression.objectMethod? at h
  split at h <;> cases h
  · exact deposit ref args keywords
  · exact withdraw ref args keywords

theorem lockMethod {self : Value} {name : String} {method : List Value → Keywords → Run Value}
    (h : Expression.lockMethod? self name = some method) (args : List Value)
    (keywords : Keywords) : Composed R fun _ => method args keywords := by
  unfold Expression.lockMethod? at h
  split at h <;> cases h
  · exact bindExcept (by simp) fun _ => pure _
  · exact bindExcept (by simp) fun _ => pure _

/-- Sorting is the only method of a list that depends on the engine. -/
theorem listMethod_eq (e e' : Engine) {name : String} (hname : name ≠ "sort") (ref : Nat) :
    ListMethod.ofName? e name ref = ListMethod.ofName? e' name ref := by
  unfold ListMethod.ofName?
  split <;> first | rfl | exact absurd rfl hname

theorem listMethod {e : Engine} {name : String} {ref : Nat}
    {method : List Value → Keywords → Run Value} (hname : name ≠ "sort")
    (h : ListMethod.ofName? e name ref = some method) (args : List Value) (keywords : Keywords) :
    Composed R fun _ => method args keywords := by
  unfold ListMethod.ofName? at h
  split at h <;> cases h
  · exact append ref args keywords
  · exact pop ref args keywords
  · exact insert ref args keywords
  · exact extend ref args keywords
  · exact index ref args keywords
  · exact count ref args keywords
  · exact remove ref args keywords
  · exact absurd rfl hname
  · exact reverse ref args keywords

/-! ## Calls, attributes and items -/

theorem noAttribute {α : Type} (v : Value) (name : String) :
    Composed (α := α) R fun _ => (do Run.fail (← Expression.noAttribute v name)) := by
  change Composed R fun _ => Run.typeName v >>= fun t =>
    Run.fail (.missing ("'" ++ t ++ "' object has no attribute '" ++ name ++ "'"))
  exact .bind (typeName v) fun t => fail _ rfl

theorem attributeOf (v : Value) (name : String) :
    Composed R fun _ => Expression.attributeOf v name := by
  unfold Expression.attributeOf
  refine .looking (fun _ => rfl) fun s => ?_
  dsimp only
  split
  · exact pure _
  · exact noAttribute v name

theorem slice (v start stop step : Value) :
    Composed R fun _ => Expression.slice v start stop step := by
  unfold Expression.slice
  refine bindExcept (by simp) fun sl => ?_
  cases v with
  | list ref => exact .bind (items ref) fun _ => newList _
  | _ => exact pure _

theorem item (v key : Value) : Composed R fun _ => Expression.item v key := by
  unfold Expression.item
  cases Expression.subscriptIndex? key with
  | none => exact .bind (typeName v) fun _ => .bind (typeName key) fun _ => fail _ rfl
  | some i =>
    refine .looking (fun _ => rfl) fun s => ?_
    dsimp only
    split
    · exact pure _
    · exact .bind (typeName v) fun _ => fail _ rfl

/-- What a call of a method does once it is known which one is meant. -/
theorem callFound {o : Option (List Value → Keywords → Run Value)} (v : Value) (name : String)
    (args : List Value) (keywords : Keywords)
    (h : ∀ method, o = some method → Composed R fun _ => method args keywords) :
    Composed R fun _ => (match o with
      | some method => Run.guardCall (method args keywords)
      | none => do Run.fail (← Expression.noAttribute v name)) := by
  cases o with
  | none => exact noAttribute v name
  | some method => exact .guardCall (h method rfl)

theorem callValue (v : Value) (args : List Value) (keywords : Keywords)
    (hR : R.calls args keywords) : Composed R fun e => Expression.callValue e v args keywords :=
  .ite (fun _ => .guardCall (.apply v args keywords hR)) fun _ =>
    .bind (typeName v) fun _ => fail _ rfl

theorem callMethod (v : Value) (name : String) (args : List Value) (keywords : Keywords)
    (hR : ∀ args keywords, R.calls args keywords) :
    Composed R fun e => Expression.callMethod e v name args keywords := by
  unfold Expression.callMethod
  cases v with
  | library lib =>
    cases h : lib.attribute? name with
    | none =>
      simp only [h]
      exact fail _ rfl
    | some f => simpa only [h] using callValue f args keywords (hR args keywords)
  | list ref =>
    by_cases hname : name = "sort"
    · subst hname
      exact .guardCall (sort (fun x => hR [x] []) ref args keywords)
    · simp only [Expression.method?, listMethod_eq _ Engine.exhausted hname]
      exact callFound _ name args keywords fun _ h => listMethod hname h args keywords
  | str t => exact callFound _ name args keywords fun _ h => textMethod h args keywords
  | object ref => exact callFound _ name args keywords fun _ h => objectMethod h args keywords
  | lock ref => exact callFound _ name args keywords fun _ h => lockMethod h args keywords
  | _ => exact callFound (o := none) _ name args keywords nofun

end Composed

end SnippetGrader
