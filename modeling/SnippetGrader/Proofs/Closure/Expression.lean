import SnippetGrader.Proofs.Closure.Builtin

/-!
# What the value of an expression refers to

Evaluation above an engine that only adds things only adds things itself. Names, items and fields
give values that were held, literals give values without references, and everything else comes from
the engine or from a function.
-/

namespace SnippetGrader

open Text Source

namespace Keeps

variable {S : Store} {C : Prop} {v : Value}


theorem unpacked (count : Nat) (v : Value) :
    Keeps S C (Value.AllWithin S) (Expression.unpacked count v) := by
  have rest {C : Prop} {xs : List Value} (h : C → Value.AllWithin S xs) :
      Keeps S C (Value.AllWithin S) (do
        if xs.length < count then
          Run.fail (.value ("not enough values to unpack (expected " ++ toString count ++ ", got " ++
            toString xs.length ++ ")"))
        if xs.length > count then
          Run.fail (.value ("too many values to unpack (expected " ++ toString count ++ ")"))
        return xs : Run (List Value)) :=
    .checked (fail _) fun _ => .checked (fail _) fun _ => pure h
  unfold Expression.unpacked
  cases v with
  | list ref =>
    exact .bind items fun _ => .bind (pure fun h v hv => h.2 v (Array.mem_toList_iff.1 hv)) fun _ =>
      rest And.right
  | str t => exact .bind (pure fun _ => characters_within t) fun _ => rest And.right
  | _ => exact .seq typeName fun _ => .bind (fail _) fun _ => rest And.right

/-! ## Values that are found -/

theorem some_within (hv : v.Within S) : ∀ w ∈ some v, w.Within S :=
  fun _ hw => Option.some.inj hw ▸ hv

/-- A value that was found. -/
theorem found {x : Run Value} (hx : Keeps S C (Value.Within S) x) :
    Keeps S C (fun o => ∀ v ∈ o, v.Within S) (some <$> x) :=
  map some hx fun _ _ => some_within

section Engine

variable {e : Engine} (he : e.Keeps S)
include he

/-! ## Assignment -/

theorem storeItem (scope : Nat) (object index : List Char) (hv : C → v.Within S) :
    Keeps S C (fun _ => True) (Expression.storeItem e scope object index v) := by
  unfold Expression.storeItem
  refine .seq he.eval fun o => ?_
  cases o with
  | list ref =>
    refine .seq he.eval fun key => ?_
    cases key with
    | int i =>
      refine .seq items fun xs => ?_
      cases position? xs.size i with
      | none => exact fail _
      | some j => exact modifyItems fun hC _ hxs => forall_mem_setIfInBounds hxs (hv hC)
    | _ => exact .seq typeName fun _ => fail _
  | _ => exact .seq typeName fun _ => fail _

theorem storeField (scope : Nat) (object : List Char) (name : String) (hv : C → v.Within S) :
    Keeps S C (fun _ => True) (Expression.storeField e scope object name v) := by
  unfold Expression.storeField
  refine .seq he.eval fun o => ?_
  cases o with
  | object ref => exact setField hv
  | _ => exact .seq typeName fun _ => fail _

omit he in
theorem assignEach (scope : Nat) {targets : List Expression.Target}
    (h : ∀ t ∈ targets, ∀ {C : Prop} {v : Value}, (C → v.Within S) →
      Keeps S C (fun _ => True) (Expression.assign e scope t v))
    {vs : List Value} (hvs : C → Value.AllWithin S vs) :
    Keeps S C (fun _ => True) (Expression.assignEach e scope targets vs) := by
  induction targets generalizing vs with
  | nil =>
    simp only [Expression.assignEach]
    exact pure fun _ => trivial
  | cons t ts ih =>
    cases vs with
    | nil =>
      simp only [Expression.assignEach]
      exact pure fun _ => trivial
    | cons v vs =>
      simp only [Expression.assignEach]
      exact .seq (h t List.mem_cons_self fun hC => hvs hC v List.mem_cons_self) fun _ =>
        ih (fun t ht => h t (List.mem_cons_of_mem _ ht)) fun hC =>
          (List.forall_mem_cons.1 (hvs hC)).2

theorem assign (scope : Nat) (t : Expression.Target) {C : Prop} {v : Value}
    (hv : C → v.Within S) : Keeps S C (fun _ => True) (Expression.assign e scope t v) := by
  cases t with
  | name n =>
    simp only [Expression.assign]
    exact bindName hv
  | items targets =>
    simp only [Expression.assign]
    exact .bind (unpacked _ v) fun vs => assignEach scope
      (fun t _ {C v} hv => assign scope t hv) And.right
  | item object index =>
    simp only [Expression.assign]
    exact storeItem he scope object index hv
  | field object name =>
    simp only [Expression.assign]
    exact storeField he scope object name hv
  | other text =>
    simp only [Expression.assign]
    exact fail _
termination_by t

/-! ## Comprehensions and arguments -/

theorem meets (scope : Nat) (condition : Option (List Char)) :
    Keeps S C (fun _ => True) (Expression.meets e scope condition) := by
  cases condition with
  | none => exact pure fun _ => trivial
  | some t => exact .seq he.eval fun _ => truthy

theorem elements (scope : Nat) (c : Expression.Comprehension) (target : Expression.Target)
    {done : Array Value} {vs : List Value} (hdone : C → ∀ v ∈ done, v.Within S)
    (hvs : C → Value.AllWithin S vs) : Keeps S C (fun ws => ∀ v ∈ ws, v.Within S)
      (Expression.elements e scope c target done vs) := by
  induction vs generalizing C done with
  | nil => exact pure hdone
  | cons v vs ih =>
    have hrest (hC : C) : Value.AllWithin S vs := (List.forall_mem_cons.1 (hvs hC)).2
    unfold Expression.elements
    refine .seq (assign he scope target fun hC => hvs hC v List.mem_cons_self) fun _ =>
      .seq (meets he scope _) fun b => ite ?_ (ih hdone hrest)
    exact .bind he.eval fun w => ih (fun h => Array.forall_mem_push.2 ⟨h.2, hdone h.1⟩)
      fun h => hrest h.1

theorem comprehend (scope : Nat) (c : Expression.Comprehension) :
    Keeps S C (Value.Within S) (Expression.comprehend e scope c) :=
  .seq he.eval fun v => .bind (iterate (v := v)) fun _ => .bind Keeps.scope fun _ =>
    .seq (newScope And.right) fun inner =>
      .bind (elements he inner c _ (fun _ => nofun) fun h => h.1.2) fun _ =>
        .checked (fail _) fun _ => newList And.right

/-- Arguments that are evaluated after others. -/
theorem argumentsFrom (scope : Nat) (parts : List (List Char)) {args : List Value}
    {keywords : Keywords} (hargs : C → Value.AllWithin S args)
    (hkeywords : C → Scope.Within S keywords) :
    Keeps S C (fun p => Value.AllWithin S p.1 ∧ Scope.Within S p.2)
      (Expression.argumentsFrom e scope args keywords parts) := by
  induction parts generalizing C args keywords with
  | nil => exact pure fun hC => ⟨hargs hC, hkeywords hC⟩
  | cons part parts ih =>
    unfold Expression.argumentsFrom
    refine ite (ih hargs hkeywords) ?_
    cases keywordArgument? part with
    | some p =>
      exact .bind he.eval fun v => ih (fun h => hargs h.1) fun h => (hkeywords h.1).set h.2
    | none =>
      refine ite (.seq he.eval fun v => .bind (iterate (v := v)) fun more => ?_)
        (.bind he.eval fun v => ?_)
      · exact ih (fun h => List.forall_mem_append.2 ⟨hargs h.1, h.2⟩) fun h => hkeywords h.1
      · exact ih (fun h => List.forall_mem_append.2 ⟨hargs h.1, List.forall_mem_singleton.2 h.2⟩)
          fun h => hkeywords h.1

theorem arguments (scope : Nat) (text : List Char) :
    Keeps S C (fun p => Value.AllWithin S p.1 ∧ Scope.Within S p.2)
      (Expression.arguments e scope text) := by
  unfold Expression.arguments
  dsimp only
  split
  · exact .bind (comprehend he scope _) fun v =>
      pure fun h => ⟨List.forall_mem_singleton.2 h.2, .nil⟩
  · exact argumentsFrom he scope _ (fun _ => nofun) fun _ => .nil

/-! ## Literals -/

theorem evaluateEach (scope : Nat) (parts : List (List Char)) :
    Keeps S C (Value.AllWithin S) (Expression.evaluateEach e scope parts) :=
  mapM fun _ _ => he.eval

omit he in
theorem format (v : Value) (spec : List Char) : Keeps S C (fun _ => True)
    (Run.onFailure (do Run.ofStop (v.format (← Run.store) spec)) fun f =>
      Run.fail (Expression.asFormatFailure f) : Run String) :=
  onFailure (.seq store fun _ => ofStop _) fun _ => fail _

theorem fieldText (scope : Nat) (field : Expression.Field) :
    Keeps S C (fun _ => True) (Expression.fieldText e scope field) := by
  unfold Expression.fieldText
  have shown (v : Value) : Keeps S C (fun _ => True) (Value.str <$> Run.repr v) :=
    map _ repr fun _ _ _ => trivial
  refine .seq he.eval fun v => ?_
  split
  · exact .seq (shown v) fun w => format w _
  · exact .seq (shown v) fun w => format w _
  · exact .seq (P := fun _ => True) (pure fun _ => trivial) fun w => format w _

theorem readPart (scope : Nat) (raw : Bool) (piece : Expression.Piece) :
    Keeps S C (fun _ => True) (Expression.readPart e scope raw piece) := by
  cases piece with
  | text cs => exact ite (pure fun _ => trivial) (check _)
  | field cs => exact map _ (fieldText he scope _) fun _ _ _ => trivial
  | unclosed => exact fail _

theorem listValue (scope : Nat) (inner : List Char) :
    Keeps S C (Value.Within S) (Expression.listValue e scope inner) := by
  unfold Expression.listValue
  cases Expression.comprehension? inner with
  | some c => exact comprehend he scope c
  | none => exact .bind (evaluateEach he scope _) fun _ => newListOf And.right

omit he in
theorem plainString (o : Literal.Opening) (text : List Char) :
    Keeps S C (Value.Within S) (Literal.stringValue o text) := by
  unfold Literal.stringValue
  cases Literal.decode? o text with
  | none => exact pure fun _ => trivial
  | some cs =>
    refine ite (newListOf fun _ v hv => ?_) (pure fun _ => trivial)
    obtain ⟨c, -, rfl⟩ := List.mem_map.1 hv
    trivial

theorem stringValue (scope : Nat) (o : Literal.Opening) (text : List Char) :
    Keeps S C (Value.Within S) (Expression.stringValue e scope o text) :=
  ite (.seq (mapM fun piece _ => readPart he scope _ piece) fun _ => .seq (check _) fun _ =>
    pure fun _ => trivial) (plainString o text)

theorem literal? (scope : Nat) (text : List Char) :
    Keeps S C (fun o => ∀ v ∈ o, v.Within S) (Expression.literal? e scope text) := by
  unfold Expression.literal?
  split
  · exact pure fun _ => some_within (v := .none) trivial
  · exact pure fun _ => some_within (v := .bool true) trivial
  · exact pure fun _ => some_within (v := .bool false) trivial
  · split
    · next number h => exact found (ofExcept fun _ => numberValue?_within h)
    · split
      · exact found (stringValue he scope _ text)
      · exact ite (found (listValue he scope _)) (pure fun _ => nofun)

/-! ## Chains -/

omit he in
theorem printPart (keywords : Keywords) (name default : String) : Keeps S C (fun _ => True)
    (match keywords.lookup name with
      | none | some .none => return default
      | some v => Run.display v : Run String) := by
  split
  · exact pure fun _ => trivial
  · exact pure fun _ => trivial
  · exact display

omit he in
theorem print (args : List Value) (keywords : Keywords) :
    Keeps S C (fun _ => True) (Expression.print args keywords) :=
  .seq (printPart keywords "sep" " ") fun _ => .seq (printPart keywords "end" "\n") fun _ =>
    .seq (mapM fun _ _ => display) fun _ => write

theorem callNamed? (scope : Nat) (name : String) (text : List Char) :
    Keeps S C (fun o => ∀ v ∈ o, v.Within S) (Expression.callNamed? e scope name text) := by
  have args {C : Prop} := arguments he (C := C) scope text
  unfold Expression.callNamed?
  refine .seq get fun m => ite ?_ (ite ?_ ?_)
  · exact .seq args fun p => .seq (print _ _) fun _ => pure fun _ => some_within (v := .none) trivial
  · exact .seq args fun _ => found readInput
  · cases Builtin.ofName? name with
    | none => exact pure fun _ => nofun
    | some f =>
      exact .bind args fun p => found (guardCall (invoke he f (fun h => h.2.1) fun h => h.2.2))

theorem subscript (scope : Nat) (text : List Char) (hv : C → v.Within S) :
    Keeps S C (Value.Within S) (Expression.subscript e scope v text) := by
  have bound (p : List Char) : Keeps S C (fun _ => True)
      (if p.isEmpty then return .none else e.eval scope p : Run Value) :=
    ite (pure fun _ => trivial) (he.eval.mono fun _ _ _ => trivial)
  unfold Expression.subscript
  refine ite (.seq typeName fun _ => failed _ _) ?_
  split
  · exact .seq (bound _) fun _ => .seq (bound _) fun _ => .seq (bound _) fun _ => slice hv _ _ _
  · exact .seq he.eval fun key => item v key

theorem follow (scope : Nat) (trailers : List Expression.Trailer) (hv : C → v.Within S) :
    Keeps S C (Value.Within S) (Expression.follow e scope v trailers) := by
  have args {C : Prop} (text : List Char) := arguments he (C := C) scope text
  induction v, trailers using Expression.follow.induct generalizing C with
  | case1 v => exact pure hv
  | case2 v name text rest ih =>
    rw [Expression.follow]
    exact .bind (args text) fun p =>
      .bind (callMethod he v name (fun h => h.2.1) fun h => h.2.2) fun w => ih w And.right
  | case3 v name rest hcall ih =>
    rw [Expression.follow]
    · exact .bind (attributeOf v name) fun w => ih w And.right
    · exact hcall
  | case4 v text rest ih =>
    rw [Expression.follow]
    exact .bind (args text) fun p =>
      .bind (callValue he v (fun h => h.2.1) fun h => h.2.2) fun w => ih w And.right
  | case5 v text rest ih =>
    rw [Expression.follow]
    exact .bind (subscript he scope text hv) fun w => ih w And.right

theorem builtinChain? (scope : Nat) (name : String) (trailers : List Expression.Trailer) :
    Keeps S C (fun o => ∀ v ∈ o, v.Within S) (match Builtin.ofName? name with
      | some f => some <$> Expression.follow e scope (.builtin f) trailers
      | none => return none : Run (Option Value)) := by
  cases Builtin.ofName? name with
  | none => exact pure fun _ => nofun
  | some f => exact found (follow he (v := .builtin f) scope trailers fun _ => trivial)

theorem namedChain? (scope : Nat) (name : String) (trailers : List Expression.Trailer) :
    Keeps S C (fun o => ∀ v ∈ o, v.Within S) (Expression.namedChain? e scope name trailers) := by
  unfold Expression.namedChain?
  refine .bind lookup? fun named => ?_
  cases named with
  | some v => exact found (follow he scope trailers fun h => h.2 v rfl)
  | none =>
    have hbuiltin {C : Prop} := builtinChain? he (C := C) scope name trailers
    cases trailers with
    | nil => exact hbuiltin
    | cons t rest =>
      cases t with
      | call text =>
        refine .bind (callNamed? he scope name text) fun result => ?_
        cases result with
        | none => exact pure fun _ => nofun
        | some v => exact found (follow he scope rest fun h => h.2 v rfl)
      | _ => exact hbuiltin

theorem chainValue? (scope : Nat) (text : List Char) :
    Keeps S C (fun o => ∀ v ∈ o, v.Within S) (Expression.chainValue? e scope text) := by
  unfold Expression.chainValue?
  split
  · exact pure fun _ => nofun
  · exact found he.eval
  · exact pure fun _ => nofun
  · exact namedChain? he scope _ _
  · exact .bind he.eval fun v => found (follow he scope _ And.right)
  · exact .bind he.eval fun v => found (follow he scope _ And.right)

/-! ## Names, lists without brackets and operators -/

omit he in
theorem nameValue? (scope : Nat) (text : List Char) :
    Keeps S C (fun o => ∀ v ∈ o, v.Within S) (Expression.nameValue? scope text) := by
  unfold Expression.nameValue?
  refine ite (.bind lookup? fun named => ?_) (pure fun _ => nofun)
  cases named with
  | none =>
    refine pure fun _ v hv => ?_
    obtain ⟨f, -, rfl⟩ := Option.map_eq_some_iff.1 hv
    trivial
  | some v => exact pure fun h => some_within (h.2 v rfl)

theorem tupleValue? (scope : Nat) (text : List Char) :
    Keeps S C (fun o => ∀ v ∈ o, v.Within S) (Expression.tupleValue? e scope text) := by
  unfold Expression.tupleValue?
  split
  · exact .bind (evaluateEach he scope _) fun _ => .bind (newListOf And.right) fun _ =>
      pure fun h => some_within h.2
  · exact pure fun _ => nofun

theorem parametersFrom (scope : Nat) (parts : List (List Char)) (params : List String)
    {defaults : Scope} (hdefaults : C → defaults.Within S) :
    Keeps S C (fun p => p.2.Within S)
      (Expression.parametersFrom e scope params defaults parts) := by
  induction parts generalizing C params defaults with
  | nil => exact pure hdefaults
  | cons part parts ih =>
    unfold Expression.parametersFrom
    refine ite (ih _ hdefaults) ?_
    cases cutAround? part ['='] with
    | none => exact ih _ hdefaults
    | some p => exact .bind he.eval fun v => ih _ fun h => (hdefaults h.1).set h.2

theorem parameters (scope : Nat) (text : List Char) :
    Keeps S C (fun p => p.2.Within S) (Expression.parameters e scope text) :=
  parametersFrom he scope _ [] fun _ => .nil

theorem makeLambda (scope : Nat) (params body : List Char) :
    Keeps S C (Value.Within S) (Expression.makeLambda e scope params body) :=
  .bind (parameters he scope params) fun _ => .seq get fun _ => newFunction fun h => h.2

theorem formValue (scope : Nat) (text : List Char) (f : Expression.Form) :
    Keeps S C (Value.Within S) (Expression.formValue e scope text f) := by
  cases f with
  | lambda params body =>
    exact .seq get fun m => ite (makeLambda he scope params body) (pure fun _ => trivial)
  | conditional condition yes no =>
    exact .seq he.eval fun v => .seq truthy fun b => ite he.eval he.eval
  | either left right =>
    exact .bind he.eval fun v => .seq truthy fun b => ite (pure And.right) he.eval
  | both left right =>
    exact .bind he.eval fun v => .seq truthy fun b => ite he.eval (pure And.right)
  | negation operand =>
    exact .seq he.eval fun v => .seq truthy fun b => pure fun _ => trivial
  | comparison c left right =>
    exact .seq he.eval fun v => .seq he.eval fun w => .seq (compareBy c v w) fun _ =>
      pure fun _ => trivial
  | binary op left right =>
    exact .bind he.eval fun v => .bind he.eval fun w => operate op (fun h => h.1.2) And.right
  | signed negative operand =>
    refine .bind he.eval fun v => .seq store fun s => .seq (check _) fun number => ?_
    split
    · exact pure And.right
    · exact fresh fun _ => Num.toValue_within _

/-- Evaluation above an engine that only adds things only adds things. -/
theorem evaluate (scope : Nat) (text : List Char) :
    Keeps S C (Value.Within S) (Expression.evaluate e scope text) := by
  unfold Expression.evaluate
  refine ite (pure fun _ => trivial) (.bind (literal? he scope _) fun v => ?_)
  cases v with
  | some v => exact pure fun h => h.2 v rfl
  | none =>
    refine .bind (chainValue? he scope _) fun v => ?_
    cases v with
    | some v => exact pure fun h => h.2 v rfl
    | none =>
      refine .bind (nameValue? scope _) fun v => ?_
      cases v with
      | some v => exact pure fun h => h.2 v rfl
      | none =>
        refine .bind (tupleValue? he scope _) fun v => ?_
        cases v with
        | some v => exact pure fun h => h.2 v rfl
        | none =>
          cases Expression.form? (trim text) with
          | none => exact pure fun _ => trivial
          | some f => exact formValue he scope _ f

end Engine

end Keeps

end SnippetGrader
