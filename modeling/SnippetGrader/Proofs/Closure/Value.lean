import SnippetGrader.Proofs.Closure.Basic

/-!
# What results and bound arguments refer to

Most results of functions on values are numbers and texts, which refer to nothing. What a parameter
is bound to is an argument or a default, and so it is with the names of the scope in which the body
of a function runs.
-/

namespace SnippetGrader

/-! ## Results -/

section Results

variable {S : Store}

theorem Num.toValue_within (n : Num) : n.toValue.Within S := by
  cases n <;> trivial

theorem Convert.int_within (v base : Value) : Yields (Value.Within S) (Convert.int v base) := by
  unfold Convert.int
  split <;> exact yields_map.2 (yields_of_forall (fun _ => trivial) _)

theorem Convert.ord_within (v : Value) : Yields (Value.Within S) (Convert.ord v) := by
  unfold Convert.ord
  repeat' split
  all_goals simp [Value.Within]

theorem Convert.chr_within (v : Value) : Yields (Value.Within S) (Convert.chr v) := by
  simp [Convert.chr, yields_bind, Value.Within]

theorem Convert.abs_within (v : Value) : Yields (Value.Within S) (Convert.abs v) := by
  unfold Convert.abs
  repeat' split
  all_goals simp [Value.Within]

theorem Convert.roundFloat_within (x : Float) (places : Int) :
    Yields (Value.Within S) (Convert.roundFloat x places) := by
  unfold Convert.roundFloat
  split
  all_goals simp [Value.Within]

theorem Convert.round_within (v places : Value) :
    Yields (Value.Within S) (Convert.round v places) := by
  unfold Convert.round
  split
  all_goals simp [yields_bind, Value.Within, Convert.roundFloat_within]

theorem Native.squareRoot_within (v : Value) :
    Yields (Value.Within S) (Native.squareRoot v) := by
  simp [Native.squareRoot, yields_bind, Value.Within]

theorem Native.rounded_within (part : Float → Option Int) (v : Value) :
    Yields (Value.Within S) (Native.rounded part v) := by
  unfold Native.rounded
  split
  all_goals simp [yields_bind, Value.Within]

theorem Native.commonDivisor_within (args : List Value) :
    Yields (Value.Within S) (Native.commonDivisor args) := by
  simp [Native.commonDivisor, Value.Within]

theorem Run.plainNumeric_within {op : String} {onReal : Num → Num → Except Failure Value}
    (h : ∀ a b, Yields (Value.Within S) (onReal a b)) (onPart : Float → Float → Float)
    (v w : Value) : Yields (Value.Within S) (Run.plainNumeric op onReal onPart v w) := by
  unfold Run.plainNumeric
  split
  · exact h _ _
  · split
    all_goals simp [yields_bind, Value.Within]

theorem TextMethod.replace_within (self : List Char) (args : List Value) (keywords : Keywords) :
    Yields (Value.Within S) (TextMethod.replace self args keywords) := by
  simp [TextMethod.replace, TextMethod.text, yields_bind, Value.Within]

theorem TextMethod.strip_within (self : List Char) (args : List Value) (keywords : Keywords) :
    Yields (Value.Within S) (TextMethod.strip self args keywords) := by
  refine .seq fun _ => .seq fun _ => ?_
  split
  all_goals simp [TextMethod.text, Value.Within]

theorem TextMethod.endTest_within (name : String) (test : List Char → List Char → Bool)
    (self : List Char) (args : List Value) (keywords : Keywords) :
    Yields (Value.Within S) (TextMethod.endTest name test self args keywords) := by
  refine .seq fun _ => .seq fun _ => .seq fun _ => .seq fun _ => ?_
  split
  all_goals simp [Value.Within]

theorem TextMethod.everyChar_within (name : String) (p : Char → Bool) (self : List Char)
    (args : List Value) (keywords : Keywords) :
    Yields (Value.Within S) (TextMethod.everyChar name p self args keywords) := by
  simp [TextMethod.everyChar, Value.Within]

theorem TextMethod.changed_within (name : String) (f : List Char → List Char) (self : List Char)
    (args : List Value) (keywords : Keywords) :
    Yields (Value.Within S) (TextMethod.changed name f self args keywords) := by
  simp [TextMethod.changed, TextMethod.text, Value.Within]

theorem Library.attribute?_within {lib : Library} {name : String} {v : Value}
    (h : lib.attribute? name = some v) : v.Within S := by
  unfold Library.attribute? at h
  split at h <;> cases h <;> trivial

theorem numberValue?_within {text : List Char} {r : Except Failure Value}
    (h : Literal.numberValue? text = some r) : Yields (Value.Within S) r := by
  unfold Literal.numberValue? at h
  split at h
  · cases h
  · split at h <;> cases h
    all_goals exact yields_map.2 (yields_true _)

end Results

/-! ## Arguments -/

/-- What parameters are bound to is in the store. -/
def BoundWithin (s : Store) (bound : List (Option Value)) : Prop := ∀ o ∈ bound, ∀ v ∈ o, v.Within s

section Arguments

variable {S : Store} {args : List Value} {keywords : Keywords}

theorem argumentAt_within {bound : List (Option Value)} {d : Value} (h : BoundWithin S bound)
    (hd : d.Within S) (i : Nat) : (argumentAt bound i d).Within S := by
  unfold argumentAt
  cases ho : bound[i]? with
  | none => exact hd
  | some o =>
    cases o with
    | none => exact hd
    | some v => exact h _ (List.mem_of_getElem? ho) v rfl

theorem getD_within {vs : List Value} {d : Value} (h : Value.AllWithin S vs)
    (hd : d.Within S) (i : Nat) : (vs[i]?.getD d).Within S := by
  cases hv : vs[i]? with
  | none => exact hd
  | some v => exact h v (List.mem_of_getElem? hv)

section Bound

variable (hargs : Value.AllWithin S args) (hkeywords : Scope.Within S keywords)
include hargs

theorem exactlyOne_within (name : String) : Yields (Value.Within S) (exactlyOne name args keywords) := by
  refine .seq fun _ => ?_
  split
  · exact yields_pure.2 (hargs _ List.mem_cons_self)
  · exact yields_throw _

include hkeywords

theorem bound_within (params : List String) :
    BoundWithin S (args.map some ++ params.map fun p => keywords.lookup p) := by
  intro o ho v hv
  obtain ho | ho := List.mem_append.1 ho
  · obtain ⟨w, hw, rfl⟩ := List.mem_map.1 ho
    cases hv
    exact hargs v hw
  · obtain ⟨p, -, rfl⟩ := List.mem_map.1 ho
    exact hkeywords.get? hv

theorem Signature.bind_within (sig : Signature) :
    Yields (fun p => BoundWithin S p.1 ∧ Value.AllWithin S p.2) (sig.bind args keywords) := by
  refine .seq fun _ => .seq fun _ => .seq fun _ => yields_pure.2 ⟨fun o ho => ?_, fun v hv => ?_⟩
  · exact bound_within hargs hkeywords _ o (List.mem_of_mem_take ho)
  · exact hargs v (List.mem_of_mem_drop hv)

theorem Slots.bind_within (slots : Slots) :
    Yields (BoundWithin S) (slots.bind args keywords) :=
  .seq fun _ => .seq fun _ => .seq fun _ => yields_pure.2 (bound_within hargs hkeywords _)

theorem amountOf_within (name : String) (ref : Nat) :
    Yields (Value.Within S) (Expression.amountOf name ref args keywords) := by
  have hself : Value.AllWithin S (.object ref :: args) := List.forall_mem_cons.2 ⟨trivial, hargs⟩
  exact (Signature.bind_within hself hkeywords _).bind fun ⟨bound, _⟩ hbound =>
    yields_pure.2 (argumentAt_within (d := .none) hbound.1 trivial 1)

end Bound

/-! ## The scope of a call -/

theorem foldl_set_within {α : Type} {f : α → String} {g : α → Value} {as : List α}
    {scope : Scope} (hscope : scope.Within S) (h : ∀ a ∈ as, (g a).Within S) :
    Scope.Within S (as.foldl (fun sc a => sc.set (f a) (g a)) scope) := by
  induction as generalizing scope with
  | nil => exact hscope
  | cons a as ih =>
    obtain ⟨ha, has⟩ := List.forall_mem_cons.1 h
    exact ih (hscope.set ha) has

theorem bindKeywords_within {f : Function} {scope : Scope} (hscope : scope.Within S)
    (hkeywords : Scope.Within S keywords) :
    Yields (Scope.Within S) (Statement.bindKeywords f scope keywords) := by
  induction keywords generalizing scope with
  | nil => exact yields_ok.2 hscope
  | cons p rest ih =>
    obtain ⟨hp, hrest⟩ := List.forall_mem_cons.1 hkeywords
    exact .ite (ih (hscope.set hp) hrest) (yields_error _)

theorem callScope_within {f : Function} {outer : Scope} (hf : f.defaults.Within S)
    (houter : outer.Within S) (hargs : Value.AllWithin S args)
    (hkeywords : Scope.Within S keywords) :
    Yields (Scope.Within S) (Statement.callScope f outer args keywords) := by
  have hgiven : Scope.Within S
      ((f.params.zip args).foldl (fun sc p => sc.set p.1 p.2) outer) :=
    foldl_set_within houter fun p hp => hargs p.2 (List.of_mem_zip hp).2
  have hdefault (p : String) : ((f.defaults.get? p).getD .undefined).Within S := by
    cases hv : f.defaults.get? p with
    | none => trivial
    | some v => exact hf.get? hv
  refine .ite (yields_throw _) ((bindKeywords_within hgiven hkeywords).bind fun scope hscope =>
    yields_pure.2 ?_)
  exact foldl_set_within (f := id) hscope fun p _ => hdefault p

end Arguments

end SnippetGrader
