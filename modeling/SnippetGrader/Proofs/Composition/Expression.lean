import SnippetGrader.Proofs.Composition.Builtin
import SnippetGrader.Proofs.Extent

/-!
# The composition of evaluation

The evaluation of a text asks the engine for the values of shorter texts and for calls of values,
and never for a block. Assignments, arguments and comprehensions ask for texts that are no longer
than their own. Names are bound by assignments alone, and a comprehension assigns in a scope that
it makes.
-/

namespace SnippetGrader

open Text Source

/-- Texts of at most `n` characters may be evaluated. -/
def Reach.Reads (R : Reach) (n : Nat) : Prop := ∀ text, text.length ≤ n → R.texts text

def Reach.Calls (R : Reach) : Prop := ∀ args keywords, R.calls args keywords

theorem Reach.Reads.mono {R : Reach} {m n : Nat} (h : R.Reads n) (hmn : m ≤ n) : R.Reads m :=
  fun text ht => h text (ht.trans hmn)

/-- Texts of fewer than `n` characters may be evaluated and any value may be called, and no name
may be bound. -/
def Reach.below (n : Nat) : Reach :=
  ⟨fun text => text.length < n, fun _ _ => True, fun _ => False, fun _ => False, fun _ => False,
    False⟩

theorem Reach.below_reads {m n : Nat} (h : m < n) : (Reach.below n).Reads m :=
  fun _ ht => Nat.lt_of_le_of_lt ht h

theorem Reach.below_calls (n : Nat) : (Reach.below n).Calls := fun _ _ => trivial

namespace Composed

variable {R : Reach} {α : Type}

/-! ## Assignment -/

theorem unpacked (count : Nat) (v : Value) : Composed R fun _ => Expression.unpacked count v := by
  have rest (xs : List Value) : Composed R fun _ => (do
      if xs.length < count then
        Run.fail (.value ("not enough values to unpack (expected " ++ toString count ++ ", got " ++
          toString xs.length ++ ")"))
      if xs.length > count then
        Run.fail (.value ("too many values to unpack (expected " ++ toString count ++ ")"))
      return xs : Run (List Value)) :=
    .checked (fail _ rfl) fun _ => .checked (fail _ rfl) fun _ => pure _
  unfold Expression.unpacked
  cases v with
  | list ref => exact .bind (items ref) fun xs => .bind (pure _) rest
  | str t => exact .bind (pure _) rest
  | _ => exact .bind (typeName _) fun _ => .bind (fail _ rfl) rest

theorem storeItem (scope : Nat) {object index : List Char} (v : Value) (ho : R.texts object)
    (hi : R.texts index) : Composed R fun e => Expression.storeItem e scope object index v := by
  unfold Expression.storeItem
  refine .bind (.eval scope object ho) fun o => ?_
  cases o with
  | list ref =>
    refine .bind (.eval scope index hi) fun key => ?_
    cases key with
    | int i =>
      refine .bind (items ref) fun xs => ?_
      cases position? xs.size i with
      | none => exact fail _ rfl
      | some j => exact modifyStore _ fun _ => ⟨rfl, rfl, rfl⟩
    | _ => exact .bind (typeName _) fun _ => fail _ rfl
  | _ => exact .bind (typeName _) fun _ => fail _ rfl

theorem storeField (scope : Nat) {object : List Char} (name : String) (v : Value)
    (ho : R.texts object) : Composed R fun e => Expression.storeField e scope object name v := by
  unfold Expression.storeField
  refine .bind (.eval scope object ho) fun o => ?_
  cases o with
  | object ref => exact setField ref name v
  | _ => exact .bind (typeName _) fun _ => fail _ rfl

theorem assignEach (scope : Nat) {targets : List Expression.Target}
    (h : ∀ t ∈ targets, ∀ v, Composed R fun e => Expression.assign e scope t v) (vs : List Value) :
    Composed R fun e => Expression.assignEach e scope targets vs := by
  induction targets generalizing vs with
  | nil => simpa only [Expression.assignEach] using pure ()
  | cons t ts ih =>
    cases vs with
    | nil => simpa only [Expression.assignEach] using pure ()
    | cons v vs =>
      simp only [Expression.assignEach]
      exact .bind (h t List.mem_cons_self v) fun _ =>
        ih (fun t ht => h t (List.mem_cons_of_mem _ ht)) vs

theorem assign (scope : Nat) (hscope : R.scopes scope) {n : Nat} (hR : R.Reads n)
    {t : Expression.Target} (ht : t.Within n) (v : Value) :
    Composed R fun e => Expression.assign e scope t v := by
  induction ht generalizing v with
  | name s => simpa only [Expression.assign] using bindName scope hscope s v
  | items targets _ ih =>
    simp only [Expression.assign]
    exact .bind (unpacked _ v) fun vs => assignEach scope ih vs
  | item object index ho hi =>
    simpa only [Expression.assign] using storeItem scope v (hR object ho) (hR index hi)
  | field object name ho =>
    simpa only [Expression.assign] using storeField scope name v (hR object ho)
  | other text =>
    simp only [Expression.assign]
    exact fail _ rfl

theorem assignText (scope : Nat) (hscope : R.scopes scope) {text : List Char}
    (hR : R.Reads text.length) (v : Value) :
    Composed R fun e => Expression.assign e scope (Expression.Target.ofText text) v :=
  assign scope hscope hR (Expression.Target.ofText_within text) v

/-! ## Comprehensions and arguments -/

theorem meets (scope : Nat) {condition : Option (List Char)} (h : ∀ t ∈ condition, R.texts t) :
    Composed R fun e => Expression.meets e scope condition := by
  cases condition with
  | none => exact pure true
  | some t => exact .bind (.eval scope t (h t rfl)) fun v => truthy v

theorem elements (scope : Nat) {c : Expression.Comprehension} {target : Expression.Target}
    (ha : ∀ v, Composed R fun e => Expression.assign e scope target v)
    (hc : ∀ t ∈ c.condition, R.texts t) (he : R.texts c.element) (done : Array Value)
    (vs : List Value) : Composed R fun e => Expression.elements e scope c target done vs := by
  induction vs generalizing done with
  | nil => exact pure done
  | cons v vs ih =>
    unfold Expression.elements
    exact .bind (ha v) fun _ => .bind (meets scope hc) fun b =>
      .ite (fun _ => .bind (.eval scope c.element he) fun w => ih (done.push w)) fun _ => ih done

theorem comprehend (scope : Nat) {text : List Char} {c : Expression.Comprehension}
    (h : Expression.comprehension? text = some c) (hR : R.Reads text.length) :
    Composed R fun e => Expression.comprehend e scope c := by
  obtain ⟨helement, htarget, hsource, hcondition⟩ := Expression.comprehension?_length h
  unfold Expression.comprehend
  refine .bind (.eval scope c.source (hR _ hsource)) fun v => .bind (iterate v) fun xs =>
    .bind (Composed.scope scope) fun names => .inside names fun inner =>
      .bind ?results fun results => .checked (fail _ rfl) fun _ => newList _
  case results =>
    have hreads : (R.adding inner).Reads text.length := hR
    exact elements inner (assignText inner (R.adding_scope inner) (hreads.mono htarget))
      (fun t ht => hreads t (hcondition t ht)) (hreads _ helement) _ xs

theorem argumentsFrom (scope : Nat) {n : Nat} (hR : R.Reads n) (parts : List (List Char))
    (hparts : ∀ p ∈ parts, p.length ≤ n) (args : List Value) (keywords : Keywords) :
    Composed R fun e => Expression.argumentsFrom e scope args keywords parts := by
  induction parts generalizing args keywords with
  | nil => exact pure _
  | cons part parts ih =>
    have hpart := hparts part List.mem_cons_self
    have ih := ih fun p hp => hparts p (List.mem_cons_of_mem _ hp)
    unfold Expression.argumentsFrom
    refine .ite (fun _ => ih args keywords) fun _ => ?_
    cases hk : keywordArgument? part with
    | some p =>
      have hvalue := keywordArgument?_length hk
      exact .bind (.eval scope p.2 (hR _ (by omega))) fun v => ih args _
    | none =>
      refine .ite (fun _ => ?_) fun _ => .bind (.eval scope part (hR _ hpart)) fun v => ih _ keywords
      have htail : part.tail.length ≤ n := by rw [List.length_tail]; omega
      exact .bind (.eval scope part.tail (hR _ htail)) fun v => .bind (iterate v) fun _ =>
        ih _ keywords

theorem arguments (scope : Nat) {text : List Char} (hR : R.Reads text.length) :
    Composed R fun e => Expression.arguments e scope text := by
  have hparts : ∀ p ∈ cutTopLevel ',' text, p.length ≤ text.length :=
    fun p hp => length_le_of_mem_cutTopLevel hp
  unfold Expression.arguments
  generalize cutTopLevel ',' text = parts at hparts
  dsimp only
  split
  · next c hc =>
    split at hc
    · next part =>
      have hlen := hparts part List.mem_cons_self
      exact .bind (comprehend scope hc (hR.mono hlen)) fun _ => pure _
    · cases hc
  · exact argumentsFrom scope hR parts hparts [] []

/-! ## Literals -/

theorem evaluateEach (scope : Nat) {parts : List (List Char)} (h : ∀ p ∈ parts, R.texts p) :
    Composed R fun e => Expression.evaluateEach e scope parts :=
  mapM _ fun p hp => .eval scope p (h p (List.mem_filter.1 hp).1)

/-- The text of a value formatted on a store, with a failure of another kind. -/
def formatOn (v : Value) (spec : List Char) (s : Store) : Except Stop String :=
  match v.format s spec with
  | .error (.failed f) => .error (.failed (Expression.asFormatFailure f))
  | r => r

/-- Formatting a value works on the store alone, also where its failure gets another kind. -/
theorem format (v : Value) (spec : List Char) : Composed R fun _ =>
    (Run.onFailure (do Run.ofStop (v.format (← Run.store) spec)) fun f =>
      Run.fail (Expression.asFormatFailure f) : Run String) := by
  have hunplaced (s : Store) : UnplacedStop (formatOn v spec s) := by
    have hformat := Value.format_unplaced s v spec
    unfold formatOn
    generalize v.format s spec = r at hformat
    rcases r with (f | n) | t
    · exact Expression.asFormatFailure_unplaced hformat
    · trivial
    · trivial
  have h : Composed R fun _ => Run.onStore fun s => (formatOn v spec s, s) :=
    reading _ (fun s => by simp only [formatOn, Value.format_bodiless]) hunplaced
  convert h using 2
  funext m
  have hm : (do Run.ofStop (v.format (← Run.store) spec) : Run String) m =
      Run.ofStop (v.format m.store spec) m := rfl
  simp only [Run.onFailure, Run.onStore, formatOn, hm]
  cases v.format m.store spec with
  | ok t => rfl
  | error stop => cases stop <;> rfl

theorem fieldText (scope : Nat) {field : Expression.Field} (h : R.texts field.expression) :
    Composed R fun e => Expression.fieldText e scope field := by
  unfold Expression.fieldText
  refine .bind (.eval scope _ h) fun v => ?_
  split
  · exact .bind (map _ (repr v)) fun w => format w _
  · exact .bind (map _ (repr v)) fun w => format w _
  · exact .bind (pure v) fun w => format w _

theorem readPart (scope : Nat) (raw : Bool) {piece : Expression.Piece}
    (h : ∀ cs, piece = .field cs → R.texts (Expression.Field.ofText cs).expression) :
    Composed R fun e => Expression.readPart e scope raw piece := by
  cases piece with
  | text cs => exact .ite (fun _ => pure _) fun _ => ofExcept _ (by simp)
  | field cs => exact map _ (fieldText scope (h cs rfl))
  | unclosed => exact fail _ rfl

theorem listValue (scope : Nat) {inner : List Char} (hR : R.Reads inner.length) :
    Composed R fun e => Expression.listValue e scope inner := by
  unfold Expression.listValue
  cases h : Expression.comprehension? inner with
  | some c => exact comprehend scope h hR
  | none =>
    exact .bind (evaluateEach scope fun p hp => hR p (length_le_of_mem_cutTopLevel hp)) fun _ =>
      newList _

theorem plainString (o : Literal.Opening) (text : List Char) :
    Composed R fun _ => Literal.stringValue o text := by
  unfold Literal.stringValue
  cases Literal.decode? o text with
  | none => exact pure _
  | some cs => exact .ite (fun _ => newList _) fun _ => pure _

theorem stringValue (scope : Nat) (o : Literal.Opening) {text : List Char}
    (hR : ∀ t, t.length < text.length → R.texts t) :
    Composed R fun e => Expression.stringValue e scope o text := by
  unfold Expression.stringValue
  refine .ite (fun _ => ?_) fun _ => plainString o text
  refine .bind (mapM _ fun piece hpiece => readPart scope _ fun cs hcs => hR _ ?_) fun parts =>
    bindExcept (by simp) fun _ => pure _
  subst hcs
  have hfield := Expression.piecesFrom_field hpiece
  have hbetween := Expression.length_between_le o text
  have hexpression := Expression.Field.length_expression_le cs
  omega

theorem literal? (scope : Nat) {text : List Char} (hne : text ≠ [])
    (hR : ∀ t, t.length < text.length → R.texts t) :
    Composed R fun e => Expression.literal? e scope text := by
  unfold Expression.literal?
  split
  · exact pure _
  · exact pure _
  · exact pure _
  · split
    · next number h => exact map _ (ofExcept number (Expression.numberValue?_unplaced h))
    · split
      · exact map _ (stringValue scope _ hR)
      · refine .ite (fun _ => map _ (listValue scope fun t ht => hR t ?_)) fun _ => pure _
        have hpos := List.length_pos_iff.2 hne
        have htrim := length_trim_le text.tail.dropLast
        rw [List.length_dropLast, List.length_tail] at htrim
        omega

/-! ## Chains -/

theorem printPart (keywords : Keywords) (name default : String) : Composed R fun _ =>
    (match keywords.lookup name with
      | none | some .none => return default
      | some v => Run.display v : Run String) := by
  split
  · exact pure _
  · exact pure _
  · exact display _

theorem print (args : List Value) (keywords : Keywords) :
    Composed R fun _ => Expression.print args keywords :=
  .bind (printPart keywords "sep" " ") fun _ => .bind (printPart keywords "end" "\n") fun _ =>
    .bind (mapM args fun v _ => display v) fun _ => .write _

section Links

variable (scope : Nat) {n : Nat} (hR : R.Reads n) (hcalls : R.Calls)
include hR hcalls

theorem callNamed? (name : String) {text : List Char} (h : text.length ≤ n) :
    Composed R fun e => Expression.callNamed? e scope name text := by
  have args := arguments scope (hR.mono h)
  unfold Expression.callNamed?
  change Composed R fun e => Run.setting >>= fun c =>
    if c.1 && name == "print" then _ else if c.1 && name == "input" then _ else _
  refine .bind .setting fun c => .ite (fun _ => ?_) fun _ => .ite (fun _ => ?_) fun _ => ?_
  · exact .bind args fun p => .bind (print _ _) fun _ => pure _
  · exact .bind args fun _ => map _ .readInput
  · cases Builtin.ofName? name with
    | none => exact pure _
    | some f =>
      exact .bind args fun p => map _ (.guardCall (invoke (fun x => hcalls [x] []) f p.1 p.2))

omit hcalls in
theorem subscriptPart (v : Value) {text : List Char} (h : text.length ≤ n) : Composed R fun e =>
    (match cutTopLevel ':' text with
      | start :: stop :: rest => do
        let bound (p : List Char) : Run Value :=
          if p.isEmpty then return .none else e.eval scope p
        let start ← bound start
        let stop ← bound stop
        let step ← bound (rest.head?.getD [])
        Expression.slice v start stop step
      | _ => do Expression.item v (← e.eval scope text) : Run Value) := by
  have hparts : ∀ p ∈ cutTopLevel ':' text, p.length ≤ n :=
    fun p hp => (length_le_of_mem_cutTopLevel hp).trans h
  have bound {p : List Char} (hp : p.length ≤ n) : Composed R fun e =>
      (if p.isEmpty then return .none else e.eval scope p : Run Value) :=
    .ite (fun _ => pure _) fun _ => .eval scope p (hR p hp)
  generalize cutTopLevel ':' text = parts at hparts
  obtain _ | ⟨start, _ | ⟨stop, rest⟩⟩ := parts
  · exact .bind (.eval scope text (hR text h)) fun key => item v key
  · exact .bind (.eval scope text (hR text h)) fun key => item v key
  · have hstep : (rest.head?.getD []).length ≤ n := by
      cases rest with
      | nil => exact Nat.zero_le n
      | cons step _ => exact hparts step (by simp)
    exact .bind (bound (hparts start (by simp))) fun _ => .bind (bound (hparts stop (by simp)))
      fun _ => .bind (bound hstep) fun _ => slice v _ _ _

omit hcalls in
theorem subscript (v : Value) {text : List Char} (h : text.length ≤ n) :
    Composed R fun e => Expression.subscript e scope v text := by
  have rest := subscriptPart scope hR v h
  exact .ite (fun _ => .bind (typeName v) fun _ => .bind (fail _ rfl) fun _ => rest) fun _ => rest

theorem follow (v : Value) (trailers : List Expression.Trailer)
    (h : ∀ t ∈ trailers, t.inner.length ≤ n) :
    Composed R fun e => Expression.follow e scope v trailers := by
  have args {text : List Char} (ht : text.length ≤ n) := arguments scope (hR.mono ht)
  induction hlen : trailers.length using Nat.strong_induction_on generalizing v trailers with
  | _ k ih =>
    subst hlen
    -- the links that are left after one or two of them
    have later (w : Value) {rest : List Expression.Trailer} (hsuffix : rest <:+ trailers)
        (hlt : rest.length < trailers.length) :
        Composed R fun e => Expression.follow e scope w rest :=
      ih rest.length hlt w rest (fun t ht => h t (hsuffix.subset ht)) rfl
    match trailers with
    | [] => exact pure v
    | .call text :: rest =>
      exact .bind (args (h _ List.mem_cons_self)) fun p =>
        .bind (callValue v p.1 p.2 (hcalls _ _)) fun w =>
          later w (List.suffix_cons _ _) (Nat.lt_succ_self _)
    | .index text :: rest =>
      exact .bind (subscript scope hR v (h _ List.mem_cons_self)) fun w =>
        later w (List.suffix_cons _ _) (Nat.lt_succ_self _)
    | .attribute name :: .call text :: rest =>
      exact .bind (args (h (.call text) (by simp))) fun p =>
        .bind (callMethod v name p.1 p.2 hcalls) fun w =>
          later w ⟨[.attribute name, .call text], rfl⟩ (by simp only [List.length_cons]; omega)
    | [.attribute name] => exact .bind (attributeOf v name) fun w => pure w
    | .attribute name :: .attribute name' :: rest =>
      exact .bind (attributeOf v name) fun w => later w (List.suffix_cons _ _) (Nat.lt_succ_self _)
    | .attribute name :: .index text :: rest =>
      exact .bind (attributeOf v name) fun w => later w (List.suffix_cons _ _) (Nat.lt_succ_self _)

theorem builtinChain? (name : String) (trailers : List Expression.Trailer)
    (h : ∀ t ∈ trailers, t.inner.length ≤ n) :
    Composed R fun e => (match Builtin.ofName? name with
      | some f => some <$> Expression.follow e scope (.builtin f) trailers
      | none => return none : Run (Option Value)) := by
  cases Builtin.ofName? name with
  | none => exact pure _
  | some f => exact map _ (follow scope hR hcalls _ trailers h)

theorem namedChain? (name : String) (trailers : List Expression.Trailer)
    (h : ∀ t ∈ trailers, t.inner.length ≤ n) :
    Composed R fun e => Expression.namedChain? e scope name trailers := by
  unfold Expression.namedChain?
  refine .bind (lookup? scope name) fun found => ?_
  cases found with
  | some v => exact map _ (follow scope hR hcalls v trailers h)
  | none =>
    have hbuiltin := builtinChain? scope hR hcalls name trailers h
    cases trailers with
    | nil => exact hbuiltin
    | cons t rest =>
      cases t with
      | call text =>
        refine .bind (callNamed? scope hR hcalls name (h _ List.mem_cons_self)) fun result => ?_
        cases result with
        | none => exact pure _
        | some v => exact map _ (follow scope hR hcalls v rest fun t ht => h t (.tail _ ht))
      | _ => exact hbuiltin

end Links

theorem chainValue? (scope : Nat) {text : List Char} (hne : text ≠ [])
    (hR : ∀ t, t.length < text.length → R.texts t) (hcalls : R.Calls) :
    Composed R fun e => Expression.chainValue? e scope text := by
  have hpos := List.length_pos_iff.2 hne
  have hreads : R.Reads (text.length - 1) := fun t ht => hR t (by omega)
  unfold Expression.chainValue?
  cases h : Expression.chain? text with
  | none => exact pure _
  | some c =>
    obtain ⟨head, trailers⟩ := c
    obtain ⟨hhead, hshorter, htrailers⟩ := Expression.chain?_below h
    have hlinks : ∀ t ∈ trailers, t.inner.length ≤ text.length - 1 := by
      intro t ht
      have := htrailers t ht
      omega
    have afterHead (first : List Char) (hfirst : R.texts first) : Composed R fun e =>
        (do some <$> Expression.follow e scope (← e.eval scope first) trailers :
          Run (Option Value)) :=
      .bind (.eval scope first hfirst) fun v => map _ (follow scope hreads hcalls v trailers hlinks)
    match head, trailers with
    | .group inner, [] =>
      refine map _ (.eval scope _ (hR _ ?_))
      simp only [Expression.Head.text] at hhead
      rw [List.length_dropLast, List.length_tail]
      omega
    | .name name, [] => exact pure _
    | .literal inner, [] => exact pure _
    | .name name, t :: ts => exact namedChain? scope hreads hcalls _ (t :: ts) hlinks
    | .literal inner, t :: ts => exact afterHead inner (hR _ (hshorter nofun))
    | .group inner, t :: ts => exact afterHead inner (hR _ (hshorter nofun))

/-! ## Names, lists without brackets and operators -/

theorem nameValue? (scope : Nat) (text : List Char) :
    Composed R fun _ => Expression.nameValue? scope text := by
  unfold Expression.nameValue?
  refine .ite (fun _ => .bind (lookup? scope _) fun found => ?_) fun _ => pure _
  cases found with
  | none => exact pure _
  | some v => exact pure _

theorem tupleValue? (scope : Nat) {text : List Char}
    (hR : ∀ t, t.length < text.length → R.texts t) :
    Composed R fun e => Expression.tupleValue? e scope text := by
  have hparts (p : List Char) (hp : p ∈ cutTopLevel ',' text) :=
    length_add_length_cutTopLevel_le hp
  unfold Expression.tupleValue?
  generalize cutTopLevel ',' text = parts at hparts
  match parts with
  | [] => exact pure _
  | [_] => exact pure _
  | first :: second :: rest =>
    refine .bind (evaluateEach scope fun p hp => hR p ?_) fun _ => .bind (newList _) fun _ => pure _
    have := hparts p hp
    simp only [List.length_cons] at this
    omega

theorem parametersFrom (scope : Nat) {n : Nat} (hR : R.Reads n) (parts : List (List Char))
    (hparts : ∀ p ∈ parts, p.length ≤ n) (params : List String) (defaults : Scope) :
    Composed R fun e => Expression.parametersFrom e scope params defaults parts := by
  induction parts generalizing params defaults with
  | nil => exact pure _
  | cons part parts ih =>
    have hpart := hparts part List.mem_cons_self
    have ih := ih fun p hp => hparts p (List.mem_cons_of_mem _ hp)
    unfold Expression.parametersFrom
    refine .ite (fun _ => ih _ _) fun _ => ?_
    cases hcut : cutAround? part ['='] with
    | none => exact ih _ _
    | some p =>
      have hdefault := cutAround?_length hcut
      exact .bind (.eval scope p.2 (hR _ (by omega))) fun v => ih _ _

theorem parameters (scope : Nat) {text : List Char} (hR : R.Reads text.length) :
    Composed R fun e => Expression.parameters e scope text :=
  parametersFrom scope hR _ (fun _ hp => length_le_of_mem_cutTopLevel hp) [] []

theorem makeLambda (scope : Nat) {params : List Char} (body : List Char)
    (hR : R.Reads params.length) :
    Composed R fun e => Expression.makeLambda e scope params body := by
  unfold Expression.makeLambda
  refine .bind (parameters scope hR) fun (params, defaults) => ?_
  exact .define (fun n => { name := "<lambda>", params, defaults, scope
                            body := [⟨"return ".toList ++ trim body, 1, n⟩] })
    (fun n l hl => .inr (by rw [List.mem_singleton.1 hl])) (fun _ _ => rfl)
    fun _ _ => ⟨_, rfl, rfl⟩

theorem formValue (scope : Nat) (text : List Char) {f : Expression.Form}
    (h : ∀ t ∈ f.operands, R.Reads t.length) :
    Composed R fun e => Expression.formValue e scope text f := by
  have value {t : List Char} (ht : t ∈ f.operands) := eval scope t (h t ht t le_rfl)
  cases f with
  | lambda params body =>
    change Composed R fun e => Run.setting >>= fun c => if c.1 then _ else _
    exact .bind .setting fun c =>
      .ite (fun _ => makeLambda scope body (h params List.mem_cons_self)) fun _ => pure _
  | conditional condition yes no =>
    exact .bind (value List.mem_cons_self) fun v => .bind (truthy v) fun b =>
      .ite (fun _ => value (by simp [Expression.Form.operands])) fun _ =>
        value (by simp [Expression.Form.operands])
  | either left right =>
    exact .bind (value List.mem_cons_self) fun v => .bind (truthy v) fun b =>
      .ite (fun _ => pure _) fun _ => value (by simp [Expression.Form.operands])
  | both left right =>
    exact .bind (value List.mem_cons_self) fun v => .bind (truthy v) fun b =>
      .ite (fun _ => value (by simp [Expression.Form.operands])) fun _ => pure _
  | negation operand =>
    exact .bind (value List.mem_cons_self) fun v => .bind (truthy v) fun b => pure _
  | comparison c left right =>
    exact .bind (value List.mem_cons_self) fun v =>
      .bind (value (by simp [Expression.Form.operands])) fun w => .bind (compareBy c v w) fun _ =>
        pure _
  | binary op left right =>
    exact .bind (value List.mem_cons_self) fun v =>
      .bind (value (by simp [Expression.Form.operands])) fun w => operate op v w
  | signed negative operand =>
    refine .bind (value List.mem_cons_self) fun v =>
      .looking (fun s => by simp only [operand_bodiless]) fun s =>
      bindExcept (by simp) fun number => ?_
    split
    · exact pure _
    · exact fresh _

/-- The value of a text is put together from the values of shorter texts. -/
theorem evaluate (scope : Nat) (text : List Char) :
    Composed (Reach.below text.length) fun e => Expression.evaluate e scope text := by
  have hle := length_trim_le text
  have hR (t : List Char) (ht : t.length < (trim text).length) :
      (Reach.below text.length).texts t := Nat.lt_of_lt_of_le ht hle
  have hcalls := Reach.below_calls text.length
  unfold Expression.evaluate
  refine .ite (fun _ => pure _) fun hempty => ?_
  have hne : trim text ≠ [] := fun h => hempty (by rw [h]; rfl)
  refine .bind (literal? scope hne hR) fun v => ?_
  cases v with
  | some v => exact pure v
  | none =>
    refine .bind (chainValue? scope hne hR hcalls) fun v => ?_
    cases v with
    | some v => exact pure v
    | none =>
      refine .bind (nameValue? scope _) fun v => ?_
      cases v with
      | some v => exact pure v
      | none =>
        refine .bind (tupleValue? scope hR) fun v => ?_
        cases v with
        | some v => exact pure v
        | none =>
          cases hform : Expression.form? (trim text) with
          | none => exact pure _
          | some f =>
            refine formValue scope _ fun t ht => ?_
            have := Expression.form?_operands hne hform t ht
            exact Reach.below_reads (by omega)

end Composed

end SnippetGrader
