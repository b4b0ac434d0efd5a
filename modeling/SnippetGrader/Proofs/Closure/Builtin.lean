import SnippetGrader.Proofs.Closure.Value
import SnippetGrader.Proofs.Sorting

/-!
# What functions and methods refer to

Operators, conversions, functions on sequences, methods and library functions: each adds things at
most, and its result refers to things that are there if its arguments do.
-/

namespace SnippetGrader

namespace Keeps

variable {S : Store} {C : Prop} {v w : Value}

/-! ## Operators -/

theorem repeatItems_within {xs : Array Value} (h : ∀ v ∈ xs, v.Within S) (count : Nat) :
    ∀ v ∈ repeatItems xs count, v.Within S := by
  induction count with
  | zero => nofun
  | succ count ih => exact Array.forall_mem_append.2 ⟨ih, h⟩

theorem repeatSequence (hv : C → v.Within S) (count : Int) :
    Keeps S C (Value.Within S) (Run.repeatSequence v count) := by
  unfold Run.repeatSequence
  cases v with
  | list ref =>
    exact .bind items fun xs => .seq (check _) fun n =>
      newList fun h => repeatItems_within h.2 n
  | str t => exact .seq (check _) fun n => pure fun _ => trivial
  | _ => exact pure hv

theorem arithmetic (op : Operator) (v w : Value) : Keeps S C (Value.Within S) (do
    let s ← Run.store
    let a ← Run.ofExcept (operand s op.text v)
    let b ← Run.ofExcept (operand s op.text w)
    Run.computed (op.onNumbers a b)) :=
  .seq store fun _ => .seq (check _) fun _ => .seq (check _) fun _ =>
    computed fun _ _ h => (Operator.onNumbers_isBare h).within S

theorem operate (op : Operator) (hv : C → v.Within S) (hw : C → w.Within S) :
    Keeps S C (Value.Within S) (Run.operate op v w) := by
  unfold Run.operate
  dsimp only
  split
  · exact .seq display fun _ => .checked (fail _) fun _ => pure fun _ => trivial
  · exact .bind items fun xs => .bind items fun ys => .checked (fail _) fun _ =>
      newList fun h => Array.forall_mem_append.2 ⟨h.1.2, h.2⟩
  · exact ite (repeatSequence hv _) (arithmetic _ _ _)
  · exact ite (repeatSequence hw _) (arithmetic _ _ _)
  · exact arithmetic _ _ _

theorem plainAdd (v w : Value) : Keeps S C (Value.Within S) (Run.plainAdd v w) := by
  unfold Run.plainAdd
  split
  · exact pure fun _ => trivial
  · exact fail _
  · exact .bind items fun xs => .bind items fun ys =>
      newList fun h => Array.forall_mem_append.2 ⟨h.1.2, h.2⟩
  · exact fail _
  · exact computed fun _ => Run.plainNumeric_within
      (fun a b _ (h : Operator.add.onNumbers a b = _) => (Operator.onNumbers_isBare h).within S) _ _ _

theorem plainSub (v w : Value) : Keeps S C (Value.Within S) (Run.plainSub v w) :=
  computed fun _ => Run.plainNumeric_within
    (fun a b _ (h : Operator.sub.onNumbers a b = _) => (Operator.onNumbers_isBare h).within S) _ _ _

theorem compareBy (c : Value.Comparison) (v w : Value) :
    Keeps S C (fun _ => True) (Run.compareBy c v w) :=
  .seq store fun _ => check _

/-! ## Conversions and sequences -/

theorem characters_within (t : String) :
    Value.AllWithin S (t.toList.map fun c => Value.str c.toString) := by
  intro v hv
  obtain ⟨c, -, rfl⟩ := List.mem_map.1 hv
  trivial

theorem sequence? : Keeps S C (fun o => ∀ xs, o = some xs → Value.AllWithin S xs)
    (Run.sequence? v) := by
  unfold Run.sequence?
  cases v with
  | list ref =>
    exact .bind items fun xs => pure fun h _ hxs => Option.some.inj hxs ▸ fun v hv =>
      h.2 v (Array.mem_toList_iff.1 hv)
  | str t => exact pure fun _ _ hxs => Option.some.inj hxs ▸ characters_within t
  | _ => exact pure fun _ => nofun

theorem iterate : Keeps S C (Value.AllWithin S) (Run.iterate v) := by
  refine .bind sequence? fun o => ?_
  cases o with
  | none => exact .seq typeName fun _ => fail _
  | some xs => exact pure fun h => h.2 xs rfl

theorem iteratePlain : Keeps S C (Value.AllWithin S) (Run.iteratePlain v) := by
  refine .bind sequence? fun o => ?_
  cases o with
  | none => exact fail _
  | some xs => exact pure fun h => h.2 xs rfl

/-- A new list of values. -/
theorem newListOf {vs : List Value} (h : C → Value.AllWithin S vs) :
    Keeps S C (Value.Within S) (Run.newList vs.toArray) :=
  newList fun hC v hv => h hC v (List.mem_toArray.1 hv)

theorem convertFloat (hv : C → v.Within S) : Keeps S C (Value.Within S) (Convert.float v) := by
  unfold Convert.float
  cases v with
  | nan ref => exact pure hv
  | _ => exact computed fun _ => yields_map.2 (yields_true _)

theorem convertList (hv : C → v.Within S) : Keeps S C (Value.Within S) (Convert.list v) := by
  unfold Convert.list
  split
  · exact newList fun _ => nofun
  · refine .bind sequence? fun o => ?_
    cases o with
    | none => exact newListOf fun h => List.forall_mem_singleton.2 (hv h.1)
    | some xs => exact newListOf fun h => h.2 xs rfl

theorem newTextList (xs : List (List Char)) : Keeps S C (Value.Within S) (Run.newTextList xs) := by
  refine newListOf fun _ v hv => ?_
  obtain ⟨t, -, rfl⟩ := List.mem_map.1 hv
  trivial

theorem newLists {groups : List (List Value)} (h : C → ∀ g ∈ groups, Value.AllWithin S g) :
    Keeps S C (Value.Within S) (Sequence.newLists groups) :=
  .bind (mapM fun _ hg => newListOf fun hC => h hC _ hg) fun _ => newListOf And.right

theorem len : Keeps S C (Value.Within S) (Sequence.len v) := by
  unfold Sequence.len
  cases v with
  | list ref => exact .seq items fun _ => pure fun _ => trivial
  | str t => exact pure fun _ => trivial
  | _ => exact .seq typeName fun _ => fail _

theorem anyItem : Keeps S C (Value.Within S) (Sequence.any v) :=
  .seq iterate fun _ => .seq store fun _ => pure fun _ => trivial

theorem allItems : Keeps S C (Value.Within S) (Sequence.all v) :=
  .seq iterate fun _ => .seq store fun _ => pure fun _ => trivial

theorem range (args : List Value) : Keeps S C (Value.Within S) (Sequence.range args) := by
  refine .seq (check _) fun p => .checked (fail _) fun _ => .checked (fail _) fun _ =>
    newList fun _ v hv => ?_
  obtain ⟨i, -, rfl⟩ := Array.mem_map.1 hv
  trivial

theorem enumerate (start : Value) : Keeps S C (Value.Within S) (Sequence.enumerate v start) := by
  refine .bind iterate fun xs => .seq (check _) fun n => newLists fun h g hg => ?_
  obtain ⟨p, hp, rfl⟩ := List.mem_map.1 hg
  have hitem : p.1.Within S := h.2 _ (List.fst_mem_of_mem_zipIdx hp)
  exact List.forall_mem_cons.2 ⟨trivial, List.forall_mem_singleton.2 hitem⟩

/-- The heads and the tails of lists have what the lists have. -/
theorem heads?_within {lists rests : List (List Value)} {group : List Value}
    (h : Sequence.heads? lists = some (group, rests)) (hlists : ∀ l ∈ lists, Value.AllWithin S l) :
    Value.AllWithin S group ∧ ∀ l ∈ rests, Value.AllWithin S l := by
  induction lists generalizing group rests with
  | nil =>
    cases h
    exact ⟨nofun, nofun⟩
  | cons l lists ih =>
    obtain ⟨hl, hmore⟩ := List.forall_mem_cons.1 hlists
    cases l with
    | nil => cases h
    | cons x xs =>
      obtain ⟨⟨group, rests⟩, hp, heq⟩ := Option.map_eq_some_iff.1 h
      cases heq
      obtain ⟨hx, hxs⟩ := List.forall_mem_cons.1 hl
      obtain ⟨hgroup, hrests⟩ := ih hp hmore
      exact ⟨List.forall_mem_cons.2 ⟨hx, hgroup⟩, List.forall_mem_cons.2 ⟨hxs, hrests⟩⟩

theorem groups_within {lists : List (List Value)} (h : ∀ l ∈ lists, Value.AllWithin S l)
    (fuel : Nat) : ∀ g ∈ Sequence.groups fuel lists, Value.AllWithin S g := by
  induction fuel generalizing lists with
  | zero => nofun
  | succ fuel ih =>
    unfold Sequence.groups
    split
    · next group rests hheads =>
      obtain ⟨hgroup, hrests⟩ := heads?_within hheads h
      exact List.forall_mem_cons.2 ⟨hgroup, ih hrests⟩
    · nofun

theorem zip (args : List Value) : Keeps S C (Value.Within S) (Sequence.zip args) :=
  .bind (mapM fun _ _ => iterate) fun _ => newLists fun h => groups_within h.2 _

theorem reversed : Keeps S C (Value.Within S) (Sequence.reversed v) :=
  .bind iterate fun _ => newListOf fun h v hv => h.2 v (List.mem_reverse.1 hv)

theorem sum {start : Value} (hstart : C → start.Within S) :
    Keeps S C (Value.Within S) (Sequence.sum v start) := by
  unfold Sequence.sum
  refine .seq iteratePlain fun xs => ?_
  split
  · exact fail _
  · refine .bind (foldlM hstart fun v w _ => plainAdd v w) fun total => ?_
    cases total with
    | nan ref => exact newNan
    | _ => exact pure And.right

/-- Sorting gives back the items that it was given. -/
theorem sortByKey {pairs : List (Value × Value)} (descending : Bool)
    (h : C → ∀ p ∈ pairs, p.2.Within S) :
    Keeps S C (fun o => Value.AllWithin S o.items) (Sequence.sortByKey descending pairs) := by
  refine .seq store fun s => pure fun hC v hv => ?_
  obtain ⟨p, hp, rfl⟩ := List.mem_map.1 hv
  exact h hC p ((Sorting.sort_perm _ descending pairs).mem_iff.1 hp)

/-! ## Functions that call a function -/

section Engine

variable {e : Engine} (he : e.Keeps S)
include he

theorem applyOne {f x : Value} (hx : C → x.Within S) :
    Keeps S C (Value.Within S) (e.apply f [x] []) :=
  he.apply (fun hC => List.forall_mem_singleton.2 (hx hC)) fun _ => .nil

theorem keyed (key : Value) {xs : List Value} (hxs : C → Value.AllWithin S xs) :
    Keeps S C (fun pairs => ∀ p ∈ pairs, p.2.Within S) (Sequence.keyed e key xs) := by
  unfold Sequence.keyed
  cases key with
  | none =>
    refine pure fun hC p hp => ?_
    obtain ⟨x, hx, rfl⟩ := List.mem_map.1 hp
    exact hxs hC x hx
  | _ =>
    exact mapM fun x hx => .seq (applyOne he fun hC => hxs hC x hx) fun _ =>
      pure fun hC => hxs hC x hx

theorem sorted (reverse key : Value) :
    Keeps S C (Value.Within S) (Sequence.sorted e v reverse key) := by
  unfold Sequence.sorted
  refine .bind iterate fun xs => .seq (check _) fun n => .bind (keyed he key And.right) fun pairs =>
    .bind (sortByKey _ And.right) fun o => ?_
  cases o.failure with
  | none => exact newListOf And.right
  | some f => exact fail f

theorem mapItems (f : Value) : Keeps S C (Value.Within S) (Sequence.map e f v) :=
  .bind iterate fun _ => .bind (mapM fun x hx => applyOne he fun h => h.2 x hx) fun _ =>
    newListOf And.right

theorem filterItems (f : Value) : Keeps S C (Value.Within S) (Sequence.filter e f v) := by
  unfold Sequence.filter
  refine .bind iterate fun xs => .bind (filterM fun x hx => ?_) fun kept =>
    newListOf fun h v hv => h.1.2 v (h.2 v hv)
  cases f with
  | none => exact truthy
  | _ => exact .seq (applyOne he fun h => h.2 x hx) fun _ => truthy

theorem bestByKey (x : Sequence.Extreme) (key : Value) {best : Value × Value} {vs : List Value}
    (hbest : C → best.2.Within S) (hvs : C → Value.AllWithin S vs) :
    Keeps S C (Value.Within S) (Sequence.bestByKey e x key best vs) := by
  induction vs generalizing best with
  | nil => exact pure hbest
  | cons v vs ih =>
    have hv (hC : C) : v.Within S := hvs hC v List.mem_cons_self
    have hrest (hC : C) : Value.AllWithin S vs := (List.forall_mem_cons.1 (hvs hC)).2
    refine .seq (applyOne he hv) fun k => .seq store fun s => .seq (check _) fun b => ?_
    exact ite (ih hv hrest) (ih hbest hrest)

end Engine

theorem bestOf_within {s : Store} {x : Sequence.Extreme} {best : Value × Value}
    {pairs : List (Value × Value)} (hbest : best.2.Within S) (h : ∀ p ∈ pairs, p.2.Within S) :
    Yields (Value.Within S) (Sequence.bestOf s x best pairs) := by
  induction pairs generalizing best with
  | nil => exact yields_ok.2 hbest
  | cons p rest ih =>
    obtain ⟨hp, hrest⟩ := List.forall_mem_cons.1 h
    exact .seq fun b => .ite (ih hp hrest) (ih hbest hrest)

section Engine

variable {e : Engine} (he : e.Keeps S) {args : List Value} {keywords : Keywords}
include he

theorem bestItem (x : Sequence.Extreme) (key : Value) (default : Option Value) (xs : List Value) :
    (C → ∀ v ∈ default, v.Within S) → (C → Value.AllWithin S xs) →
    Keeps S C (Value.Within S) (match xs, key, default with
      | [], _, some v => Pure.pure v
      | [], _, none => Run.fail (.value (x.name ++ "() arg is an empty sequence"))
      | v :: rest, .none, _ => do
        Run.ofExcept (Sequence.bestOf (← Run.store) x (v, v) (rest.map fun w => (w, w)))
      | v :: rest, key, _ => do
        Sequence.bestByKey e x key (← e.apply key [v] [], v) rest) := by
  intro hdefault hxs
  cases xs with
  | nil =>
    cases default with
    | none => exact fail _
    | some v => exact pure fun hC => hdefault hC v rfl
  | cons v rest =>
    have hv (hC : C) : v.Within S := hxs hC v List.mem_cons_self
    have hrest (hC : C) : Value.AllWithin S rest := (List.forall_mem_cons.1 (hxs hC)).2
    cases key with
    | none =>
      refine .seq store fun s => ofExcept fun hC => bestOf_within (hv hC) fun p hp => ?_
      obtain ⟨w, hw, rfl⟩ := List.mem_map.1 hp
      exact hrest hC w hw
    | _ => exact .seq (applyOne he hv) fun _ => bestByKey he x _ hv hrest

theorem extreme (x : Sequence.Extreme) (hargs : C → Value.AllWithin S args)
    (hkeywords : C → Scope.Within S keywords) :
    Keeps S C (Value.Within S) (Sequence.extreme e x args keywords) := by
  unfold Sequence.extreme
  refine .checked (fail _) fun _ => .bind (ofExcept fun hC => Slots.bind_within
    (nofun : Value.AllWithin S []) (hkeywords hC) x.slots) fun bound => .checked (fail _) fun _ => ?_
  have hdefault (h : C ∧ BoundWithin S bound) : ∀ v ∈ bound[1]?.join, v.Within S := fun v hv => by
    obtain ⟨o, ho, hv⟩ := Option.bind_eq_some_iff.1 hv
    exact h.2 o (List.mem_of_getElem? ho) v hv
  have hrest (h : C ∧ BoundWithin S bound) := hargs h.1
  obtain _ | ⟨v, _ | ⟨w, vs⟩⟩ := args
  · exact .bind (pure hrest) fun xs => bestItem he x _ _ xs (fun h => hdefault h.1) And.right
  · exact .bind iteratePlain fun xs => bestItem he x _ _ xs (fun h => hdefault h.1) And.right
  · exact .bind (pure hrest) fun xs => bestItem he x _ _ xs (fun h => hdefault h.1) And.right

theorem invokeBound (f : Builtin) {arg : Nat → Value → Value} {rest : List Value}
    (harg : C → ∀ i d, d.Within S → (arg i d).Within S) :
    Keeps S C (Value.Within S) (f.invokeBound e arg rest) := by
  have harg (hC : C) (i : Nat) {d : Value} (hd : d.Within S) := harg hC i d hd
  unfold Builtin.invokeBound
  cases f with
  | len => exact len
  | str => exact .seq display fun _ => pure fun _ => trivial
  | list => exact convertList fun hC => harg hC 0 trivial
  | int => exact ofExcept fun _ => Convert.int_within _ _
  | float => exact convertFloat fun hC => harg hC 0 trivial
  | bool => exact .seq truthy fun _ => pure fun _ => trivial
  | any => exact anyItem
  | all => exact allItems
  | range => exact range _
  | enumerate => exact enumerate _
  | zip => exact zip _
  | sorted => exact sorted he _ _
  | reversed => exact reversed
  | map => exact mapItems he _
  | filter => exact filterItems he _
  | _ => exact pure fun _ => trivial

theorem invoke (f : Builtin) (hargs : C → Value.AllWithin S args)
    (hkeywords : C → Scope.Within S keywords) :
    Keeps S C (Value.Within S) (f.invoke e args keywords) := by
  have hbound (sig : Signature) (hC : C) :=
    Signature.bind_within (hargs hC) (hkeywords hC) sig
  unfold Builtin.invoke
  cases f with
  | ord => exact ofExcept fun _ => .seq fun v => Convert.ord_within v
  | chr => exact ofExcept fun _ => .seq fun v => Convert.chr_within v
  | abs => exact computed fun _ => .seq fun v => Convert.abs_within v
  | sum =>
    exact .bind (ofExcept fun hC => Slots.bind_within (hargs hC) (hkeywords hC) _) fun bound =>
      sum fun h => argumentAt_within (d := .int 0) h.2 trivial 1
  | min => exact extreme he .least hargs hkeywords
  | max => exact extreme he .greatest hargs hkeywords
  | round =>
    exact .seq (check _) fun bound => computed fun _ => Convert.round_within _ _
  | _ =>
    exact .bind (ofExcept (hbound _)) fun p => invokeBound he _ fun h i d hd =>
      argumentAt_within h.2.1 hd i

theorem sort (ref : Nat) (args : List Value) (keywords : Keywords) :
    Keeps S C (Value.Within S) (ListMethod.sort e ref args keywords) := by
  unfold ListMethod.sort
  refine .seq (check _) fun bound => .seq (check _) fun n => .bind items fun xs =>
    .seq beginSort fun _ => .bind ?keys fun pairs => .bind (sortByKey _ And.right) fun o =>
      .seq (endSort fun h v hv => h.2 v (List.mem_toArray.1 hv)) fun touched => ?done
  case keys =>
    exact undoing (keyed he _ fun h v hv => h.2 v (Array.mem_toList_iff.1 hv)) (endSort And.right)
  case done =>
    cases o.failure with
    | some f => exact fail f
    | none => exact .checked (fail _) fun _ => pure fun _ => trivial

end Engine

/-! ## Methods and library functions -/

section Methods

variable {args : List Value} {keywords : Keywords}

theorem append (ref : Nat) (hargs : C → Value.AllWithin S args) :
    Keeps S C (Value.Within S) (ListMethod.append ref args keywords) :=
  .bind (ofExcept fun hC => exactlyOne_within (hargs hC) _) fun _ =>
    .seq (growList fun h _ hxs => Array.forall_mem_push.2 ⟨h.2, hxs⟩) fun _ => pure fun _ => trivial

theorem extend (ref : Nat) (args : List Value) (keywords : Keywords) :
    Keeps S C (Value.Within S) (ListMethod.extend ref args keywords) := by
  refine .seq (check _) fun v => .bind iteratePlain fun more =>
    .checked (growList fun h _ hxs => ?_) fun _ => pure fun _ => trivial
  exact Array.forall_mem_append.2 ⟨hxs, fun v hv => h.2 v (List.mem_toArray.1 hv)⟩

/-- A value among the items of a list, or nothing. -/
theorem itemAt_within {xs : Array Value} (h : ∀ v ∈ xs, v.Within S) (i : Nat) :
    (xs[i]?.getD .none).Within S := by
  cases hv : xs[i]? with
  | none => trivial
  | some v => exact h v (Array.mem_of_getElem? hv)

theorem erased_within {xs : Array Value} (h : ∀ v ∈ xs, v.Within S) (i : Nat) :
    ∀ v ∈ xs.eraseIdxIfInBounds i, v.Within S := by
  intro v hv
  unfold Array.eraseIdxIfInBounds at hv
  split at hv
  · exact h v (Array.mem_of_mem_eraseIdx hv)
  · exact h v hv

theorem inserted_within {xs : Array Value} (h : ∀ v ∈ xs, v.Within S) (hv : v.Within S) (i : Nat) :
    ∀ w ∈ xs.insertIdxIfInBounds i v, w.Within S := by
  intro w hw
  unfold Array.insertIdxIfInBounds at hw
  split at hw
  · obtain rfl | hw := Array.mem_insertIdx.1 hw
    · exact hv
    · exact h w hw
  · exact h w hw

theorem pop (ref : Nat) (args : List Value) (keywords : Keywords) :
    Keeps S C (Value.Within S) (ListMethod.pop ref args keywords) := by
  unfold ListMethod.pop
  refine .seq (check _) fun _ => .seq (check _) fun _ => .seq (check _) fun i =>
    .seq items fun xs => .checked (fail _) fun _ => ?_
  cases position? xs.size i with
  | none => exact fail _
  | some j =>
    exact .bind items fun ys => .seq (modifyItems fun _ _ hxs => erased_within hxs j) fun _ =>
      pure fun h => itemAt_within h.2 j

theorem insert (ref : Nat) (hargs : C → Value.AllWithin S args) :
    Keeps S C (Value.Within S) (ListMethod.insert ref args keywords) :=
  .seq (check _) fun _ => .seq (check _) fun _ => .seq (check _) fun _ => .seq items fun _ =>
    .seq (growList fun hC _ hxs => inserted_within hxs (getD_within (d := .none) (hargs hC) trivial 1) _)
      fun _ => pure fun _ => trivial

theorem index (ref : Nat) (args : List Value) (keywords : Keywords) :
    Keeps S C (Value.Within S) (ListMethod.index ref args keywords) := by
  unfold ListMethod.index
  refine .seq (check _) fun _ => .seq (check _) fun _ => .seq (check _) fun start =>
    .seq (check _) fun stop => .seq items fun xs => .seq store fun s => .seq (check _) fun o => ?_
  cases o with
  | none => exact .seq repr fun _ => fail _
  | some i => exact pure fun _ => trivial

theorem count (ref : Nat) (args : List Value) (keywords : Keywords) :
    Keeps S C (Value.Within S) (ListMethod.count ref args keywords) :=
  .seq (check _) fun _ => .seq store fun _ => .seq items fun _ => .seq (check _) fun _ =>
    pure fun _ => trivial

theorem remove (ref : Nat) (args : List Value) (keywords : Keywords) :
    Keeps S C (Value.Within S) (ListMethod.remove ref args keywords) := by
  unfold ListMethod.remove
  refine .seq (check _) fun v => .bind items fun xs => .seq store fun s => .seq (check _) fun o => ?_
  cases o with
  | none => exact fail _
  | some i => exact .seq (setItems fun h => erased_within h.2 i) fun _ => pure fun _ => trivial

theorem reverse (ref : Nat) (args : List Value) (keywords : Keywords) :
    Keeps S C (Value.Within S) (ListMethod.reverse ref args keywords) :=
  .seq (check _) fun _ => .bind items fun _ =>
    .seq (setItems fun h v hv => h.2 v (Array.mem_reverse.1 hv)) fun _ => pure fun _ => trivial

theorem split (self : List Char) (args : List Value) (keywords : Keywords) :
    Keeps S C (Value.Within S) (TextMethod.split self args keywords) := by
  unfold TextMethod.split
  refine .seq (check _) fun bound => .seq (check _) fun n => ?_
  cases argumentAt bound 0 .none with
  | none => exact newTextList _
  | str sep => exact .checked (fail _) fun _ => newTextList _
  | _ => exact fail _

theorem join (hv : C → v.Within S) (args : List Value) (keywords : Keywords) :
    Keeps S C (Value.Within S) (TextMethod.join v args keywords) := by
  unfold TextMethod.join
  refine .seq (check _) fun p => .seq iterate fun xs => .seq (check _) fun pieces => ?_
  cases v with
  | str sep => exact pure fun _ => trivial
  | _ => exact pure hv

theorem lookAtClock : Keeps S C (Value.Within S) Run.lookAtClock :=
  .seq (onStore (Q := fun _ => True) (fun s => (s.host.clock.reading s.looks, { s with looks := s.looks + 1 }))
    (fun _ => .of_eq rfl rfl rfl) fun _ _ hs _ => ⟨{ hs with }, trivial⟩) fun reading =>
      fresh (v := .float reading) fun _ => trivial

theorem native (f : Native) (args : List Value) (keywords : Keywords) :
    Keeps S C (Value.Within S) (f.invoke args keywords) := by
  unfold Native.invoke
  cases f with
  | decode64 =>
    refine .seq (check _) fun _ => .seq (check _) fun _ => newListOf fun _ v hv => ?_
    obtain ⟨n, -, rfl⟩ := List.mem_map.1 hv
    trivial
  | encode64 =>
    exact .seq (check _) fun _ => .seq store fun _ => .seq (check _) fun _ => pure fun _ => trivial
  | makeLock => exact ite newLock (fail _)
  | sleep => exact .seq (check _) fun _ => pure fun _ => trivial
  | now => exact .seq (check _) fun _ => lookAtClock
  | sqrt => exact computed fun _ => .seq fun v => Native.squareRoot_within v
  | floor => exact ofExcept fun _ => .seq fun v => Native.rounded_within _ v
  | ceil => exact ofExcept fun _ => .seq fun v => Native.rounded_within _ v
  | gcd => exact .seq (check _) fun _ => ofExcept fun _ => Native.commonDivisor_within args

section Objects

variable (ref : Nat) (hargs : C → Value.AllWithin S args) (hkeywords : C → Scope.Within S keywords)
include hargs hkeywords

theorem deposit : Keeps S C (Value.Within S) (Expression.deposit ref args keywords) :=
  .bind (ofExcept fun hC => amountOf_within (hargs hC) (hkeywords hC) _ ref) fun _ =>
    .seq store fun _ => .bind (plainAdd _ _) fun _ => .seq (setField And.right) fun _ =>
      pure fun h => h.1.2

theorem withdraw : Keeps S C (Value.Within S) (Expression.withdraw ref args keywords) :=
  .bind (ofExcept fun hC => amountOf_within (hargs hC) (hkeywords hC) _ ref) fun _ =>
    .seq store fun _ => .seq (compareBy _ _ _) fun _ =>
      ite (.bind (plainSub _ _) fun _ => .seq (setField And.right) fun _ => pure fun h => h.1.2)
        (pure fun _ => trivial)

end Objects

/-! Methods are found by name, and the cases follow the tables. -/

theorem textMethod {name self : String} {method : List Value → Keywords → Run Value}
    (h : TextMethod.ofName? name self = some method) (args : List Value) (keywords : Keywords) :
    Keeps S C (Value.Within S) (method args keywords) := by
  unfold TextMethod.ofName? at h
  split at h <;> cases h
  · exact ofExcept fun _ => TextMethod.replace_within _ args keywords
  · exact split _ args keywords
  · exact ofExcept fun _ => TextMethod.everyChar_within _ _ _ args keywords
  · exact ofExcept fun _ => TextMethod.everyChar_within _ _ _ args keywords
  · exact ofExcept fun _ => TextMethod.changed_within _ _ _ args keywords
  · exact ofExcept fun _ => TextMethod.changed_within _ _ _ args keywords
  · exact ofExcept fun _ => TextMethod.strip_within _ args keywords
  · exact join (v := .str self) (fun _ => trivial) args keywords
  · exact ofExcept fun _ => TextMethod.endTest_within _ _ _ args keywords
  · exact ofExcept fun _ => TextMethod.endTest_within _ _ _ args keywords

theorem lockMethod {self : Value} {name : String} {method : List Value → Keywords → Run Value}
    (h : Expression.lockMethod? self name = some method) (args : List Value)
    (keywords : Keywords) : Keeps S C (Value.Within S) (method args keywords) := by
  unfold Expression.lockMethod? at h
  split at h <;> cases h
  · exact .seq (check _) fun _ => pure fun _ => trivial
  · exact .seq (check _) fun _ => pure fun _ => trivial

theorem objectMethod {ref : Nat} {name : String} {method : List Value → Keywords → Run Value}
    (h : Expression.objectMethod? ref name = some method) (hargs : C → Value.AllWithin S args)
    (hkeywords : C → Scope.Within S keywords) :
    Keeps S C (Value.Within S) (method args keywords) := by
  unfold Expression.objectMethod? at h
  split at h <;> cases h
  · exact deposit ref hargs hkeywords
  · exact withdraw ref hargs hkeywords

theorem listMethod {e : Engine} (he : e.Keeps S) {name : String} {ref : Nat}
    {method : List Value → Keywords → Run Value} (h : ListMethod.ofName? e name ref = some method)
    (hargs : C → Value.AllWithin S args) : Keeps S C (Value.Within S) (method args keywords) := by
  unfold ListMethod.ofName? at h
  split at h <;> cases h
  · exact append ref hargs
  · exact pop ref args keywords
  · exact insert ref hargs
  · exact extend ref args keywords
  · exact index ref args keywords
  · exact count ref args keywords
  · exact remove ref args keywords
  · exact sort he ref args keywords
  · exact reverse ref args keywords

theorem method {e : Engine} (he : e.Keeps S) {name : String}
    {method : List Value → Keywords → Run Value} (h : Expression.method? e v name = some method)
    (hargs : C → Value.AllWithin S args) (hkeywords : C → Scope.Within S keywords) :
    Keeps S C (Value.Within S) (method args keywords) := by
  cases v with
  | str t => exact textMethod h args keywords
  | list ref => exact listMethod he h hargs
  | object ref => exact objectMethod h hargs hkeywords
  | lock ref => exact lockMethod h args keywords
  | _ => cases h

/-! ## Calls, attributes and items -/

theorem noAttribute {α : Type} {Q : α → Prop} (v : Value) (name : String) :
    Keeps S C Q (do Run.fail (← Expression.noAttribute v name)) :=
  .seq (P := fun _ => True) (.seq typeName fun _ => pure fun _ => trivial) fun f => fail f

theorem attributeOf (v : Value) (name : String) :
    Keeps S C (Value.Within S) (Expression.attributeOf v name) := by
  unfold Expression.attributeOf
  refine .bind store fun s => ?_
  dsimp only
  split
  · next w hw =>
    refine pure fun h => ?_
    split at hw
    · obtain ⟨o, ho, hfield⟩ := Option.bind_eq_some_iff.1 hw
      exact (h.2.objects o (Array.mem_of_getElem? ho)).get? hfield
    · exact Library.attribute?_within hw
    · cases hw
  · exact noAttribute v name

theorem take_within {xs : Array Value} (sl : Slice) (h : ∀ v ∈ xs, v.Within S) :
    ∀ v ∈ sl.take xs, v.Within S := by
  intro v hv
  obtain ⟨i, -, hi⟩ := Array.mem_filterMap.1 hv
  exact h v (Array.mem_of_getElem? hi)

theorem slice (hv : C → v.Within S) (start stop step : Value) :
    Keeps S C (Value.Within S) (Expression.slice v start stop step) := by
  unfold Expression.slice
  refine .seq (check _) fun sl => ?_
  cases v with
  | list ref => exact .bind items fun _ => newList fun h => take_within sl h.2
  | str t => exact pure fun _ => trivial
  | _ => exact pure hv

theorem item (v key : Value) : Keeps S C (Value.Within S) (Expression.item v key) := by
  unfold Expression.item
  cases Expression.subscriptIndex? key with
  | none => exact .seq typeName fun _ => .seq typeName fun _ => fail _
  | some i =>
    refine .bind store fun s => ?_
    dsimp only
    split
    · next w hw =>
      refine pure fun h => ?_
      obtain ⟨j, -, hj⟩ := Option.bind_eq_some_iff.1 hw
      have hmem := Array.mem_of_getElem? hj
      split at hmem
      · next ref => exact h.2.items ref w hmem
      · next t => exact characters_within t w (List.mem_toArray.1 hmem)
      · exact absurd hmem (Array.not_mem_empty w)
    · exact .seq typeName fun _ => fail _

theorem callValue {e : Engine} (he : e.Keeps S) (v : Value) (hargs : C → Value.AllWithin S args)
    (hkeywords : C → Scope.Within S keywords) :
    Keeps S C (Value.Within S) (Expression.callValue e v args keywords) :=
  ite (guardCall (he.apply hargs hkeywords)) (.seq typeName fun _ => fail _)

theorem callMethod {e : Engine} (he : e.Keeps S) (v : Value) (name : String)
    (hargs : C → Value.AllWithin S args) (hkeywords : C → Scope.Within S keywords) :
    Keeps S C (Value.Within S) (Expression.callMethod e v name args keywords) := by
  unfold Expression.callMethod
  split
  · split
    · exact callValue he _ hargs hkeywords
    · exact fail _
  · split
    · next m hm => exact guardCall (method he hm hargs hkeywords)
    · exact noAttribute _ name

end Methods

end Keeps

end SnippetGrader
