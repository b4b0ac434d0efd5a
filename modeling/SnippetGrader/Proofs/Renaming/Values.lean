import Mathlib.Logic.Function.Basic
import SnippetGrader.Value.Arithmetic

/-!
# Other names for the things in a store

A list, a function and a result that is no number are known by the place at which they were put into
the store. Nothing that is computed from values depends on these places: if the things of one store
stand at other places in another one (`Store.Renames`), then the values that refer to them there have
the same texts, the same truth, the same order and the same numbers.
-/

namespace SnippetGrader

/-- Places for the things of a store; different things have different places. -/
structure Renaming where
  lists : Nat → Nat
  functions : Nat → Nat
  nans : Nat → Nat
  lists_injective : Function.Injective lists
  functions_injective : Function.Injective functions
  nans_injective : Function.Injective nans

variable {ρ : Renaming}

namespace Value

/-- The value that refers to the same thing at its other place. -/
def rename (ρ : Renaming) : Value → Value
  | list ref => list (ρ.lists ref)
  | function ref => function (ρ.functions ref)
  | nan ref => nan (ρ.nans ref)
  | v => v

/-- The value refers to no list, to no function and to no result that is no number. -/
def IsBare : Value → Prop
  | list _ | function _ | nan _ => False
  | _ => True

theorem IsBare.rename {v : Value} (h : v.IsBare) : v.rename ρ = v := by
  cases v with
  | list ref | function ref | nan ref => exact absurd h id
  | _ => rfl

theorem rename_injective (ρ : Renaming) : Function.Injective (rename ρ) := by
  intro v w h
  cases v with
  | list a =>
    cases w with
    | list b => exact congrArg list (ρ.lists_injective (list.inj h))
    | _ => cases h
  | function a =>
    cases w with
    | function b => exact congrArg function (ρ.functions_injective (function.inj h))
    | _ => cases h
  | nan a =>
    cases w with
    | nan b => exact congrArg nan (ρ.nans_injective (nan.inj h))
    | _ => cases h
  | _ =>
    cases w with
    | list b | function b | nan b => cases h
    | _ => exact h

theorem same_rename (v w : Value) : same (v.rename ρ) (w.rename ρ) = same v w := by
  cases v with
  | list a =>
    cases w with
    | list b => simp only [rename, same, beq_eq_beq, ρ.lists_injective.eq_iff]
    | _ => rfl
  | function a =>
    cases w with
    | function b => simp only [rename, same, beq_eq_beq, ρ.functions_injective.eq_iff]
    | _ => rfl
  | nan a =>
    cases w with
    | nan b => simp only [rename, same, beq_eq_beq, ρ.nans_injective.eq_iff]
    | _ => rfl
  | _ => cases w <;> rfl

end Value

/-! ## Stores -/

namespace Store

/-- The things of `s` stand at their other places in `s'`, and so do those that are made next. -/
structure Renames (ρ : Renaming) (s s' : Store) : Prop where
  items : ∀ ref, s'.items (ρ.lists ref) = (s.items ref).map (Value.rename ρ)
  list : ∀ k, ρ.lists (s.lists.size + k) = s'.lists.size + k
  nan : ∀ k, ρ.nans (s.nans + k) = s'.nans + k
  functions : ∀ ref,
    s'.functions[ρ.functions ref]?.map (·.name) = s.functions[ref]?.map (·.name)
  objects : s'.objects = s.objects
  templates : s'.templates = s.templates
  host : s'.host = s.host

variable {s s' : Store} (h : s.Renames ρ s')
include h

theorem Renames.className (ref : Nat) : s'.className ref = s.className ref := by
  rw [Store.className, Store.className, h.objects, h.templates]

/-- A new list has the place at which it is put. -/
theorem Renames.push (xs : Array Value) :
    { s with lists := s.lists.push xs }.Renames ρ
      { s' with lists := s'.lists.push (xs.map (Value.rename ρ)) } where
  items ref := by
    have hitems := h.items ref
    have hlast := h.list 0
    simp only [Store.items, Array.getElem?_push] at hitems ⊢
    by_cases href : ref = s.lists.size
    · rw [if_pos href, href, if_pos (by simpa using hlast)]
      rfl
    · have hplace : ρ.lists ref ≠ s'.lists.size := fun heq =>
        href (ρ.lists_injective (heq.trans hlast.symm))
      rw [if_neg href, if_neg hplace]
      exact hitems
  list k := by
    have hnext := h.list (k + 1)
    simp only [Array.size_push]
    rw [Nat.add_assoc, Nat.add_assoc, Nat.add_comm 1 k]
    exact hnext
  nan := h.nan
  functions := h.functions
  objects := h.objects
  templates := h.templates
  host := h.host

theorem Renames.newNan : { s with nans := s.nans + 1 }.Renames ρ { s' with nans := s'.nans + 1 } where
  items := h.items
  list := h.list
  nan k := by
    have hnext := h.nan (k + 1)
    rw [Nat.add_assoc, Nat.add_assoc, Nat.add_comm 1 k]
    exact hnext
  functions := h.functions
  objects := h.objects
  templates := h.templates
  host := h.host

end Store

/-! ## Texts, truth and order -/

namespace Value

variable {s s' : Store} (h : s.Renames ρ s')
include h

theorem typeName_rename (v : Value) : (v.rename ρ).typeName s' = v.typeName s := by
  cases v with
  | object ref => exact h.className ref
  | _ => rfl

theorem truthy_rename (v : Value) : (v.rename ρ).truthy s' = v.truthy s := by
  cases v with
  | list ref =>
    simp only [rename, truthy, h.items, Array.isEmpty, Array.size_map]
  | _ => rfl

theorem plainRepr_rename (v : Value) : (v.rename ρ).plainRepr s' = v.plainRepr s := by
  cases v with
  | function ref => simp only [rename, plainRepr, h.functions]
  | template ref => simp only [rename, plainRepr, h.templates]
  | object ref => simp only [rename, plainRepr, h.className]
  | builtin f => simp only [rename, plainRepr, h.host]
  | native f => cases f <;> simp only [rename, plainRepr, h.host]
  | _ => rfl

theorem reprWithin_rename (outer : List Nat) (depth : Nat) (v : Value) :
    reprWithin s' (outer.map ρ.lists) depth (v.rename ρ) = reprWithin s outer depth v := by
  induction depth generalizing outer v with
  | zero => rfl
  | succ depth ih =>
    cases v with
    | list ref =>
      have houter : (outer.map ρ.lists).contains (ρ.lists ref) = outer.contains ref := by
        simp [ρ.lists_injective.eq_iff]
      have hitems : reprWithin s' (ρ.lists ref :: outer.map ρ.lists) depth ∘ rename ρ =
          reprWithin s (ref :: outer) depth := funext fun v => ih (ref :: outer) v
      simp only [rename, reprWithin, houter, h.items, Array.toList_map, List.mapM_map, hitems]
    | _ =>
      unfold reprWithin
      exact congrArg (Except.mapError Stop.failed) (plainRepr_rename h _)

theorem displayText_rename (v : Value) : (v.rename ρ).displayText s' = v.displayText s := by
  have hrepr : (v.rename ρ).reprText s' = v.reprText s := by
    rw [reprText, reprText, h.host]
    exact reprWithin_rename h [] s.host.nesting v
  cases v <;> first | rfl | exact hrepr

omit h in
theorem agree_rename {eq eq' : Value → Value → Except Failure Bool}
    (heq : ∀ v w, eq' (v.rename ρ) (w.rename ρ) = eq v w) (v w : Value) :
    agree eq' (v.rename ρ) (w.rename ρ) = agree eq v w := by
  simp only [agree, same_rename, heq]

omit h in
theorem allEqual_rename {eq eq' : Value → Value → Except Failure Bool}
    (heq : ∀ v w, eq' (v.rename ρ) (w.rename ρ) = eq v w) (vs ws : List Value) :
    allEqual eq' (vs.map (rename ρ)) (ws.map (rename ρ)) = allEqual eq vs ws := by
  induction vs generalizing ws with
  | nil => cases ws <;> rfl
  | cons v vs ih =>
    cases ws with
    | nil => rfl
    | cons w ws => simp only [List.map_cons, allEqual, agree_rename heq, ih]

theorem eqWithin_rename (depth : Nat) (v w : Value) :
    eqWithin s' depth (v.rename ρ) (w.rename ρ) = eqWithin s depth v w := by
  induction depth generalizing v w with
  | zero => rfl
  | succ depth ih =>
    cases v with
    | list a =>
      cases w with
      | list b =>
        simp only [rename, eqWithin, h.items, Array.size_map, Array.toList_map,
          allEqual_rename ih, beq_iff_eq, ρ.lists_injective.eq_iff]
      | _ => rfl
    | function a =>
      cases w with
      | function b => exact congrArg Except.ok (same_rename (function a) (function b))
      | _ => rfl
    | _ => cases w <;> rfl

theorem eq_rename (v w : Value) : eq s' (v.rename ρ) (w.rename ρ) = eq s v w := by
  rw [eq, eq, h.host]
  exact eqWithin_rename h s.host.nesting v w

theorem itemEq_rename (v w : Value) : itemEq s' (v.rename ρ) (w.rename ρ) = itemEq s v w :=
  agree_rename (eq_rename h) v w

theorem anyEqual_rename (v : Value) (ws : List Value) :
    anyEqual s' (v.rename ρ) (ws.map (rename ρ)) = anyEqual s v ws := by
  induction ws with
  | nil => rfl
  | cons w ws ih => simp only [List.map_cons, anyEqual, itemEq_rename h, ih]

omit h in
theorem firstDifference_rename {eq eq' : Value → Value → Except Failure Bool}
    (heq : ∀ v w, eq' (v.rename ρ) (w.rename ρ) = eq v w) (vs ws : List Value) :
    firstDifference eq' (vs.map (rename ρ)) (ws.map (rename ρ)) =
      (fun p => (p.1.map (rename ρ), p.2.map (rename ρ))) <$> firstDifference eq vs ws := by
  induction vs generalizing ws with
  | nil => cases ws <;> rfl
  | cons v vs ih =>
    cases ws with
    | nil => rfl
    | cons w ws =>
      simp only [List.map_cons, firstDifference, agree_rename heq, ih]
      cases agree eq v w with
      | error f => rfl
      | ok same => cases same <;> rfl

theorem relateWithin_rename (r : Relation) (depth : Nat) (v w : Value) :
    relateWithin s' r depth (v.rename ρ) (w.rename ρ) = relateWithin s r depth v w := by
  induction depth generalizing v w with
  | zero => rfl
  | succ depth ih =>
    cases v with
    | list a =>
      cases w with
      | list b =>
        simp only [rename, relateWithin, h.items, Array.toList_map, beq_iff_eq,
          ρ.lists_injective.eq_iff, firstDifference_rename (eqWithin_rename h depth)]
        generalize firstDifference (eqWithin s depth) (s.items a).toList (s.items b).toList = found
        split
        · rfl
        · obtain f | ⟨_ | ⟨v, vs⟩, _ | ⟨w, ws⟩⟩ := found
          · rfl
          · rfl
          · exact congrArg (fun n => Except.ok (r.holds (compare 0 (n + 1)))) (List.length_map ..)
          · exact congrArg (fun n => Except.ok (r.holds (compare (n + 1) 0))) (List.length_map ..)
          · exact ih v w
      | _ => rfl
    | _ => cases w <;> rfl

theorem isMember_rename (v w : Value) :
    isMember s' (v.rename ρ) (w.rename ρ) = isMember s v w := by
  cases w with
  | list ref => simp only [rename, isMember, h.items, Array.toList_map, ← anyEqual_rename h]
  | str t => cases v <;> rfl
  | object ref => simp only [rename, isMember, typeName, h.className]
  | _ => rfl

theorem compareBy_rename (c : Comparison) (v w : Value) :
    compareBy s' c (v.rename ρ) (w.rename ρ) = compareBy s c v w := by
  cases c with
  | eq | ne => simp only [compareBy, eq_rename h]
  | order r =>
    rw [compareBy, compareBy, relate, relate, h.host]
    exact relateWithin_rename h r s.host.nesting v w
  | member | notMember => simp only [compareBy, isMember_rename h]
  | identical | distinct => simp only [compareBy, same_rename]

end Value

def operandNumber? : Value → Option Num
  | .str t => numberOfText? t.toList
  | v => Num.ofValue? v

theorem operandNumber?_rename (v : Value) : operandNumber? (v.rename ρ) = operandNumber? v := by
  cases v <;> rfl

theorem operand_eq (s : Store) (op : String) (v : Value) :
    operand s op v = match operandNumber? v with
      | some n => .ok n
      | none => .error (.type
          ("unsupported operand type(s) for " ++ op ++ ": '" ++ v.typeName s ++ "'")) := rfl

theorem operand_rename {s s' : Store} (h : s.Renames ρ s') (op : String) (v : Value) :
    operand s' op (v.rename ρ) = operand s op v := by
  rw [operand_eq, operand_eq, operandNumber?_rename, v.typeName_rename h]

/-! ## Arithmetic -/

namespace Num

theorem floats_isBare {f : Float → Float → Except Failure Value}
    (hf : ∀ x y v, f x y = .ok v → v.IsBare) {a b : Num} {v : Value}
    (hv : (do f (← a.toFloat) (← b.toFloat)) = .ok v) : v.IsBare := by
  cases ha : a.toFloat with
  | error _ =>
    rw [ha] at hv
    cases hv
  | ok x =>
    cases hb : b.toFloat with
    | error _ =>
      rw [ha, hb] at hv
      cases hv
    | ok y =>
      rw [ha, hb] at hv
      exact hf x y v hv

theorem combine_isBare {onInts : Int → Int → Except Failure Value}
    {onFloats : Float → Float → Except Failure Value}
    (hi : ∀ m n v, onInts m n = .ok v → v.IsBare) (hf : ∀ x y v, onFloats x y = .ok v → v.IsBare)
    {a b : Num} {v : Value} (hv : combine onInts onFloats a b = .ok v) : v.IsBare := by
  cases a with
  | int m =>
    cases b with
    | int n => exact hi m n v hv
    | float y => exact floats_isBare hf hv
  | float x => exact floats_isBare hf hv

theorem powFloats_isBare (x y : Float) (v : Value) (hv : powFloats x y = .ok v) : v.IsBare := by
  unfold powFloats at hv
  split at hv <;> cases hv <;> trivial

theorem pow_isBare {a b : Num} {v : Value} (hv : a.pow b = .ok v) : v.IsBare := by
  cases a with
  | int m =>
    cases b with
    | int n =>
      rw [pow] at hv
      split at hv
      · cases hv
        trivial
      · exact floats_isBare powFloats_isBare hv
    | float y => exact floats_isBare powFloats_isBare hv
  | float x => exact floats_isBare powFloats_isBare hv

end Num

/-- Arithmetic gives numbers, which refer to nothing. -/
theorem Operator.onNumbers_isBare {op : Operator} {a b : Num} {v : Value}
    (hv : op.onNumbers a b = .ok v) : v.IsBare := by
  cases op with
  | add | sub | mul =>
    refine Num.combine_isBare (fun m n v h => ?_) (fun x y v h => ?_) hv
    all_goals
      cases h
      trivial
  | div =>
    refine Num.combine_isBare (fun m n v h => ?_) (fun x y v h => ?_) hv
    · split at h
      · cases h
      · split at h <;> cases h
        trivial
    · split at h <;> cases h
      trivial
  | floorDiv | mod =>
    refine Num.combine_isBare (fun m n v h => ?_) (fun x y v h => ?_) hv
    all_goals
      split at h <;> cases h
      trivial
  | pow =>
    simp only [onNumbers] at hv
    split at hv
    · cases hv
    · exact Num.pow_isBare hv
  | other t => cases hv

end SnippetGrader
