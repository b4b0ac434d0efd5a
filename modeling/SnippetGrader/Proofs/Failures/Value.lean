import SnippetGrader.Builtin.Signature
import SnippetGrader.Proofs.Failures.Basic
import SnippetGrader.Value.Format
import SnippetGrader.Value.Slice

/-!
# Failures of computations with values

Binding arguments, arithmetic, formats, texts and comparisons note no line on their failures.
-/

namespace SnippetGrader

/-! ## Arguments -/

section Arguments

variable (args : List Value) (keywords : Keywords)

@[simp] theorem Signature.checkKeywords_unplaced (sig : Signature) (count : Nat) :
    Unplaced (sig.checkKeywords count keywords) := by
  induction keywords with
  | nil => trivial
  | cons p rest ih =>
    unfold checkKeywords
    split <;> simp [ih]

@[simp] theorem Signature.bind_unplaced (sig : Signature) : Unplaced (sig.bind args keywords) := by
  simp [Signature.bind, checkCount, checkMissing]

@[simp] theorem Slots.checkRequired_unplaced (slots : Slots) (i : Nat) (names : List String) :
    Unplaced (slots.checkRequired keywords i names) := by
  induction names generalizing i with
  | nil => trivial
  | cons p rest ih => simp [checkRequired, ih]

@[simp] theorem Slots.checkNames_unplaced (slots : Slots) (positional : Nat) :
    Unplaced (slots.checkNames positional keywords) := by
  unfold checkNames
  dsimp only
  split
  · simp
  · split <;> simp

@[simp] theorem Slots.bind_unplaced (slots : Slots) : Unplaced (slots.bind args keywords) := by
  simp [Slots.bind, checkCount]

@[simp] theorem noKeywords_unplaced (name : String) : Unplaced (noKeywords name keywords) := by
  simp [noKeywords]

@[simp] theorem noArguments_unplaced (name : String) :
    Unplaced (noArguments name args keywords) := by
  simp [noArguments]

@[simp] theorem exactlyOne_unplaced (name : String) : Unplaced (exactlyOne name args keywords) := by
  unfold exactlyOne
  split <;> simp

@[simp] theorem between_unplaced (name : String) (least most : Nat) :
    Unplaced (between name least most args) := by
  simp [between]

@[simp] theorem asIndex_unplaced (v : Value) : Unplaced (asIndex v) := by
  unfold asIndex
  split <;> simp

@[simp] theorem asCount_unplaced (v : Value) : Unplaced (asCount v) := by
  simp [asCount]

@[simp] theorem asSmall_unplaced (v : Value) : Unplaced (asSmall v) := by
  simp [asSmall]

end Arguments

/-! ## Numbers -/

namespace Num

variable (a b : Num)

@[simp] theorem toFloat_unplaced : Unplaced a.toFloat := by
  cases a with
  | int n =>
    simp only [toFloat]
    split <;> simp
  | float x => trivial

theorem combine_unplaced {onInts : Int → Int → Except Failure Value}
    {onFloats : Float → Float → Except Failure Value} (hi : ∀ m n, Unplaced (onInts m n))
    (hf : ∀ x y, Unplaced (onFloats x y)) : Unplaced (combine onInts onFloats a b) := by
  unfold combine
  split <;> simp [hi, hf]

@[simp] theorem add_unplaced : Unplaced (a.add b) :=
  combine_unplaced a b (fun _ _ => trivial) fun _ _ => trivial

@[simp] theorem sub_unplaced : Unplaced (a.sub b) :=
  combine_unplaced a b (fun _ _ => trivial) fun _ _ => trivial

@[simp] theorem mul_unplaced : Unplaced (a.mul b) :=
  combine_unplaced a b (fun _ _ => trivial) fun _ _ => trivial

@[simp] theorem div_unplaced : Unplaced (a.div b) := by
  refine combine_unplaced a b (fun m n => ?_) fun x y => by simp
  split
  · simp
  · split <;> simp

@[simp] theorem floorDiv_unplaced : Unplaced (a.floorDiv b) :=
  combine_unplaced a b (fun _ _ => by simp) fun _ _ => by simp

@[simp] theorem mod_unplaced : Unplaced (a.mod b) :=
  combine_unplaced a b (fun _ _ => by simp) fun _ _ => by simp

@[simp] theorem powFloats_unplaced (x y : Float) : Unplaced (powFloats x y) := by
  unfold powFloats
  split <;> simp

@[simp] theorem pow_unplaced : Unplaced (a.pow b) := by
  unfold pow
  split <;> simp

end Num

@[simp] theorem operand_unplaced (s : Store) (op : String) (v : Value) :
    Unplaced (operand s op v) := by
  unfold operand
  dsimp only
  split <;> simp

@[simp] theorem Operator.onNumbers_unplaced (op : Operator) (a b : Num) :
    Unplaced (op.onNumbers a b) := by
  cases op <;> simp [onNumbers]

@[simp] theorem repetitions_unplaced (length : Nat) (count : Int) :
    Unplaced (repetitions length count) := by
  simp [repetitions]

theorem Run.complexParts?_unplaced {v : Value} {r : Except Failure (Float × Float)}
    (h : complexParts? v = some r) : Unplaced r := by
  unfold complexParts? at h
  split at h
  · cases h
    trivial
  · obtain ⟨n, -, rfl⟩ := Option.map_eq_some_iff.1 h
    simp

@[simp] theorem Run.plainNumeric_unplaced {op : String} {onReal : Num → Num → Except Failure Value}
    (h : ∀ a b, Unplaced (onReal a b)) (onPart : Float → Float → Float) (v w : Value) :
    Unplaced (plainNumeric op onReal onPart v w) := by
  unfold plainNumeric
  split
  · exact h _ _
  · split
    · next a b ha hb => simp [complexParts?_unplaced ha, complexParts?_unplaced hb]
    · simp [unsupported]

/-! ## Formats -/

@[simp] theorem intText_unplaced (n : Int) : Unplaced (intText n) := by
  unfold intText
  -- the bound is a number that must not be computed
  generalize Number.tenPow Number.maxDigits = bound
  split
  · exact onlyErrors_ok _
  · exact Failure.unplaced_value _

namespace FormatSpec

@[simp] theorem readNumber_unplaced (text : List Char) : Unplaced (readNumber text) := by
  unfold readNumber
  dsimp only
  split
  · simp
  · split <;> simp

@[simp] theorem checkGrouping_unplaced (usual : Option Char) (spec : FormatSpec) :
    Unplaced (checkGrouping usual spec) := by
  unfold checkGrouping
  split <;> simp

@[simp] theorem splitGrouping_unplaced (text : List Char) : Unplaced (splitGrouping text) := by
  unfold splitGrouping
  dsimp only
  split <;> simp

@[simp] theorem splitPrecision_unplaced (text : List Char) : Unplaced (splitPrecision text) := by
  unfold splitPrecision
  split
  · simp only [onlyErrors_bind, readNumber_unplaced, true_and]
    intro found _
    split <;> simp
  · simp

@[simp] theorem unknownType_unplaced (c : Char) (typeName : String) :
    (unknownType c typeName).Unplaced := rfl

@[simp] theorem parse_unplaced (numeric : Bool) (typeName : String) (text : List Char) :
    Unplaced (parse numeric typeName text) := by
  unfold parse
  simp only [onlyErrors_bind, readNumber_unplaced, splitGrouping_unplaced, splitPrecision_unplaced,
    true_and]
  intro _ _ _ _ _ _
  split <;> simp

variable (spec : FormatSpec)

@[simp] theorem formatFloat_unplaced (x : Float) : Unplaced (spec.formatFloat x) := by
  unfold formatFloat
  split <;> trivial

@[simp] theorem intDigits_unplaced (type : Char) (n : Nat) : Unplaced (intDigits type n) := by
  simp [intDigits]

@[simp] theorem formatCharacter_unplaced (n : Int) : Unplaced (spec.formatCharacter n) := by
  simp [formatCharacter]

@[simp] theorem formatInt_unplaced (type : Char) (n : Int) : Unplaced (spec.formatInt type n) := by
  simp [formatInt]

@[simp] theorem formatText_unplaced (text : List Char) : Unplaced (spec.formatText text) := by
  simp [formatText]

@[simp] theorem formatComplex_unplaced (re im : Float) : Unplaced (spec.formatComplex re im) := by
  simp [formatComplex]

end FormatSpec

namespace Value

variable (s : Store)

@[simp] theorem formatIntBy_unplaced (n : Int) (typeName : String) (spec : FormatSpec) :
    Unplaced (formatIntBy n typeName spec) := by
  simp [formatIntBy]

@[simp] theorem formatFloatBy_unplaced (x : Float) (spec : FormatSpec) :
    Unplaced (formatFloatBy x spec) := by
  simp [formatFloatBy]

@[simp] theorem formatBy_unplaced (v : Value) (text : List Char) : Unplaced (v.formatBy text) := by
  cases v with
  | str t =>
    simp only [formatBy, onlyErrors_bind, FormatSpec.parse_unplaced, true_and]
    intro spec _
    split <;> simp
  | _ => simp [formatBy]

/-! ## Texts -/

@[simp] theorem plainRepr_unplaced (v : Value) : Unplaced (v.plainRepr s) := by
  unfold plainRepr
  split <;> simp

@[simp] theorem reprWithin_unplaced (outer : List Nat) (depth : Nat) (v : Value) :
    UnplacedStop (v.reprWithin s outer depth) := by
  induction depth generalizing outer v with
  | zero => trivial
  | succ depth ih =>
    unfold reprWithin
    split
    · simp [onlyErrors_mapM fun v _ => ih _ v]
    · simp

@[simp] theorem reprText_unplaced (v : Value) : UnplacedStop (v.reprText s) :=
  reprWithin_unplaced s [] s.host.nesting v

@[simp] theorem displayText_unplaced (v : Value) : UnplacedStop (v.displayText s) := by
  unfold displayText
  split <;> simp

@[simp] theorem format_unplaced (v : Value) (spec : List Char) : UnplacedStop (v.format s spec) := by
  simp [format]

/-! ## Equality and order -/

@[simp] theorem tooNested_unplaced : tooNested.Unplaced := rfl

@[simp] theorem unordered_unplaced (r : Relation) (v w : Value) : (unordered r v w).Unplaced := rfl

section Agree

variable {eq : Value → Value → Except Failure Bool} (h : ∀ v w, Unplaced (eq v w))
include h

theorem agree_unplaced (v w : Value) : Unplaced (agree eq v w) := by
  simp [agree, h]

theorem allEqual_unplaced (vs ws : List Value) : Unplaced (allEqual eq vs ws) := by
  induction vs generalizing ws with
  | nil => cases ws <;> trivial
  | cons v vs ih =>
    cases ws with
    | nil => trivial
    | cons w ws => simp [allEqual, agree_unplaced h, ih]

theorem firstDifference_unplaced (vs ws : List Value) : Unplaced (firstDifference eq vs ws) := by
  induction vs generalizing ws with
  | nil => cases ws <;> trivial
  | cons v vs ih =>
    cases ws with
    | nil => trivial
    | cons w ws => simp [firstDifference, agree_unplaced h, ih]

end Agree

@[simp] theorem eqWithin_unplaced (depth : Nat) (v w : Value) :
    Unplaced (eqWithin s depth v w) := by
  induction depth generalizing v w with
  | zero => trivial
  | succ depth ih =>
    unfold eqWithin
    split <;> simp [allEqual_unplaced ih]

@[simp] theorem eq_unplaced (v w : Value) : Unplaced (eq s v w) :=
  eqWithin_unplaced s s.host.nesting v w

@[simp] theorem itemEq_unplaced (v w : Value) : Unplaced (itemEq s v w) :=
  agree_unplaced (eq_unplaced s) v w

@[simp] theorem relateWithin_unplaced (r : Relation) (depth : Nat) (v w : Value) :
    Unplaced (relateWithin s r depth v w) := by
  induction depth generalizing v w with
  | zero => trivial
  | succ depth ih =>
    unfold relateWithin
    split
    · trivial
    · have hdiffer := firstDifference_unplaced (eqWithin_unplaced s depth)
      simp only [onlyErrors_ite, onlyErrors_ok, onlyErrors_bind, hdiffer, implies_true, true_and]
      intro _ ds _
      split <;> simp [ih]
    · split <;> simp

@[simp] theorem relate_unplaced (r : Relation) (v w : Value) : Unplaced (relate s r v w) :=
  relateWithin_unplaced s r s.host.nesting v w

@[simp] theorem anyEqual_unplaced (v : Value) (ws : List Value) : Unplaced (anyEqual s v ws) := by
  induction ws with
  | nil => trivial
  | cons w ws ih => simp [anyEqual, ih]

@[simp] theorem isMember_unplaced (v w : Value) : Unplaced (isMember s v w) := by
  unfold isMember
  split
  · simp
  · split <;> simp
  · simp

@[simp] theorem compareBy_unplaced (c : Comparison) (v w : Value) :
    Unplaced (compareBy s c v w) := by
  cases c <;> simp [compareBy]

end Value

/-! ## Slices -/

@[simp] theorem Slice.bound?_unplaced (v : Value) : Unplaced (Slice.bound? v) := by
  unfold bound?
  split <;> simp

@[simp] theorem Slice.ofValues_unplaced (start stop step : Value) :
    Unplaced (Slice.ofValues start stop step) := by
  simp [ofValues]

end SnippetGrader
