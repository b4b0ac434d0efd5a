import SnippetGrader.Expression.Call
import SnippetGrader.Proofs.Failures.Sorting
import SnippetGrader.Proofs.Failures.Value

/-!
# Failures of functions and methods

Conversions, the functions that every program can call and the methods of texts and lists note no
line on their failures.
-/

namespace SnippetGrader

/-! ## Conversions -/

namespace Convert

@[simp] theorem notInt_unplaced (base : Int) (text : String) (e : Number.IntError) :
    (notInt base text e).Unplaced := by
  cases e <;> rfl

@[simp] theorem intOfString_unplaced (base : Nat) (text : String) :
    Unplaced (intOfString base text) := by
  unfold intOfString
  cases Number.intOfText base text.toList <;> simp

@[simp] theorem intOfFloat_unplaced (part : Float → Option Int) (x : Float) :
    Unplaced (intOfFloat part x) := by
  unfold intOfFloat
  split <;> simp

@[simp] theorem noInt_unplaced (type : String) : (noInt type).Unplaced := rfl

@[simp] theorem noFloat_unplaced (type : String) : (noFloat type).Unplaced := rfl

variable (v : Value)

@[simp] theorem toInt_unplaced : Unplaced (toInt v) := by
  unfold toInt
  split
  · simp
  · split <;> simp

@[simp] theorem toIntInBase_unplaced (base : Value) : Unplaced (toIntInBase v base) := by
  unfold toIntInBase
  simp only [onlyErrors_bind, asIndex_unplaced, true_and]
  intro b _
  split
  · simp
  · split <;> simp

@[simp] theorem int_unplaced (base : Value) : Unplaced (int v base) := by
  unfold int
  split <;> simp

@[simp] theorem toFloat_unplaced : Unplaced (toFloat v) := by
  unfold toFloat
  split
  · split <;> simp
  · split <;> simp

@[simp] theorem realOf_unplaced : Unplaced (realOf v) := by
  unfold realOf
  split <;> simp

@[simp] theorem ord_unplaced : Unplaced (ord v) := by
  unfold ord
  split
  · split <;> simp
  · simp

@[simp] theorem chr_unplaced : Unplaced (chr v) := by
  simp [chr]

@[simp] theorem abs_unplaced : Unplaced (abs v) := by
  unfold abs
  split
  · split <;> simp
  · split <;> simp

@[simp] theorem roundFloat_unplaced (x : Float) (places : Int) : Unplaced (roundFloat x places) := by
  unfold roundFloat
  split <;> simp

@[simp] theorem round_unplaced (places : Value) : Unplaced (round v places) := by
  unfold round
  split <;> simp

end Convert

/-! ## Lists and texts -/

@[simp] theorem ListMethod.searchBound_unplaced (v : Value) :
    Unplaced (ListMethod.searchBound v) := by
  unfold searchBound
  split <;> simp

section Equal

variable (s : Store) (v : Value) (ws : List Value)

@[simp] theorem ListMethod.findEqual_unplaced (i : Nat) : Unplaced (findEqual s v i ws) := by
  induction ws generalizing i with
  | nil => trivial
  | cons w ws ih => simp [findEqual, ih]

@[simp] theorem ListMethod.countEqual_unplaced (n : Nat) : Unplaced (countEqual s v n ws) := by
  induction ws generalizing n with
  | nil => trivial
  | cons w ws ih => simp [countEqual, ih]

end Equal

namespace TextMethod

variable (self : List Char) (args : List Value) (keywords : Keywords)

@[simp] theorem textArgument_unplaced (name : String) (position : Nat) (v : Value) :
    Unplaced (textArgument name position v) := by
  unfold textArgument
  split <;> simp

@[simp] theorem limit_unplaced (all : Nat) (v : Value) : Unplaced (limit all v) := by
  simp [limit]

@[simp] theorem replace_unplaced : Unplaced (replace self args keywords) := by
  simp [replace]

@[simp] theorem strip_unplaced : Unplaced (strip self args keywords) := by
  unfold strip
  simp only [onlyErrors_bind, noKeywords_unplaced, between_unplaced, true_and]
  intro _ _ _ _
  split <;> simp

@[simp] theorem piecesFrom_unplaced (i : Nat) (vs : List Value) : Unplaced (piecesFrom i vs) := by
  induction vs generalizing i with
  | nil => trivial
  | cons v vs ih => cases v <;> simp [piecesFrom, ih]

@[simp] theorem checkEndCount_unplaced (name : String) (n : Nat) :
    Unplaced (checkEndCount name n) := by
  simp [checkEndCount]

@[simp] theorem endTest_unplaced (name : String) (test : List Char → List Char → Bool) :
    Unplaced (endTest name test self args keywords) := by
  unfold endTest
  simp only [onlyErrors_bind, noKeywords_unplaced, checkEndCount_unplaced, Slice.bound?_unplaced,
    true_and]
  intro _ _ _ _ _ _ _ _
  split <;> simp

@[simp] theorem everyChar_unplaced (name : String) (p : Char → Bool) :
    Unplaced (everyChar name p self args keywords) := by
  simp [everyChar]

@[simp] theorem changed_unplaced (name : String) (f : List Char → List Char) :
    Unplaced (changed name f self args keywords) := by
  simp [changed]

end TextMethod

/-! ## Sequences -/

namespace Sequence

@[simp] theorem progression_unplaced (args : List Value) : Unplaced (progression args) := by
  unfold progression
  split <;> simp

@[simp] theorem bestOf_unplaced (s : Store) (x : Extreme) (best : Value × Value)
    (ps : List (Value × Value)) : Unplaced (bestOf s x best ps) := by
  induction ps generalizing best with
  | nil => trivial
  | cons p ps ih => simp [bestOf, ih]

end Sequence

/-! ## Libraries -/

namespace Native

@[simp] theorem decodeFailure_unplaced (e : Text.Base64.DecodeError) :
    (decodeFailure e).Unplaced := by
  cases e <;> rfl

@[simp] theorem decodeBytes_unplaced (v : Value) : Unplaced (decodeBytes v) := by
  unfold decodeBytes
  split
  · split
    · simp
    · cases Text.Base64.decode _ <;> simp
  · simp

@[simp] theorem byteOf_unplaced (v : Value) : Unplaced (byteOf v) := by
  simp [byteOf]

@[simp] theorem zeroBytes_unplaced (memory : Nat) (n : Int) : Unplaced (zeroBytes memory n) := by
  unfold zeroBytes
  split
  · simp
  · simp

@[simp] theorem bytesOf_unplaced (s : Store) (v : Value) : Unplaced (bytesOf s v) := by
  unfold bytesOf
  split <;> simp [onlyErrors_mapM]

@[simp] theorem squareRoot_unplaced (v : Value) : Unplaced (squareRoot v) := by
  simp [squareRoot]

@[simp] theorem rounded_unplaced (part : Float → Option Int) (v : Value) :
    Unplaced (rounded part v) := by
  unfold rounded
  split <;> simp

@[simp] theorem commonDivisor_unplaced (args : List Value) : Unplaced (commonDivisor args) := by
  simp [commonDivisor, onlyErrors_mapM]

@[simp] theorem onlyArgument_unplaced (sig : Signature) (args : List Value)
    (keywords : Keywords) : Unplaced (onlyArgument sig args keywords) := by
  simp [onlyArgument]

end Native

end SnippetGrader
