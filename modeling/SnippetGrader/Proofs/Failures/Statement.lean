import SnippetGrader.Proofs.Failures.Builtin
import SnippetGrader.Statement.Function

/-!
# Failures of reading expressions and statements

Literals, calls and the headers of statements note no line on their failures either.
-/

namespace SnippetGrader

open Source

/-! ## Constants -/

namespace Constant

/-- A refusal that is no failure, or a failure on which no line has been noted. -/
def Refusal.Unplaced : Refusal → Prop
  | .notConstant => True
  | .failed f => f.Unplaced

@[simp] theorem Refusal.unplaced_notConstant : Refusal.notConstant.Unplaced := trivial

@[simp] theorem Refusal.unplaced_failed {f : Failure} :
    (Refusal.failed f).Unplaced ↔ f.Unplaced := .rfl

@[simp] theorem checkHashable_unplaced (c : Kind) :
    OnlyErrors Refusal.Unplaced c.checkHashable := by
  unfold Kind.checkHashable
  split <;> simp

@[simp] theorem sumConstant_unplaced (left right : Tree) :
    OnlyErrors Refusal.Unplaced (sumConstant left right) := by
  unfold sumConstant
  split <;> simp

mutual

@[simp] theorem Tree.evaluate_unplaced (t : Tree) : OnlyErrors Refusal.Unplaced t.evaluate := by
  cases t with
  | tuple items => simp [Tree.evaluate, Tree.evaluateAll_unplaced items]
  | list items => simp [Tree.evaluate, Tree.evaluateAll_unplaced items]
  | set items => simp [Tree.evaluate, Tree.evaluateMembers_unplaced items]
  | dict entries => simp [Tree.evaluate, Tree.evaluateEntries_unplaced entries]
  | _ => simp [Tree.evaluate]

theorem Tree.evaluateAll_unplaced (ts : List Tree) :
    OnlyErrors Refusal.Unplaced (Tree.evaluateAll ts) := by
  cases ts with
  | nil => simp [Tree.evaluateAll]
  | cons t rest =>
    simp [Tree.evaluateAll, Tree.evaluate_unplaced t, Tree.evaluateAll_unplaced rest]

theorem Tree.evaluateMembers_unplaced (ts : List Tree) :
    OnlyErrors Refusal.Unplaced (Tree.evaluateMembers ts) := by
  cases ts with
  | nil => simp [Tree.evaluateMembers]
  | cons t rest =>
    simp [Tree.evaluateMembers, Tree.evaluate_unplaced t, Tree.evaluateMembers_unplaced rest]

theorem Tree.evaluateEntries_unplaced (entries : List (Tree × Tree)) :
    OnlyErrors Refusal.Unplaced (Tree.evaluateEntries entries) := by
  cases entries with
  | nil => simp [Tree.evaluateEntries]
  | cons entry rest =>
    obtain ⟨key, value⟩ := entry
    simp [Tree.evaluateEntries, Tree.evaluate_unplaced key, Tree.evaluate_unplaced value,
      Tree.evaluateEntries_unplaced rest]

end

@[simp] theorem Reading.ofText_unplaced (text : List Char) : Unplaced (Reading.ofText text) := by
  unfold Reading.ofText
  split
  · simp
  · dsimp only
    split
    · simp
    · simp
    · next f hf =>
      obtain ⟨t, -, ht⟩ := Option.map_eq_some_iff.1 hf
      have hrefused := t.evaluate_unplaced
      rw [ht] at hrefused
      exact hrefused
    · simp

end Constant

/-! ## Expressions -/

namespace Expression

theorem numberValue?_unplaced {text : List Char} {r : Except Failure Value}
    (h : Literal.numberValue? text = some r) : Unplaced r := by
  unfold Literal.numberValue? at h
  dsimp only at h
  split at h
  · cases h
  · split at h <;> cases h <;> simp

@[simp] theorem textsFrom_unplaced (i : Nat) (parts : List Constant.Reading) :
    Unplaced (textsFrom i parts) := by
  induction parts generalizing i with
  | nil => trivial
  | cons part parts ih => cases part <;> simp [textsFrom, ih]

@[simp] theorem asFormatFailure_unplaced {f : Failure} (h : f.Unplaced) :
    (asFormatFailure f).Unplaced := by
  unfold asFormatFailure
  split <;> exact h

@[simp] theorem amountOf_unplaced (name : String) (ref : Nat) (args : List Value)
    (keywords : Keywords) : Unplaced (amountOf name ref args keywords) := by
  simp [amountOf]

end Expression

/-! ## Statements -/

namespace Statement

@[simp] theorem header_unplaced (keyword : String) (line : Line) :
    Unplaced (header keyword line) := by
  unfold header
  split <;> simp

@[simp] theorem clausesFrom_unplaced (indent : Nat) (words last : List String) (skip : Nat)
    (lines : List Line) : Unplaced (clausesFrom indent words last skip lines) := by
  induction lines generalizing skip with
  | nil => trivial
  | cons line rest ih => simp [clausesFrom, ih]

@[simp] theorem compound_unplaced (keyword : String) (words last : List String) (line : Line)
    (rest : List Line) : Unplaced (compound keyword words last line rest) := by
  simp [compound]

variable (f : Function) (scope : Scope) (keywords : Keywords)

@[simp] theorem bindKeywords_unplaced : Unplaced (bindKeywords f scope keywords) := by
  induction keywords generalizing scope with
  | nil => trivial
  | cons p rest ih => simp [bindKeywords, ih]

@[simp] theorem callScope_unplaced (args : List Value) :
    Unplaced (callScope f scope args keywords) := by
  simp [callScope]

end Statement

end SnippetGrader
