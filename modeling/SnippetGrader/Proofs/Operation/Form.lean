import SnippetGrader.Proofs.Rendering.Evaluation
import SnippetGrader.Proofs.Written.Reading

/-!
# Texts with an arithmetic operator

An expression with blanks and without commas at depth zero is none of the forms that are tried before
the operators, unless it is a string or starts a chain (`Plain.evaluate_eq`). If no word cuts it and
no comparison stands in it, then it is read by its arithmetic operators alone (`Wordless.form?_eq`).
-/

namespace SnippetGrader.Operation

open Text Source Expression

/-- A trimmed expression with blanks that no form fits which is tried before the operators. -/
structure Plain (text : List Char) : Prop where
  trim_eq : trim text = text
  space_mem : ' ' ∈ text
  opening : Literal.opening? text = none
  not_list : text.head? ≠ some '['
  not_chain : chain? text = none
  lacks_comma : Reader.admits (lacks ',') {} text = true

namespace Plain

variable {text : List Char} (h : Plain text) (e : Engine) (scope : Nat)
include h

theorem ne_nil : text ≠ [] := List.ne_nil_of_mem h.space_mem

theorem not_isWord : ∃ c ∈ text, isWord c = false := ⟨' ', h.space_mem, by decide⟩

theorem literal?_eq : literal? e scope text = pure none := by
  have hnumber : Literal.isNumber text = false := Rendering.isNumber_eq_false_of_space h.space_mem
  have hvalue : Literal.numberValue? text = none := by
    rw [Literal.numberValue?, hnumber]
    rfl
  have hlist : (text.head? == some '[') = false := beq_eq_false_iff_ne.2 h.not_list
  rw [Rendering.literal?_of_opening (Rendering.not_constant h.not_isWord) h.opening, hvalue, hlist]
  rfl

theorem nameValue?_eq : nameValue? scope text = pure none := by
  rw [nameValue?, Rendering.isName_eq_false h.not_isWord]
  rfl

theorem tupleValue?_eq : tupleValue? e scope text = pure none := by
  have hblank : ¬ ∀ c ∈ text, isBlank c = true := by
    intro hall
    have hend : trimEnd text = [] := Layout.trimEnd_blank hall
    have htrim : trim text = [] := Layout.trim_eq_nil.2 hend
    exact h.ne_nil (h.trim_eq ▸ htrim)
  rw [tupleValue?, cutTopLevel_eq_singleton h.lacks_comma hblank]

theorem evaluate_eq {f : Form} (hform : form? text = some f) :
    Expression.evaluate e scope text = formValue e scope text f := by
  have hchain : chainValue? e scope text = pure none := by rw [chainValue?, h.not_chain]
  have hne : text.isEmpty = false := List.isEmpty_eq_false_iff.2 h.ne_nil
  unfold Expression.evaluate
  simp only [h.trim_eq, hne, h.literal?_eq, hchain, h.nameValue?_eq, h.tupleValue?_eq, pure_bind,
    hform]
  rfl

end Plain

/-- The phrases at which an expression is cut. -/
def cuttingPhrases : List (List String) :=
  [["if"], ["or"], ["and"], ["not", "in"], ["is", "not"], ["in"], ["is"]]

/-- A text that is not cut at words and starts with none of those that come before an operand. -/
structure Wordless (text : List Char) : Prop where
  uncut : ∀ phrase ∈ cuttingPhrases, findKeyword phrase text = []
  not_lambda : startsWithWord text "lambda" = false
  not_negation : startsWithWord text "not" = false

namespace Wordless

variable {text : List Char} (h : Wordless text)
include h

theorem innerKeywords_eq {phrase : List String} (hphrase : phrase ∈ cuttingPhrases) :
    innerKeywords phrase text = [] := by
  rw [innerKeywords, h.uncut phrase hphrase, List.filter_nil]

theorem comparison?_eq (hsymbols : ∀ t ∈ tokens text, comparisonOf? t.symbol = none) :
    comparison? text = none := by
  have hnone : comparisons text = [] := by
    have htokens : (tokens text).filterMap
        (fun t => (comparisonOf? t.symbol).map fun c => ((⟨t.pos, t.stop⟩ : Span), c)) = [] := by
      rw [List.filterMap_eq_nil_iff]
      intro t ht
      rw [hsymbols t ht]
      rfl
    have hwords : comparisonWords.flatMap
        (fun w => (innerKeywords w.1 text).map fun s => (s, w.2)) = [] := by
      rw [List.flatMap_eq_nil_iff]
      intro w hw
      have hphrase : w.1 ∈ cuttingPhrases := by
        have hall : comparisonWords.all (fun w => cuttingPhrases.contains w.1) = true := by decide
        simpa using List.all_eq_true.1 hall w hw
      rw [h.innerKeywords_eq hphrase, List.map_nil]
    rw [comparisons, htokens, hwords, List.append_nil]
  rw [comparison?, hnone]

/-- It is read by its arithmetic operators. -/
theorem form?_eq (hsymbols : ∀ t ∈ tokens text, comparisonOf? t.symbol = none) :
    form? text =
      (lastBinary? [.add, .sub] text <|> lastBinary? [.mul, .div, .floorDiv, .mod] text
        <|> signed? text <|> firstBinary? [.pow] text) := by
  have hconditional : conditional? text = none := by
    rw [conditional?, h.innerKeywords_eq (by decide)]
    rfl
  have hcut {word : String} (hword : [word] ∈ cuttingPhrases) : cutAtKeyword? word text = none := by
    rw [cutAtKeyword?, h.innerKeywords_eq hword]
    rfl
  rw [form?, h.not_lambda, hconditional, hcut (by decide), hcut (by decide), h.not_negation,
    h.comparison?_eq hsymbols]
  rfl

end Wordless

end SnippetGrader.Operation
