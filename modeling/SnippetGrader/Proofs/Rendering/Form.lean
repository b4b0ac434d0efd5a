import SnippetGrader.Proofs.Rendering.Phrase

/-!
# The operator of a tree

What `form?` finds in the writing of a tree whose operands are grouped: the operator at the root of
the tree, with the writings of its operands and the spaces around the operator.
-/

namespace SnippetGrader.Rendering

open Text Source Expression

namespace Shape

variable {k : Nat} {ps : List Lexeme} (h : Shape k ps)
include h

theorem lacks {w : String} (hw : w ∈ reservedWords)
    (hk : ∀ word : Keyword, word.text = w → (Lexeme.keyword word).rank < k) : Lacks w ps :=
  lacks_of_rank hw hk h.rank

theorem not_lambda : startsWithWord (writing ps) "lambda" = false := by
  have hlacks : Lacks "lambda" ps :=
    h.lacks (by decide) fun word hword => by cases word <;> exact absurd hword (by decide)
  exact startsWithWord_eq_false (by decide) h.legible fun p hp =>
    hlacks p (List.mem_of_mem_head? hp)

theorem conditional?_eq_none (hk : 1 ≤ k) : conditional? (writing ps) = none := by
  have hlacks : Lacks "if" ps := by
    refine (h.mono hk).lacks (by decide) fun word hword => ?_
    revert hword
    cases word <;> decide
  rw [conditional?, innerKeywords, findKeyword_eq_nil h.legible (by decide) hlacks]
  rfl

theorem cutAtKeyword?_eq_none (c : Connective) (hk : c.level < k) :
    cutAtKeyword? c.text (writing ps) = none := by
  have hlacks : Lacks c.text ps := by
    refine (h.mono hk).lacks (by cases c <;> decide) fun word hword => ?_
    revert hword
    cases c <;> cases word <;> decide
  rw [cutAtKeyword?, innerKeywords,
    findKeyword_eq_nil h.legible (by cases c <;> decide) hlacks]
  rfl

theorem not_negation (hk : 4 ≤ k) : startsWithWord (writing ps) "not" = false := by
  refine startsWithWord_eq_false (by decide) h.legible fun p hp hword => ?_
  obtain ⟨word, rfl, htext⟩ := Lexeme.word?_reserved (by decide) hword
  obtain rfl : word = .negation := by
    revert htext
    cases word <;> decide
  exact h.negation hk hp

theorem comparison?_eq_none (hk : 5 ≤ k) : comparison? (writing ps) = none :=
  Rendering.comparison?_eq_none h.legible (h.mono hk).rank

theorem sum_eq_none (hk : 6 ≤ k) : lastBinary? [.add, .sub] (writing ps) = none :=
  (binary?_eq_none h.legible (h.signs hk)).1

theorem unsplit_product (hk : 7 ≤ k) (operand : Bool) :
    unsplit [.mul, .div, .floorDiv, .mod] operand ps = true := by
  refine unsplit_of_rank (fun s op hop hmem => ?_) (h.mono hk).rank operand
  cases s with
  | add | sub | pow =>
    cases hop
    revert hmem
    decide
  | mul | div | floorDiv | mod => decide
  | _ => cases hop

theorem unsplit_power (hk : 9 ≤ k) (operand : Bool) : unsplit [.pow] operand ps = true := by
  refine unsplit_of_rank (fun s op hop hmem => ?_) (h.mono hk).rank operand
  cases s with
  | add | sub | mul | div | floorDiv | mod =>
    cases hop
    revert hmem
    decide
  | pow => decide
  | _ => cases hop

theorem product_eq_none (hk : 7 ≤ k) :
    lastBinary? [.mul, .div, .floorDiv, .mod] (writing ps) = none :=
  (binary?_eq_none h.legible (h.unsplit_product hk false)).1

/-- An operand that binds tightest starts with a single lexeme that is one. -/
theorem exists_operand (hk : 9 ≤ k) : ∃ p rest, ps = p :: rest ∧ p.isOperand = true := by
  obtain ⟨p, hp, hfront⟩ := h.front
  have hrank := (h.mono hk).rank p (List.mem_of_mem_head? hp)
  cases ps with
  | nil => cases hp
  | cons q rest =>
    cases hp
    refine ⟨p, rest, rfl, ?_⟩
    cases p with
    | number n | name x | bracket b inner hb => rfl
    | keyword word =>
      revert hrank
      cases word <;> decide
    | symbol s hs =>
      have hhigh : 9 ≤ Lexeme.symbolRank s := hrank
      have hlow : Lexeme.symbolRank s ≤ 8 := by cases s <;> decide
      omega
    | space | comma => cases hfront

theorem signed?_eq_none (hk : 9 ≤ k) (qs : List Lexeme) : signed? (writing (ps ++ qs)) = none := by
  obtain ⟨p, rest, rfl, hp⟩ := h.exists_operand hk
  have hsigned {c : Char} {text : List Char} (hminus : c ≠ '-') (hplus : c ≠ '+') :
      signed? (c :: text) = none := by
    unfold signed?
    split
    · next heq => exact absurd (List.cons.inj heq).1 hminus
    · next heq => exact absurd (List.cons.inj heq).1 hplus
    · rfl
  cases hword : p.word? with
  | some w =>
    obtain ⟨hchars, c, more, rfl, hall⟩ := Lexeme.word?_eq_some hword
    have hc := hall c List.mem_cons_self
    rw [List.cons_append, writing_cons, hchars, List.cons_append]
    exact hsigned (ne_of_isWord hc (by decide)) (ne_of_isWord hc (by decide))
  | none =>
    cases p with
    | bracket b inner hb => cases b <;> rfl
    | number n | name x => cases hword
    | _ => cases hp

theorem form?_eq_junction (hk : 1 ≤ k) : form? (writing ps) =
    ((cutAtKeyword? "or" (writing ps)).map (fun p => Form.either p.1 p.2)
    <|> (cutAtKeyword? "and" (writing ps)).map (fun p => Form.both p.1 p.2)
    <|> (if startsWithWord (writing ps) "not" then some (Form.negation ((writing ps).drop 3))
      else none)
    <|> comparison? (writing ps)
    <|> lastBinary? [.add, .sub] (writing ps)
    <|> lastBinary? [.mul, .div, .floorDiv, .mod] (writing ps)
    <|> signed? (writing ps)
    <|> firstBinary? [.pow] (writing ps)) := by
  rw [form?, h.not_lambda, h.conditional?_eq_none hk]
  rfl

theorem form?_eq_negation (hk : 3 ≤ k) : form? (writing ps) =
    ((if startsWithWord (writing ps) "not" then some (Form.negation ((writing ps).drop 3))
      else none)
    <|> comparison? (writing ps)
    <|> lastBinary? [.add, .sub] (writing ps)
    <|> lastBinary? [.mul, .div, .floorDiv, .mod] (writing ps)
    <|> signed? (writing ps)
    <|> firstBinary? [.pow] (writing ps)) := by
  have hor : cutAtKeyword? "or" (writing ps) = none :=
    h.cutAtKeyword?_eq_none .either (Nat.lt_of_lt_of_le (by decide) hk)
  have hand : cutAtKeyword? "and" (writing ps) = none :=
    h.cutAtKeyword?_eq_none .both (Nat.lt_of_lt_of_le (by decide) hk)
  rw [h.form?_eq_junction (by omega), hor, hand]
  rfl

theorem form?_eq_comparison (hk : 4 ≤ k) : form? (writing ps) =
    (comparison? (writing ps)
    <|> lastBinary? [.add, .sub] (writing ps)
    <|> lastBinary? [.mul, .div, .floorDiv, .mod] (writing ps)
    <|> signed? (writing ps)
    <|> firstBinary? [.pow] (writing ps)) := by
  rw [h.form?_eq_negation (by omega), h.not_negation hk]
  rfl

theorem form?_eq_product (hk : 6 ≤ k) : form? (writing ps) =
    (lastBinary? [.mul, .div, .floorDiv, .mod] (writing ps)
    <|> signed? (writing ps)
    <|> firstBinary? [.pow] (writing ps)) := by
  rw [h.form?_eq_comparison (by omega), h.comparison?_eq_none (by omega), h.sum_eq_none hk]
  rfl

theorem form?_eq_signed (hk : 7 ≤ k) : form? (writing ps) =
    (signed? (writing ps) <|> firstBinary? [.pow] (writing ps)) := by
  rw [h.form?_eq_product (by omega), h.product_eq_none hk]
  rfl

end Shape

namespace Tree

theorem form?_conditional {condition yes no : Tree} (h : (conditional condition yes no).Grouped) :
    form? (writing (conditional condition yes no).lexemes) =
      some (.conditional (' ' :: (writing condition.lexemes ++ [' '])) (writing yes.lexemes ++ [' '])
        (' ' :: writing no.lexemes)) := by
  have hshape := shape _ h
  simp only [Grouped] at h
  obtain ⟨hc, hy, hcondition, hyes, -⟩ := h
  have hcut := conditional?_joined hshape.legible ((shape yes hyes).mono hy).rank
    ((shape condition hcondition).mono hc).rank
  rw [form?, hshape.not_lambda, lexemes, hcut]
  rfl

theorem form?_junction {c : Connective} {l r : Tree} (h : (junction c l r).Grouped)
    (hl : c.level < l.level) :
    form? (writing (junction c l r).lexemes) =
      some (match c with
        | .both => .both (writing l.lexemes ++ [' ']) (' ' :: writing r.lexemes)
        | .either => .either (writing l.lexemes ++ [' ']) (' ' :: writing r.lexemes)) := by
  have hshape : Shape c.level _ := shape _ h
  simp only [Grouped] at h
  obtain ⟨-, -, hleft, -⟩ := h
  have hlacks : Lacks c.keyword.text l.lexemes := by
    refine ((shape l hleft).mono hl).lacks (text_reserved _) fun word hword => ?_
    revert hword
    cases c <;> cases word <;> decide
  have hcut := cutAtKeyword?_joined hshape.legible hlacks
  rw [← lexemes] at hcut
  cases c with
  | both =>
    have hor : cutAtKeyword? "or" (writing (junction .both l r).lexemes) = none :=
      hshape.cutAtKeyword?_eq_none .either (by decide)
    rw [hshape.form?_eq_junction (by decide), hor]
    simp only [Connective.keyword, Keyword.text] at hcut
    rw [hcut]
    rfl
  | either =>
    rw [hshape.form?_eq_junction (by decide)]
    simp only [Connective.keyword, Keyword.text] at hcut
    rw [hcut]
    rfl

theorem form?_negation {t : Tree} (h : (negation t).Grouped) :
    form? (writing (negation t).lexemes) = some (.negation (' ' :: writing t.lexemes)) := by
  have hshape : Shape 3 _ := shape _ h
  have hnot : startsWithWord (writing (negation t).lexemes) "not" = true := by
    simp only [lexemes]
    rfl
  rw [hshape.form?_eq_negation (by decide), hnot]
  simp only [lexemes]
  rfl

theorem form?_comparison {op : ComparisonOp} {l r : Tree} (h : (comparison op l r).Grouped) :
    form? (writing (comparison op l r).lexemes) =
      some (.comparison op.comparison (writing l.lexemes ++ [' ']) (' ' :: writing r.lexemes)) := by
  have hshape : Shape 4 _ := shape _ h
  simp only [Grouped] at h
  obtain ⟨hl, hr, hleft, hright⟩ := h
  have hcut := comparison?_joined op hshape.legible ((shape l hleft).mono hl).rank
    ((shape r hright).mono hr).rank
  rw [hshape.form?_eq_comparison (by decide), lexemes, hcut]
  rfl

theorem form?_arithmetic {op : ArithmeticOp} {l r : Tree} (h : (arithmetic op l r).Grouped) :
    form? (writing (arithmetic op l r).lexemes) =
      some (.binary op.operator (writing l.lexemes ++ [' ']) (' ' :: writing r.lexemes)) := by
  have hshape : Shape op.level _ := shape _ h
  have hlegible := hshape.legible
  simp only [Grouped] at h
  obtain ⟨hl, hr, hleft, hright⟩ := h
  have hleft := (shape l hleft).mono hl
  have hright := (shape r hright).mono hr
  have hop : operatorOf? op.symbol = some op.operator := by cases op <;> rfl
  cases op with
  | add | sub =>
    have hcut := lastBinary?_joined [.add, .sub] hleft hright hlegible hop (by decide)
      (hright.signs (by decide))
    rw [hshape.form?_eq_comparison (by decide), hshape.comparison?_eq_none (by decide), lexemes,
      ArithmeticOp.lexemes, hcut]
    rfl
  | mul | div | floorDiv | mod =>
    have hcut := lastBinary?_joined [.mul, .div, .floorDiv, .mod] hleft hright hlegible hop (by decide)
      (hright.unsplit_product (by decide) false)
    rw [hshape.form?_eq_product (by decide), lexemes, ArithmeticOp.lexemes, hcut]
    rfl
  | pow =>
    have hcut := firstBinary?_joined [.pow] hleft hright hlegible hop (by decide)
      (hleft.unsplit_power (by decide) false)
    have hsigned := hleft.signed?_eq_none (by decide)
      (.space :: (ArithmeticOp.pow.lexemes ++ Lexeme.space :: r.lexemes))
    rw [hshape.form?_eq_signed (by decide), lexemes]
    rw [← joined] at hsigned
    rw [hsigned, ArithmeticOp.lexemes, hcut]
    rfl

theorem form?_minus {t : Tree} (h : (minus t).Grouped) :
    form? (writing (minus t).lexemes) = some (.signed true (writing t.lexemes)) := by
  have hshape : Shape 7 _ := shape _ h
  rw [hshape.form?_eq_signed (by decide)]
  simp only [lexemes]
  rfl

theorem form?_name (x : Identifier) : form? (writing (name x).lexemes) = none := by
  have hshape : Shape 9 _ := shape (name x) trivial
  have hsigned := hshape.signed?_eq_none (by decide) []
  rw [List.append_nil] at hsigned
  rw [hshape.form?_eq_signed (by decide), hsigned,
    (binary?_eq_none hshape.legible (hshape.unsplit_power (by decide) false)).2]
  rfl

end Tree

end SnippetGrader.Rendering
