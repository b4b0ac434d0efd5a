import SnippetGrader.Proofs.Rendering.Sign

/-!
# The lexemes of a tree

Every tree is written as a row of lexemes (`Tree.lexemes`). `Shape k ps` collects what a reader can
rely on in the row of a tree that binds at level `k`: it can be told apart, it starts and ends as an
expression does, no lexeme in it belongs to an operator that binds looser, and from the level of
products on its plus and minus symbols are signs.
-/

namespace SnippetGrader.Rendering

open Text Source Expression

/-! ## From trees to rows -/

namespace ArithmeticOp

theorem isOperator_symbol (op : ArithmeticOp) : isOperator op.symbol = true := by
  cases op <;> rfl

def lexemes (op : ArithmeticOp) : List Lexeme := [.symbol op.symbol op.isOperator_symbol]

end ArithmeticOp

def ComparisonOp.lexemes : ComparisonOp → List Lexeme
  | eq => [.symbol .eq (by decide)]
  | ne => [.symbol .ne (by decide)]
  | lt => [.symbol .lt (by decide)]
  | le => [.symbol .le (by decide)]
  | gt => [.symbol .gt (by decide)]
  | ge => [.symbol .ge (by decide)]
  | member => [.keyword .member]
  | notMember => [.keyword .negation, .space, .keyword .member]

def Connective.keyword : Connective → Keyword
  | both => .both
  | either => .either

/-- Two rows with another one between them. -/
def joined (ps mid qs : List Lexeme) : List Lexeme := ps ++ .space :: (mid ++ .space :: qs)

theorem writing_joined (ps mid qs : List Lexeme) :
    writing (joined ps mid qs) = writing ps ++ ' ' :: (writing mid ++ ' ' :: writing qs) := by
  simp [joined, Lexeme.chars]

/-- Some rows with commas between them. -/
def separated (rows : List (List Lexeme)) : List Lexeme := [.comma, .space].intercalate rows

theorem separated_singleton (ps : List Lexeme) : separated [ps] = ps := by simp [separated]

theorem separated_cons_cons (ps qs : List Lexeme) (rows : List (List Lexeme)) :
    separated (ps :: qs :: rows) = ps ++ Lexeme.comma :: .space :: separated (qs :: rows) := by
  rw [separated, List.intercalate_cons_cons]
  simp [separated]

def sign : Lexeme := .symbol .sub (by decide)

namespace Tree

mutual

def lexemes : Tree → List Lexeme
  | number n => [.number n]
  | name x => [.name x]
  | list items => [.bracket .square (writing (separated (lexemesAll items))) (.writing _)]
  | group t => [.bracket .round (writing (lexemes t)) (.writing _)]
  | minus t => sign :: lexemes t
  | arithmetic op l r => joined (lexemes l) op.lexemes (lexemes r)
  | comparison op l r => joined (lexemes l) op.lexemes (lexemes r)
  | negation t => .keyword .negation :: .space :: lexemes t
  | junction c l r => joined (lexemes l) [.keyword c.keyword] (lexemes r)
  | conditional condition yes no =>
    joined (lexemes yes) [.keyword .condition]
      (joined (lexemes condition) [.keyword .otherwise] (lexemes no))

def lexemesAll : List Tree → List (List Lexeme)
  | [] => []
  | t :: ts => lexemes t :: lexemesAll ts

end

end Tree

theorem writing_separated (rows : List (List Lexeme)) :
    writing (separated rows) = ", ".toList.intercalate (rows.map writing) := by
  induction rows with
  | nil => rfl
  | cons ps rows ih =>
    cases rows with
    | nil => simp [separated]
    | cons qs rows =>
      rw [separated_cons_cons, List.map_cons, List.map_cons, List.intercalate_cons_cons,
        ← List.map_cons, ← ih]
      simp [Lexeme.chars]

mutual

theorem Tree.writing_lexemes : (t : Tree) → writing t.lexemes = t.spell
  | .number _ | .name _ => by simp [lexemes, spell, Lexeme.chars]
  | .list items => by
    simp [lexemes, spell, Lexeme.chars, writing_separated, Tree.map_writing_lexemesAll items,
      Bracket.opener, Bracket.closer]
  | .group t => by
    simp [lexemes, spell, Lexeme.chars, Tree.writing_lexemes t, Bracket.opener, Bracket.closer]
  | .minus t => by simp [lexemes, spell, sign, Lexeme.chars, Symbol.chars, Tree.writing_lexemes t]
  | .arithmetic op l r => by
    simp [lexemes, spell, writing_joined, ArithmeticOp.lexemes, Lexeme.chars,
      Tree.writing_lexemes l, Tree.writing_lexemes r]
  | .comparison op l r => by
    have hop : writing op.lexemes = op.text := by cases op <;> rfl
    simp [lexemes, spell, writing_joined, hop, Tree.writing_lexemes l, Tree.writing_lexemes r]
  | .negation t => by simp [lexemes, spell, Lexeme.chars, Keyword.text, Tree.writing_lexemes t]
  | .junction c l r => by
    have hword : c.keyword.text = c.text := by cases c <;> rfl
    simp [lexemes, spell, writing_joined, Lexeme.chars, hword, Tree.writing_lexemes l,
      Tree.writing_lexemes r]
  | .conditional condition yes no => by
    simp [lexemes, spell, writing_joined, Lexeme.chars, Keyword.text,
      Tree.writing_lexemes condition, Tree.writing_lexemes yes, Tree.writing_lexemes no]

theorem Tree.map_writing_lexemesAll :
    (ts : List Tree) → (lexemesAll ts).map writing = spellAll ts
  | [] => rfl
  | t :: ts => by
    simp [lexemesAll, spellAll, Tree.writing_lexemes t, Tree.map_writing_lexemesAll ts]

end

/-! ## What a reader can rely on -/

namespace Lexeme

/-- What an expression starts with. -/
def isFront : Lexeme → Bool
  | number _ | name _ | bracket _ _ _ | keyword .negation | symbol .sub _ => true
  | _ => false

/-- What an expression ends with. -/
def isOperand : Lexeme → Bool
  | number _ | name _ | bracket _ _ _ => true
  | _ => false

/-- The level up to which trees hold a symbol outside of brackets; a minus may be a sign. -/
def symbolRank : Symbol → Nat
  | .add => 5
  | .mul | .div | .floorDiv | .mod => 6
  | .sub | .pow => 8
  | _ => 4

/-- The level up to which trees hold a lexeme outside of brackets; `not` belongs to a comparison
before `in`. -/
def rank : Lexeme → Nat
  | keyword .condition | keyword .otherwise => 0
  | keyword .either => 1
  | keyword .both => 2
  | keyword .negation | keyword .member => 4
  | symbol s _ => symbolRank s
  | _ => 9

theorem rank_le (p : Lexeme) : p.rank ≤ 9 := by
  cases p with
  | keyword k => cases k <;> decide
  | symbol s hs =>
    change symbolRank s ≤ 9
    cases s <;> decide
  | _ => simp [rank]

theorem rank_ne_seven (p : Lexeme) : p.rank ≠ 7 := by
  cases p with
  | keyword k => cases k <;> decide
  | symbol s hs =>
    change symbolRank s ≠ 7
    cases s <;> decide
  | _ => simp [rank]

end Lexeme

/-- A row between two operands. -/
inductive Joint : List Lexeme → Prop
  | symbol (s : Symbol) (h : isOperator s = true) : Joint [.symbol s h]
  | keyword (k : Keyword) : Joint [.keyword k]
  | notMember : Joint [.keyword .negation, .space, .keyword .member]

/-- The row of an expression that binds at a level. -/
structure Shape (k : Nat) (ps : List Lexeme) : Prop where
  legible : Legible ps
  comma : .comma ∉ ps
  front : ∃ p ∈ ps.head?, p.isFront = true
  back : ∃ p ∈ ps.getLast?, p.isOperand = true
  rank : ∀ p ∈ ps, k ≤ p.rank
  /-- From comparisons on, a row does not start with `not`. -/
  negation : 4 ≤ k → .keyword .negation ∉ ps.head?
  /-- From products on, a plus or minus is a sign. -/
  signs : 6 ≤ k → unsplit [.add, .sub] false ps = true

namespace Shape

variable {j k : Nat} {ps qs mid : List Lexeme}

theorem mono (h : Shape k ps) (hj : j ≤ k) : Shape j ps where
  legible := h.legible
  comma := h.comma
  front := h.front
  back := h.back
  rank p hp := Nat.le_trans hj (h.rank p hp)
  negation hk := h.negation (by omega)
  signs hk := h.signs (by omega)

/-- The exponent of a power may have a sign. -/
theorem raise (h : Shape 7 ps) : Shape 8 ps where
  legible := h.legible
  comma := h.comma
  front := h.front
  back := h.back
  rank p hp := by
    have hrank := h.rank p hp
    have hne := p.rank_ne_seven
    omega
  negation _ := h.negation (by omega)
  signs _ := h.signs (by omega)

theorem operandBefore_eq (h : Shape k ps) (operand : Bool) : operandBefore operand ps = true := by
  obtain ⟨p, hp, hoperand⟩ := h.back
  obtain ⟨front, rfl⟩ := List.getLast?_eq_some_iff.1 hp
  rw [operandBefore_append]
  cases p with
  | number n | name x | bracket b inner hb => rfl
  | _ => cases hoperand

theorem ne_nil (h : Shape k ps) : ps ≠ [] := by
  obtain ⟨p, hp, -⟩ := h.front
  rintro rfl
  cases hp

theorem single {p : Lexeme} (hp : p.isOperand = true) : Shape 9 [p] := by
  cases p with
  | number n | name x | bracket b inner hb =>
    refine ⟨List.isChain_singleton _, by simp, ⟨_, rfl, rfl⟩, ⟨_, rfl, rfl⟩, ?_, ?_, ?_⟩
    · simp [Lexeme.rank]
    · simp
    · intro _
      rfl
  | _ => cases hp

theorem ne_space (h : Shape k ps) {p : Lexeme} (hp : p ∈ ps.head?) : p ≠ .space := by
  obtain ⟨q, hq, hfront⟩ := h.front
  rw [Option.mem_unique hp hq]
  rintro rfl
  cases hfront

theorem signed (h : Shape 7 ps) : Shape 7 (sign :: ps) := by
  obtain ⟨p, hp, hfront⟩ := h.front
  have hmeets : sign.Meets p := by
    cases p with
    | symbol s hs =>
      cases s with
      | sub => exact .inr rfl
      | _ => cases hfront
    | _ => exact .inl rfl
  refine ⟨?_, ?_, ⟨sign, rfl, rfl⟩, ?_, ?_, ?_, ?_⟩
  · refine List.isChain_cons.2 ⟨fun q hq => ?_, h.legible⟩
    rwa [Option.mem_unique hq hp]
  · simp [sign, h.comma]
  · obtain ⟨q, hq, hoperand⟩ := h.back
    refine ⟨q, ?_, hoperand⟩
    rw [Option.mem_def] at hq ⊢
    rw [List.getLast?_cons, hq]
    rfl
  · intro q hq
    obtain rfl | hq := List.mem_cons.1 hq
    · decide
    · exact h.rank q hq
  · intro _ hnegation
    cases hnegation
  · intro _
    have hsigns := h.signs (by omega)
    simpa [unsplit, sign, Lexeme.joins, Lexeme.after, operatorOf?] using hsigns

theorem negated (h : Shape 3 ps) : Shape 3 (.keyword .negation :: .space :: ps) := by
  refine ⟨?_, ?_, ⟨_, rfl, rfl⟩, ?_, ?_, ?_, ?_⟩
  · refine List.isChain_cons_cons.2 ⟨rfl, List.isChain_cons.2 ⟨fun q hq => ?_, h.legible⟩⟩
    exact h.ne_space hq
  · simp [h.comma]
  · obtain ⟨q, hq, hoperand⟩ := h.back
    refine ⟨q, ?_, hoperand⟩
    rw [Option.mem_def] at hq ⊢
    rw [List.getLast?_cons, List.getLast?_cons, hq]
    rfl
  · intro q hq
    simp only [List.mem_cons] at hq
    obtain rfl | rfl | hq := hq
    · decide
    · decide
    · exact h.rank q hq
  · intro hk
    omega
  · intro hk
    omega

/-- A row behind a joint, from the blank before the joint on. -/
theorem legible_joint (hqs : Shape k qs) (hmid : Joint mid) :
    Legible (.space :: (mid ++ Lexeme.space :: qs)) := by
  have hspace : Legible (.space :: qs) :=
    List.isChain_cons.2 ⟨fun x hx => hqs.ne_space hx, hqs.legible⟩
  cases hmid with
  | symbol s hs =>
    refine List.isChain_cons_cons.2 ⟨?_, List.isChain_cons_cons.2 ⟨.inl rfl, hspace⟩⟩
    exact fun h => by cases h
  | keyword k =>
    refine List.isChain_cons_cons.2 ⟨?_, List.isChain_cons_cons.2 ⟨rfl, hspace⟩⟩
    exact fun h => by cases h
  | notMember =>
    have hmember : Legible (.space :: .keyword .member :: .space :: qs) := by
      refine List.isChain_cons_cons.2 ⟨?_, List.isChain_cons_cons.2 ⟨rfl, hspace⟩⟩
      exact fun h => by cases h
    refine List.isChain_cons_cons.2 ⟨?_, List.isChain_cons_cons.2 ⟨rfl, hmember⟩⟩
    exact fun h => by cases h

/-- Two rows with a joint between them. -/
theorem joined (hps : Shape k ps) (hmid : Joint mid) (hqs : Shape k qs)
    (hrank : ∀ p ∈ mid, k ≤ p.rank) (hsigns : 6 ≤ k → unsplit [.add, .sub] true mid = true) :
    Shape k (joined ps mid qs) := by
  obtain ⟨p, hp, hfront⟩ := hps.front
  obtain ⟨q, hq, hback⟩ := hqs.back
  have hhead : (Rendering.joined ps mid qs).head? = some p := by
    rw [Rendering.joined, List.head?_append, hp]
    rfl
  have hk : k ≤ Lexeme.space.rank :=
    Nat.le_trans (hps.rank p (List.mem_of_mem_head? hp)) p.rank_le
  refine ⟨?_, ?_, ⟨p, hhead, hfront⟩, ⟨q, ?_, hback⟩, ?_, ?_, ?_⟩
  · refine List.isChain_append.2 ⟨hps.legible, hqs.legible_joint hmid, fun x hx y hy => ?_⟩
    cases hy
    obtain ⟨z, hz, hoperand⟩ := hps.back
    rw [Option.mem_unique hx hz]
    cases z with
    | number n | name x => exact rfl
    | bracket b inner hb => trivial
    | _ => cases hoperand
  · have hcomma : .comma ∉ mid := by cases hmid <;> simp
    simp [Rendering.joined, hps.comma, hcomma, hqs.comma]
  · rw [Option.mem_def] at hq ⊢
    simp [Rendering.joined, List.getLast?_append, List.getLast?_cons, hq]
  · intro x hx
    simp only [Rendering.joined, List.mem_append, List.mem_cons] at hx
    obtain hx | rfl | hx | rfl | hx := hx
    · exact hps.rank x hx
    · exact hk
    · exact hrank x hx
    · exact hk
    · exact hqs.rank x hx
  · intro hk
    rw [hhead, ← hp]
    exact hps.negation hk
  · intro hk
    have hmid' : operandBefore true mid = false := by
      cases hmid with
      | symbol s hs | keyword k => rfl
      | notMember => rfl
    rw [Rendering.joined, unsplit_append, hps.signs hk, hps.operandBefore_eq]
    simp only [unsplit, Lexeme.joins, Lexeme.after, unsplit_append, hsigns hk, hmid',
      hqs.signs hk]
    rfl

theorem writing_ne_nil (h : Shape k ps) : writing ps ≠ [] := Rendering.writing_ne_nil h.ne_nil

theorem trim_spaced (h : Shape k ps) {a b : List Char} (ha : ∀ c ∈ a, isBlank c = true)
    (hb : ∀ c ∈ b, isBlank c = true) : trim (a ++ writing ps ++ b) = writing ps := by
  obtain ⟨p, hp, -⟩ := h.front
  obtain ⟨q, hq, hoperand⟩ := h.back
  have hspace : q ≠ .space := by
    rintro rfl
    cases hoperand
  exact Rendering.trim_writing hp (h.ne_space hp) hq hspace ha hb

theorem trim_writing (h : Shape k ps) : trim (writing ps) = writing ps := by
  have htrim := h.trim_spaced (a := []) (b := []) (by simp) (by simp)
  rwa [List.nil_append, List.append_nil] at htrim

end Shape

/-- The row of a tree whose operands are grouped. -/
theorem Tree.shape : (t : Tree) → t.Grouped → Shape t.level t.lexemes
  | .number _, _ | .name _, _ | .list _, _ | .group _, _ => Shape.single rfl
  | .minus t, h => by
    simp only [Grouped] at h
    exact ((Tree.shape t h.2).mono h.1).signed
  | .arithmetic op l r, h => by
    simp only [Grouped] at h
    obtain ⟨hleft, hright, hl, hr⟩ := h
    have hlevel : op.level ≤ op.leftLevel := by cases op <;> decide
    have hl := (Tree.shape l hl).mono (Nat.le_trans hlevel hleft)
    have hr := (Tree.shape r hr).mono hright
    have hr : Shape op.level r.lexemes := by
      cases op with
      | pow => exact hr.raise
      | _ => exact hr.mono (by decide)
    refine hl.joined (.symbol _ _) hr ?_ ?_
    · intro p hp
      rw [List.mem_singleton.1 hp]
      cases op <;> decide
    · cases op <;> decide
  | .comparison op l r, h => by
    simp only [Grouped] at h
    obtain ⟨hleft, hright, hl, hr⟩ := h
    have hl := (Tree.shape l hl).mono (show 4 ≤ l.level by omega)
    have hr := (Tree.shape r hr).mono (show 4 ≤ r.level by omega)
    have hmid : Joint op.lexemes := by cases op <;> constructor
    refine hl.joined hmid hr ?_ fun h => ?_
    · cases op <;> simp [ComparisonOp.lexemes, Lexeme.rank, Lexeme.symbolRank]
    · omega
  | .negation t, h => by
    simp only [Grouped] at h
    exact ((Tree.shape t h.2).mono h.1).negated
  | .junction c l r, h => by
    simp only [Grouped] at h
    obtain ⟨hleft, hright, hl, hr⟩ := h
    refine ((Tree.shape l hl).mono hleft).joined (.keyword _) ((Tree.shape r hr).mono hright) ?_ ?_
    · intro p hp
      rw [List.mem_singleton.1 hp]
      cases c <;> decide
    · cases c <;> decide
  | .conditional condition yes no, h => by
    simp only [Grouped] at h
    obtain ⟨-, -, hcondition, hyes, hno⟩ := h
    have hcondition := (Tree.shape condition hcondition).mono (Nat.zero_le _)
    have hyes := (Tree.shape yes hyes).mono (Nat.zero_le _)
    have hno := (Tree.shape no hno).mono (Nat.zero_le _)
    have hrest := hcondition.joined (.keyword .otherwise) hno (by simp) (by simp)
    exact hyes.joined (.keyword .condition) hrest (by simp) (by simp)

end SnippetGrader.Rendering
