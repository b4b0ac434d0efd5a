import SnippetGrader.Proofs.Rendering.Shape

/-!
# Cutting a row at an operator

The evaluator cuts sums and products at their last operator and powers at their first. In a row of
lexemes it passes over the operands that bind tighter (`unsplit`), and what it cuts at is the symbol
between the operands.
-/

namespace SnippetGrader.Rendering

open Text Source Expression

theorem symbolTokens_append (i : Nat) (ps qs : List Lexeme) :
    symbolTokens i (ps ++ qs) = symbolTokens i ps ++ symbolTokens (i + (writing ps).length) qs := by
  induction ps generalizing i with
  | nil => rfl
  | cons p ps ih =>
    rw [List.cons_append, symbolTokens, symbolTokens, ih, List.append_assoc, writing_cons,
      List.length_append, Nat.add_assoc]

theorem mem_symbolTokens {i : Nat} {ps : List Lexeme} {t : Token} (ht : t ∈ symbolTokens i ps) :
    ∃ front hs back, ps = front ++ Lexeme.symbol t.symbol hs :: back ∧
      t.pos = i + (writing front).length := by
  induction ps generalizing i with
  | nil => cases ht
  | cons p ps ih =>
    rw [symbolTokens, List.mem_append] at ht
    obtain ht | ht := ht
    · cases p with
      | symbol s hs =>
        obtain rfl : t = ⟨i, s⟩ := by simpa [Lexeme.symbol?] using ht
        exact ⟨[], hs, ps, rfl, rfl⟩
      | _ => cases ht
    · obtain ⟨front, hs, back, rfl, hpos⟩ := ih ht
      refine ⟨p :: front, hs, back, rfl, ?_⟩
      rw [hpos, writing_cons, List.length_append]
      omega

theorem tokens_writing {ps : List Lexeme} (h : Legible ps) :
    tokens (writing ps) = symbolTokens 0 ps :=
  tokensFrom_writing h 0

section Splitting

variable {front back : List Lexeme} {s : Symbol} {hs : isOperator s = true} {ops : List Operator}

theorem take_writing (ps qs : List Lexeme) : (writing (ps ++ qs)).take (writing ps).length =
    writing ps := by
  rw [writing_append, List.take_left]

theorem drop_symbol : (writing (front ++ Lexeme.symbol s hs :: back)).drop
    (Token.stop ⟨(writing front).length, s⟩) = writing back := by
  rw [writing_append, writing_cons, Token.stop, ← List.drop_drop, List.drop_left]
  exact List.drop_left

theorem binaryAt?_eq_none (h : Legible (front ++ Lexeme.symbol s hs :: back))
    (hjoins : Lexeme.joins ops (operandBefore false front) (.symbol s hs) = false) :
    binaryAt? ops (writing (front ++ Lexeme.symbol s hs :: back)) ⟨(writing front).length, s⟩ =
      none := by
  unfold binaryAt?
  rw [take_writing, joinsOperands_writing h.left]
  cases hop : operatorOf? s with
  | none => rfl
  | some op =>
    simp only [Lexeme.joins, hop, Option.any_some] at hjoins
    refine if_neg ?_
    intro hcut
    simp only [Bool.and_eq_true] at hcut
    obtain ⟨⟨⟨hmem, -⟩, -⟩, hjoin⟩ := hcut
    rw [hmem, Bool.true_and, Bool.or_comm] at hjoins
    rw [hjoins] at hjoin
    cases hjoin

theorem binaryAt?_eq_some (h : Legible (front ++ Lexeme.symbol s hs :: back)) {op : Operator}
    (hop : operatorOf? s = some op) (hmem : op ∈ ops) (hfront : operandBefore false front = true)
    (hback : ∃ c ∈ writing back, isBlank c = false) :
    binaryAt? ops (writing (front ++ Lexeme.symbol s hs :: back)) ⟨(writing front).length, s⟩ =
      some (.binary op (writing front) (writing back)) := by
  have hpos : 0 < (writing front).length := by
    cases front with
    | nil => cases hfront
    | cons p ps =>
      have hp := List.length_pos_iff.2 p.chars_ne_nil
      rw [writing_cons, List.length_append]
      omega
  have hblank : (writing back).all isBlank = false := by
    obtain ⟨c, hc, hblank⟩ := hback
    exact List.all_eq_false.2 ⟨c, hc, by simp [hblank]⟩
  unfold binaryAt?
  rw [take_writing, joinsOperands_writing h.left, drop_symbol, hop, hfront, hblank]
  simp [hmem, hpos]

/-- A part of a row in which no lexeme joins operands is passed over. -/
theorem binaryAt?_unsplit {row ps qs rs : List Lexeme} (h : Legible row)
    (hrow : row = ps ++ (qs ++ rs)) (hqs : unsplit ops (operandBefore false ps) qs = true) :
    ∀ t ∈ symbolTokens (writing ps).length qs, binaryAt? ops (writing row) t = none := by
  rintro ⟨pos, s⟩ ht
  obtain ⟨front, hs, back, rfl, rfl⟩ := mem_symbolTokens ht
  rw [unsplit_append, Bool.and_eq_true, unsplit, Bool.and_eq_true, Bool.not_eq_true',
    ← operandBefore_append] at hqs
  obtain rfl : row = (ps ++ front) ++ Lexeme.symbol s hs :: (back ++ rs) := by simp [hrow]
  rw [← List.length_append, ← writing_append]
  exact binaryAt?_eq_none h hqs.2.1

end Splitting

/-- A row in which no lexeme joins operands is not cut. -/
theorem binary?_eq_none {ops : List Operator} {ps : List Lexeme} (h : Legible ps)
    (hps : unsplit ops false ps = true) :
    lastBinary? ops (writing ps) = none ∧ firstBinary? ops (writing ps) = none := by
  have hnone : ∀ t ∈ symbolTokens 0 ps, binaryAt? ops (writing ps) t = none :=
    binaryAt?_unsplit h (show ps = [] ++ (ps ++ []) by simp) hps
  rw [lastBinary?, firstBinary?, tokens_writing h, List.findSome?_eq_none_iff,
    List.findSome?_eq_none_iff]
  exact ⟨fun t ht => hnone t (List.mem_reverse.1 ht), hnone⟩

section Joined

variable {j k : Nat} {ps qs : List Lexeme} {s : Symbol} {hs : isOperator s = true}
  {ops : List Operator} {op : Operator}

theorem tokens_joined (h : Legible (joined ps [.symbol s hs] qs)) :
    tokens (writing (joined ps [.symbol s hs] qs)) =
    symbolTokens 0 ps ++ ⟨(writing (ps ++ [Lexeme.space])).length, s⟩ ::
      symbolTokens (writing (ps ++ [Lexeme.space, .symbol s hs, .space])).length qs := by
  rw [tokens_writing h, joined, symbolTokens_append]
  have hlength : (writing ps).length + 1 + s.chars.length + 1 =
      (writing (ps ++ [Lexeme.space, .symbol s hs, .space])).length := by
    simp [Lexeme.chars]
    omega
  rw [← hlength]
  simp [symbolTokens, Lexeme.symbol?, Lexeme.chars]

variable (hps : Shape j ps) (hqs : Shape k qs) (h : Legible (joined ps [.symbol s hs] qs))
include hps hqs h

theorem binaryAt?_joined (hop : operatorOf? s = some op) (hmem : op ∈ ops) :
    binaryAt? ops (writing (joined ps [.symbol s hs] qs))
        ⟨(writing (ps ++ [Lexeme.space])).length, s⟩ =
      some (.binary op (writing ps ++ [' ']) (' ' :: writing qs)) := by
  have hrow : joined ps [.symbol s hs] qs =
      (ps ++ [Lexeme.space]) ++ Lexeme.symbol s hs :: .space :: qs := by
    simp [joined]
  have hoperand : operandBefore false (ps ++ [Lexeme.space]) = true := by
    rw [operandBefore_append, hps.operandBefore_eq]
    rfl
  obtain ⟨q, hq, hfront⟩ := hqs.front
  obtain ⟨c, more, hchars⟩ := List.exists_cons_of_ne_nil q.chars_ne_nil
  have hblank : ∃ c ∈ writing (.space :: qs), isBlank c = false := by
    have hc : c ∈ (writing qs).head? := by
      rw [head?_writing hq, hchars]
      rfl
    refine ⟨c, List.mem_cons_of_mem _ (List.mem_of_mem_head? hc), ?_⟩
    exact Lexeme.isBlank_head? (hqs.ne_space hq) (by rw [hchars]; rfl)
  rw [hrow] at h ⊢
  rw [binaryAt?_eq_some h hop hmem hoperand hblank]
  simp [Lexeme.chars]

variable (ops)

/-- Sums and products are cut at their last operator. -/
theorem lastBinary?_joined (hop : operatorOf? s = some op) (hmem : op ∈ ops)
    (hright : unsplit ops false qs = true) :
    lastBinary? ops (writing (joined ps [.symbol s hs] qs)) =
      some (.binary op (writing ps ++ [' ']) (' ' :: writing qs)) := by
  have hpassed :
      ∀ t ∈ symbolTokens (writing (ps ++ [Lexeme.space, .symbol s hs, .space])).length qs,
      binaryAt? ops (writing (joined ps [.symbol s hs] qs)) t = none := by
    have hrow : joined ps [.symbol s hs] qs =
        (ps ++ [Lexeme.space, .symbol s hs, .space]) ++ (qs ++ []) := by simp [joined]
    refine binaryAt?_unsplit h hrow ?_
    rw [operandBefore_append]
    exact hright
  rw [lastBinary?, tokens_joined h, List.reverse_append, List.reverse_cons,
    List.append_assoc, List.findSome?_append,
    List.findSome?_eq_none_iff.2 fun t ht => hpassed t (List.mem_reverse.1 ht), Option.none_or,
    List.singleton_append, List.findSome?_cons, binaryAt?_joined hps hqs h hop hmem]

theorem firstBinary?_joined (hop : operatorOf? s = some op) (hmem : op ∈ ops)
    (hleft : unsplit ops false ps = true) :
    firstBinary? ops (writing (joined ps [.symbol s hs] qs)) =
      some (.binary op (writing ps ++ [' ']) (' ' :: writing qs)) := by
  have hpassed : ∀ t ∈ symbolTokens 0 ps,
      binaryAt? ops (writing (joined ps [.symbol s hs] qs)) t = none :=
    binaryAt?_unsplit h (show joined ps [.symbol s hs] qs = [] ++ (ps ++ _) from rfl) hleft
  rw [firstBinary?, tokens_joined h, List.findSome?_append,
    List.findSome?_eq_none_iff.2 hpassed, Option.none_or, List.findSome?_cons,
    binaryAt?_joined hps hqs h hop hmem]

end Joined

/-- A row of tight lexemes holds none of some loose operators. -/
theorem unsplit_of_rank {ops : List Operator} {k : Nat}
    (hops : ∀ s op, operatorOf? s = some op → op ∈ ops → Lexeme.symbolRank s < k)
    {ps : List Lexeme} (hps : ∀ p ∈ ps, k ≤ p.rank) (operand : Bool) :
    unsplit ops operand ps = true := by
  induction ps generalizing operand with
  | nil => rfl
  | cons p ps ih =>
    have hjoins : p.joins ops operand = false := by
      cases p with
      | symbol s hs =>
        cases hop : operatorOf? s with
        | none => simp [Lexeme.joins, hop]
        | some op =>
          have hrank : k ≤ Lexeme.symbolRank s := hps (.symbol s hs) List.mem_cons_self
          have hmem : op ∉ ops := fun hmem => Nat.not_lt.2 hrank (hops s op hop hmem)
          simp [Lexeme.joins, hop, hmem]
      | _ => rfl
    rw [unsplit, hjoins, ih fun q hq => hps q (List.mem_cons_of_mem p hq)]
    rfl

end SnippetGrader.Rendering
