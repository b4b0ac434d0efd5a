import Mathlib.Data.List.TakeWhile
import SnippetGrader.Proofs.Rendering.Lexeme

/-!
# Signs and operators

A plus or minus joins two operands if an operand stands before it, and is a sign otherwise. On a row
of lexemes this is a matter of the last lexeme that is no space (`operandBefore`); the evaluator
decides it from the characters before the symbol, and comes to the same result
(`joinsOperands_writing`).
-/

namespace SnippetGrader.Rendering

open Text Source Expression

/-! ## Numbers with exponents -/

/-- A description of pieces of text that hold characters of a class only. -/
def Holds (q : Char → Bool) : Pattern → Prop
  | .exactly piece => ∀ c ∈ piece, q c = true
  | .one p | .many p => ∀ c, p c = true → q c = true
  | .either left right | .andThen left right => Holds q left ∧ Holds q right

section Rests

variable {text rest : List Char}

theorem mem_rests_exactly {piece : List Char} :
    rest ∈ (Pattern.exactly piece).rests text ↔ text = piece ++ rest := by
  rw [Pattern.rests, Option.mem_toList, dropFront?_eq_some]

theorem mem_rests_one {p : Char → Bool} :
    rest ∈ (Pattern.one p).rests text ↔ ∃ c, p c = true ∧ text = c :: rest := by
  cases text with
  | nil => simp [Pattern.rests]
  | cons c text =>
    rw [Pattern.rests]
    split
    · next hc =>
      rw [List.mem_singleton]
      constructor
      · rintro rfl
        exact ⟨c, hc, rfl⟩
      · rintro ⟨d, -, ⟨⟩⟩
        rfl
    · next hc =>
      constructor
      · intro h
        cases h
      · rintro ⟨d, hd, ⟨⟩⟩
        exact absurd hd hc

theorem mem_rests_many {p : Char → Bool} :
    rest ∈ (Pattern.many p).rests text ↔ ∃ piece, (∀ c ∈ piece, p c = true) ∧ text = piece ++ rest := by
  rw [Pattern.rests]
  constructor
  · intro h
    induction text with
    | nil =>
      simp only [Pattern.dropMany, List.mem_singleton] at h
      exact ⟨[], by simp, by simp [h]⟩
    | cons c text ih =>
      simp only [Pattern.dropMany, List.mem_cons] at h
      obtain rfl | h := h
      · exact ⟨[], by simp, rfl⟩
      · split at h
        · next hc =>
          obtain ⟨piece, hpiece, rfl⟩ := ih h
          exact ⟨c :: piece, List.forall_mem_cons.2 ⟨hc, hpiece⟩, rfl⟩
        · cases h
  · rintro ⟨piece, hpiece, rfl⟩
    induction piece with
    | nil => cases rest <;> exact List.mem_cons_self
    | cons c piece ih =>
      rw [List.forall_mem_cons] at hpiece
      rw [List.cons_append, Pattern.dropMany, if_pos hpiece.1]
      exact List.mem_cons_of_mem _ (ih hpiece.2)

theorem mem_rests_either {left right : Pattern} :
    rest ∈ (Pattern.either left right).rests text ↔
      rest ∈ left.rests text ∨ rest ∈ right.rests text := by
  rw [Pattern.rests, List.mem_append]

theorem mem_rests_andThen {left right : Pattern} :
    rest ∈ (Pattern.andThen left right).rests text ↔
      ∃ middle ∈ left.rests text, rest ∈ right.rests middle := by
  rw [Pattern.rests, List.mem_flatMap]

end Rests

/-- What a description takes off a text holds characters of its class only. -/
theorem mem_rests {q : Char → Bool} {p : Pattern} (hp : Holds q p) {text rest : List Char}
    (h : rest ∈ p.rests text) : ∃ piece, text = piece ++ rest ∧ ∀ c ∈ piece, q c = true := by
  induction p generalizing text rest with
  | exactly piece => exact ⟨piece, mem_rests_exactly.1 h, hp⟩
  | one p =>
    obtain ⟨c, hc, rfl⟩ := mem_rests_one.1 h
    exact ⟨[c], rfl, by simpa using hp c hc⟩
  | many p =>
    obtain ⟨piece, hpiece, rfl⟩ := mem_rests_many.1 h
    exact ⟨piece, rfl, fun c hc => hp c (hpiece c hc)⟩
  | either left right ihl ihr =>
    obtain h | h := mem_rests_either.1 h
    · exact ihl hp.1 h
    · exact ihr hp.2 h
  | andThen left right ihl ihr =>
    obtain ⟨middle, hmiddle, hrest⟩ := mem_rests_andThen.1 h
    obtain ⟨piece, rfl, hpiece⟩ := ihl hp.1 hmiddle
    obtain ⟨piece', rfl, hpiece'⟩ := ihr hp.2 hrest
    refine ⟨piece ++ piece', by simp, fun c hc => ?_⟩
    obtain hc | hc := List.mem_append.1 hc
    · exact hpiece c hc
    · exact hpiece' c hc

/-- A character of the start of a number with exponent: a digit, an underscore, a point or the mark of
the exponent. -/
def isStartChar (c : Char) : Bool :=
  isDecimalDigit c || c == '_' || c == '.' || c == 'e' || c == 'E'

/-- The start of a number with exponent that makes up a whole text holds no other characters. -/
theorem mem_exponentStart {text : List Char}
    (h : (exponentStart.rests text).any List.isEmpty = true) :
    ∀ c ∈ text, isStartChar c = true := by
  obtain ⟨rest, hrest, hempty⟩ := List.any_eq_true.1 h
  have hholds : Holds isStartChar exponentStart := by
    simp only [exponentStart, Pattern.all, Pattern.maybe, Pattern.word, Holds, isStartChar]
    refine ⟨?_, ?_, ⟨⟨?_, ?_, ?_⟩, ?_⟩, ?_, ?_⟩ <;> simp +contextual
  obtain ⟨piece, rfl, hpiece⟩ := mem_rests hholds hrest
  rw [List.isEmpty_iff.1 hempty, List.append_nil]
  exact hpiece

/-- No number starts inside a word, after a point or before one. -/
theorem endsInExponentAfter_inside {w : List Char} (hw : ∀ c ∈ w, (isWord c || c == '.') = true)
    {b : Char} (hb : (isWord b || b == '.') = true) : endsInExponentAfter (some b) w = false := by
  induction w generalizing b with
  | nil => rfl
  | cons c w ih =>
    have hrest := ih (fun d hd => hw d (List.mem_cons_of_mem c hd)) (hw c List.mem_cons_self)
    simp [endsInExponentAfter, hb, hrest]

/-- No number with exponent goes on over a character that none holds. -/
theorem endsInExponentAfter_append {u : List Char}
    (hu : ∀ d ∈ u.getLast?, isStartChar d = false) (w : List Char) (before : Option Char) :
    endsInExponentAfter before (u ++ w) = endsInExponentAfter (u.getLast?.or before) w := by
  induction u generalizing before with
  | nil => rfl
  | cons a u ih =>
    obtain ⟨d, hd⟩ : ∃ d, d ∈ (a :: u).getLast? := ⟨_, List.getLast?_eq_some_getLast (by simp)⟩
    have hmem : d ∈ a :: (u ++ w) := by
      have hmem : d ∈ a :: u := List.mem_of_getLast? hd
      rw [← List.cons_append]
      exact List.mem_append_left _ hmem
    have hnone : (exponentStart.rests (a :: (u ++ w))).any List.isEmpty = false := by
      rw [← Bool.not_eq_true]
      intro h
      have hstart := mem_exponentStart h d hmem
      rw [hu d hd] at hstart
      cases hstart
    have hrest := ih (fun e he => hu e (by
      rw [Option.mem_def] at he ⊢
      rw [List.getLast?_cons, he]
      rfl)) (some a)
    have hlast : (a :: u).getLast?.or before = u.getLast?.or (some a) := by
      rw [List.getLast?_cons]
      cases u.getLast? <;> rfl
    rw [hlast, ← hrest, List.cons_append, endsInExponentAfter, hnone, Bool.and_false, Bool.false_or]

/-- No number with exponent ends in a word that does not start with a digit, after a character that
no such number holds. -/
theorem endsInExponentAfter_word {u w : List Char} {c : Char} (hc : isDecimalDigit c = false)
    (hw : ∀ d ∈ c :: w, isWord d = true)
    (hu : ∀ d ∈ u.getLast?, isWord d = false ∧ d ≠ '.' ∧ isDecimalDigit d = false)
    (before : Option Char) : endsInExponentAfter before (u ++ c :: w) = false := by
  have hstop : ∀ d ∈ u.getLast?, isStartChar d = false := by
    intro d hd
    obtain ⟨hword, hdot, hdigit⟩ := hu d hd
    have hne (e : Char) (he : isWord e = true) : (d == e) = false :=
      beq_eq_false_iff_ne.2 (ne_of_isWord he hword).symm
    simp [isStartChar, hdigit, hdot, hne 'e' (by decide), hne 'E' (by decide), hne '_' (by decide)]
  have hrest : endsInExponentAfter (some c) w = false :=
    endsInExponentAfter_inside (fun d hd => by rw [hw d (List.mem_cons_of_mem c hd), Bool.true_or])
      (by rw [hw c List.mem_cons_self, Bool.true_or])
  rw [endsInExponentAfter_append hstop, endsInExponentAfter, hc, hrest]
  rfl

/-! ## What stands before a symbol -/

namespace Lexeme

/-- Whether an operand stands before what follows a lexeme; a space does not change this. -/
def after (operand : Bool) : Lexeme → Bool
  | space => operand
  | number _ | name _ | bracket _ _ _ => true
  | keyword _ | symbol _ _ | comma => false

/-- Whether a lexeme joins operands by one of some operators. Without an operand before it, a plus or
minus is a sign. -/
def joins (ops : List Operator) (operand : Bool) : Lexeme → Bool
  | symbol s _ =>
    (operatorOf? s).any fun op => ops.contains op && (operand || !(op == .add || op == .sub))
  | _ => false

end Lexeme

/-- Whether an operand stands before what follows a row. -/
def operandBefore (operand : Bool) (ps : List Lexeme) : Bool := ps.foldl Lexeme.after operand

/-- No lexeme of a row joins operands by one of some operators. -/
def unsplit (ops : List Operator) (operand : Bool) : List Lexeme → Bool
  | [] => true
  | p :: ps => !p.joins ops operand && unsplit ops (p.after operand) ps

theorem operandBefore_append (operand : Bool) (ps qs : List Lexeme) :
    operandBefore operand (ps ++ qs) = operandBefore (operandBefore operand ps) qs :=
  List.foldl_append

theorem unsplit_append (ops : List Operator) (operand : Bool) (ps qs : List Lexeme) :
    unsplit ops operand (ps ++ qs) =
      (unsplit ops operand ps && unsplit ops (operandBefore operand ps) qs) := by
  induction ps generalizing operand with
  | nil => rfl
  | cons p ps ih => simp [unsplit, ih, operandBefore, Bool.and_assoc]

theorem Legible.left {ps qs : List Lexeme} (h : Legible (ps ++ qs)) : Legible ps :=
  (List.isChain_append.1 h).1

theorem trimEnd_append_space (text : List Char) : trimEnd (text ++ [' ']) = trimEnd text := by
  have hblank : isBlank ' ' = true := by decide
  simp [trimEnd, dropEndWhile, hblank]

theorem trimEnd_writing {ps : List Lexeme} {p : Lexeme} (hp : p ≠ .space) :
    trimEnd (writing (ps ++ [p])) = writing (ps ++ [p]) := by
  have hlast := getLast?_writing (show p ∈ (ps ++ [p]).getLast? by simp)
  have hne := p.chars_ne_nil
  have hc := Lexeme.isBlank_getLast? hp (List.getLast?_eq_some_getLast hne)
  obtain ⟨front, hfront⟩ := List.getLast?_eq_some_iff.1
    (hlast.trans (List.getLast?_eq_some_getLast hne))
  rw [hfront, trimEnd, dropEndWhile, List.reverse_append, List.reverse_singleton,
    List.singleton_append, List.dropWhile_cons, hc]
  simp

/-- The last character of a row before a word does not touch it. -/
theorem Legible.getLast?_writing {ps : List Lexeme} {p : Lexeme} {w : List Char}
    (h : Legible (ps ++ [p])) (hp : p.word? = some w) {c : Char}
    (hc : c ∈ (writing ps).getLast?) : isWord c = false ∧ c ≠ '.' ∧ isDecimalDigit c = false := by
  cases ps using List.reverseRecOn with
  | nil => cases hc
  | append_singleton qs q _ =>
    have hmeets : q.Meets p := (List.isChain_append.1 h).2.2 q (by simp) p (by simp)
    have hq : q.word? = none := by
      cases hword : q.word? with
      | none => rfl
      | some v =>
        have hnone : p.word? = none := by
          cases q with
          | number n | name x | keyword k => exact hmeets
          | _ => cases hword
        rw [hp] at hnone
        cases hnone
    obtain ⟨-, front, d, hchars, hd⟩ := Lexeme.word?_eq_none hq
    rw [Rendering.getLast?_writing (show q ∈ (qs ++ [q]).getLast? by simp), hchars,
      List.getLast?_append] at hc
    cases hc
    exact hd

theorem lastWord_append {u : List Char} (hu : ∀ c ∈ u.getLast?, isWord c = false) (w : List Char) :
    lastWord (u ++ w) = lastWord w := by
  have hstop : u.reverse.takeWhile isWord = [] := by
    cases hrev : u.reverse with
    | nil => rfl
    | cons c rest =>
      have hc : c ∈ u.getLast? := by rw [← List.head?_reverse, hrev]; rfl
      rw [List.takeWhile_cons, hu c hc]
      rfl
  have hrun : (u ++ w).reverse.takeWhile isWord = w.reverse.takeWhile isWord := by
    rw [List.reverse_append, List.takeWhile_append, hstop, List.append_nil]
    split
    · next hall => exact ((List.takeWhile_prefix isWord).eq_of_length hall).symm
    · rfl
  rw [lastWord, hrun]
  rfl

theorem lastWord_word {w : List Char} (hw : ∀ c ∈ w, isWord c = true) :
    lastWord w = String.ofList (w.dropWhile fun c => !isNameStart c) := by
  have hrun : w.reverse.takeWhile isWord = w.reverse :=
    List.takeWhile_eq_self_iff.2 fun c hc => hw c (List.mem_reverse.1 hc)
  rw [lastWord, hrun, List.reverse_reverse]

theorem mem_lastWord {text : List Char} {c : Char} (hc : c ∈ (lastWord text).toList) :
    c ∈ text ∧ isWord c = true := by
  rw [lastWord, String.toList_ofList] at hc
  have hrun := List.mem_reverse.1 ((List.dropWhile_sublist _).mem hc)
  exact ⟨List.mem_reverse.1 ((List.takeWhile_sublist _).mem hrun), List.mem_takeWhile_imp hrun⟩

theorem isDecimalDigit_eq_false_of_isNameStart {c : Char} (h : isNameStart c = true) :
    isDecimalDigit c = false := by
  rw [isNameStart, Bool.or_eq_true] at h
  obtain h | h := h
  · rw [beq_iff_eq.1 h]
    decide
  · have hrange := isAlpha_range h
    have hdigit : c.isDigit = false := by
      rw [← Bool.not_eq_true]
      intro hdigit
      have h57 := (toNat_of_isDigit hdigit).2
      omega
    simp [isDecimalDigit, digitValue?, show c.toNat < 128 by omega, hdigit]

theorem Identifier.exists_head (x : Identifier) : ∃ c more, x.text = c :: more ∧
    isNameStart c = true ∧ isDecimalDigit c = false := by
  have hname := x.isName_text
  cases hx : x.text with
  | nil =>
    rw [hx] at hname
    cases hname
  | cons c more =>
    rw [hx, isName, Bool.and_eq_true] at hname
    exact ⟨c, more, rfl, hname.1, isDecimalDigit_eq_false_of_isNameStart hname.1⟩

theorem signWords_reserved : ∀ w ∈ signWords, w ∈ reservedWords := by decide

/-- No word after which a sign stands is written with the characters of numbers alone. -/
theorem not_mem_signWords {w : String} (h : ∀ c ∈ w.toList, isStartChar c = true) :
    w ∉ signWords := by
  intro hmem
  have hletters : signWords.all (fun w => w.toList.any fun c => !isStartChar c) = true := by
    decide
  obtain ⟨c, hc, hletter⟩ := List.any_eq_true.1 (List.all_eq_true.1 hletters _ hmem)
  rw [h c hc] at hletter
  cases hletter

/-- A word ends an operand unless it is one after which a sign stands. -/
theorem joinsOperands_word {ps : List Lexeme} {p : Lexeme} (h : Legible (ps ++ [p]))
    {w : List Char} (hp : p.word? = some w) :
    joinsOperands (writing (ps ++ [p])) =
      (!signWords.contains (String.ofList (w.dropWhile fun c => !isNameStart c)) &&
        !endsInExponent (writing ps ++ w)) := by
  obtain ⟨hchars, c, more, hw, hall⟩ := Lexeme.word?_eq_some hp
  have hspace : p ≠ .space := by
    rintro rfl
    cases hp
  have hwriting : writing (ps ++ [p]) = writing ps ++ w := by simp [hchars]
  have hlast : (writing (ps ++ [p])).getLast? = some (w.getLast (by simp [hw])) := by
    rw [getLast?_writing (show p ∈ (ps ++ [p]).getLast? by simp), hchars,
      List.getLast?_eq_some_getLast]
  have hends : (isAlphanumeric (w.getLast (by simp [hw])) ||
      endsOperand (w.getLast (by simp [hw]))) = true := by
    have hword := hall _ (List.getLast_mem (by simp [hw]))
    rw [isWord, Bool.or_eq_true] at hword
    obtain hbar | hword := hword
    · simp [endsOperand, hbar]
    · simp [hword]
  simp only [joinsOperands, trimEnd_writing hspace, hlast, hends, Bool.true_and]
  rw [hwriting, lastWord_append (fun c hc => (h.getLast?_writing hp hc).1), lastWord_word hall]

theorem joinsOperands_other {ps : List Lexeme} {p : Lexeme} (hspace : p ≠ .space)
    (hp : p.word? = none) :
    joinsOperands (writing (ps ++ [p])) = p.chars.getLast?.any endsOperand := by
  obtain ⟨-, front, c, hchars, hc, -, -⟩ := Lexeme.word?_eq_none hp
  have hwriting : writing (ps ++ [p]) = (writing ps ++ front) ++ [c] := by simp [hchars]
  have hlast : (writing ps ++ front ++ [c]).getLast? = some c := List.getLast?_concat
  have hword : signWords.contains (lastWord (writing ps ++ front ++ [c])) = false := by
    have hempty : lastWord (writing ps ++ front ++ [c]) = "" := by simp [lastWord, hc]
    rw [hempty]
    decide
  have hexponent : endsInExponent (writing ps ++ front ++ [c]) = false := by
    have hne (d : Char) (hd : isWord d = true) : (c == d) = false :=
      beq_eq_false_iff_ne.2 (ne_of_isWord hd hc).symm
    simp [endsInExponent, hne 'e' (by decide), hne 'E' (by decide)]
  have hletter : isAlphanumeric c = false := by
    rw [isWord, Bool.or_eq_false_iff] at hc
    exact hc.2
  have htrim : trimEnd (writing (ps ++ [p])) = writing (ps ++ [p]) := trimEnd_writing hspace
  rw [hwriting] at htrim
  simp only [joinsOperands, hwriting, htrim, hlast, hword, hexponent, hletter]
  simp [hchars]

theorem joinsOperands_number {ps : List Lexeme} {n : DecimalNumber}
    (h : Legible (ps ++ [Lexeme.number n])) :
    joinsOperands (writing (ps ++ [Lexeme.number n])) = true := by
  have hword : signWords.contains
      (String.ofList (n.text.dropWhile fun c => !isNameStart c)) = false := by
    rw [List.contains_eq_mem, decide_eq_false_iff_not]
    refine not_mem_signWords fun c hc => ?_
    rw [String.toList_ofList] at hc
    obtain rfl | hdigit := n.mem_text c ((List.dropWhile_sublist _).mem hc)
    · rfl
    · simp [isStartChar, isDecimalDigit_of_isDigit hdigit]
  have hexponent : endsInExponent (writing ps ++ n.text) = false := by
    have hne : n.text ≠ [] := List.cons_ne_nil _ _
    have hlast : (writing ps ++ n.text).getLast? = some (n.text.getLast hne) := by
      rw [List.getLast?_append, List.getLast?_eq_some_getLast hne]
      rfl
    have hletter (d : Char) (hbar : d ≠ '_') (hdigit : d.isDigit = false) :
        n.text.getLast hne ≠ d := by
      intro heq
      have hd := n.mem_text _ (List.getLast_mem hne)
      rw [heq, hdigit] at hd
      simp [hbar] at hd
    simp [endsInExponent, hlast, hletter 'e' (by decide) rfl, hletter 'E' (by decide) rfl]
  rw [joinsOperands_word h rfl, hword, hexponent]
  rfl

theorem joinsOperands_name {ps : List Lexeme} {x : Identifier}
    (h : Legible (ps ++ [Lexeme.name x])) :
    joinsOperands (writing (ps ++ [Lexeme.name x])) = true := by
  have hx : (Lexeme.name x).word? = some x.text := rfl
  obtain ⟨c, more, htext, hc, hdigit⟩ := x.exists_head
  obtain ⟨-, -, -, -, hall⟩ := Lexeme.word?_eq_some hx
  have hdrop : x.text.dropWhile (fun c => !isNameStart c) = x.text := by
    rw [htext, List.dropWhile_cons, hc]
    rfl
  have hword : signWords.contains (String.ofList x.text) = false := by
    rw [List.contains_eq_mem, decide_eq_false_iff_not]
    exact fun hmem => x.not_reserved (signWords_reserved _ hmem)
  have hexponent : endsInExponent (writing ps ++ x.text) = false := by
    rw [endsInExponent, htext, endsInExponentAfter_word hdigit (htext ▸ hall)
      (fun d hd => h.getLast?_writing hx hd), Bool.and_false]
  rw [joinsOperands_word h hx, hdrop, hword, hexponent]
  rfl

theorem joinsOperands_keyword {ps : List Lexeme} {k : Keyword}
    (h : Legible (ps ++ [Lexeme.keyword k])) :
    joinsOperands (writing (ps ++ [Lexeme.keyword k])) = false := by
  have hword : signWords.contains
      (String.ofList (k.text.toList.dropWhile fun c => !isNameStart c)) = true := by
    cases k <;> decide
  rw [joinsOperands_word h rfl, hword]
  rfl

/-- The evaluator tells operators from signs as a reader of the lexemes does. -/
theorem joinsOperands_writing {ps : List Lexeme} (h : Legible ps) :
    joinsOperands (writing ps) = operandBefore false ps := by
  induction ps using List.reverseRecOn with
  | nil => rfl
  | append_singleton ps p ih =>
    rw [operandBefore, List.foldl_append, List.foldl_cons, List.foldl_nil]
    cases p with
    | space =>
      have hwriting : writing (ps ++ [Lexeme.space]) = writing ps ++ [' '] :=
        writing_append ps [.space]
      rw [joinsOperands, hwriting, trimEnd_append_space]
      exact ih h.left
    | number n => exact joinsOperands_number h
    | name x => exact joinsOperands_name h
    | keyword k => exact joinsOperands_keyword h
    | symbol s hs =>
      rw [joinsOperands_other (by simp) rfl]
      cases s <;> rfl
    | comma =>
      rw [joinsOperands_other (by simp) rfl]
      rfl
    | bracket b inner hb =>
      rw [joinsOperands_other (by simp) rfl]
      simp only [Lexeme.chars, List.getLast?_cons, List.getLast?_append]
      cases b <;> rfl

end SnippetGrader.Rendering
