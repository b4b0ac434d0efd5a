import Mathlib.Data.List.Chain
import SnippetGrader.Proofs.Rendering.Scanning
import SnippetGrader.Proofs.Rendering.Tree

/-!
# Lexemes

A written expression is a row of lexemes: words, symbols, single spaces, commas, and brackets with
all that stands between them. In a row that can be read (`Legible`) the scanning functions find
exactly the lexemes: `tokens` the symbols (`tokens_writing`), `findKeyword` the words
(`findKeyword_writing`), and `cutTopLevel` the commas (`cutTopLevelFrom_writing`).
-/

namespace SnippetGrader.Rendering

open Text Source

/-- The words that expressions are written with. -/
inductive Keyword where
  | condition | otherwise | either | both | negation | member
deriving DecidableEq

/-- How a keyword is written. -/
def Keyword.text : Keyword → String
  | condition => "if" | otherwise => "else" | either => "or" | both => "and" | negation => "not"
  | member => "in"

def isOperator : Symbol → Bool
  | .eq | .ne | .lt | .le | .gt | .ge | .add | .sub | .mul | .div | .floorDiv | .mod | .pow => true
  | _ => false

theorem operator_chars {s : Symbol} (h : isOperator s = true) :
    s.chars ≠ [] ∧ ∀ c ∈ s.chars,
      isWord c = false ∧ isPlain c = true ∧ isBlank c = false ∧ c ≠ ',' ∧ c ≠ '.' ∧
        isDecimalDigit c = false := by
  have hall : s.chars.all (fun c => !isWord c && isPlain c && !isBlank c && c != ',' && c != '.' &&
      !isDecimalDigit c) = true := by
    revert h
    cases s <;> decide
  refine ⟨by cases s <;> simp [Symbol.chars], fun c hc => ?_⟩
  have hc := List.all_eq_true.1 hall c hc
  simp only [Bool.and_eq_true, Bool.not_eq_true', bne_iff_ne] at hc
  obtain ⟨⟨⟨⟨⟨hword, hplain⟩, hblank⟩, hcomma⟩, hdot⟩, hdigit⟩ := hc
  exact ⟨hword, hplain, hblank, hcomma, hdot, hdigit⟩

/-- A part of a written expression. -/
inductive Lexeme where
  | number (n : DecimalNumber)
  | name (x : Identifier)
  | keyword (k : Keyword)
  | symbol (s : Symbol) (h : isOperator s = true)
  | space
  | comma
  | bracket (b : Bracket) (inner : List Char) (h : Balanced inner)

namespace Lexeme

/-- How a lexeme is written. -/
def chars : Lexeme → List Char
  | number n => n.text
  | name x => x.text
  | keyword k => k.text.toList
  | symbol s _ => s.chars
  | space => [' ']
  | comma => [',']
  | bracket b inner _ => b.opener :: (inner ++ [b.closer])

def word? : Lexeme → Option (List Char)
  | number n => some n.text
  | name x => some x.text
  | keyword k => some k.text.toList
  | _ => none

def symbol? : Lexeme → Option Symbol
  | symbol s _ => some s
  | _ => none

/-- Whether one lexeme may follow another: words do not touch, spaces are single, and a symbol is
followed by no other one but a sign. -/
def Meets : Lexeme → Lexeme → Prop
  | number _, q | name _, q | keyword _, q => q.word? = none
  | space, q => q ≠ space
  | symbol _ _, q => q.symbol? = none ∨ q.symbol? = some .sub
  | comma, _ | bracket _ _ _, _ => True

/-- A word has a first character, and all its characters are word characters. -/
theorem word?_eq_some {p : Lexeme} {w : List Char} (h : p.word? = some w) :
    p.chars = w ∧ ∃ c more, w = c :: more ∧ ∀ d ∈ w, isWord d = true := by
  cases p with
  | number n =>
    cases h
    refine ⟨rfl, n.first, n.more, rfl, fun d hd => ?_⟩
    obtain rfl | hd := n.mem_text d hd
    · decide
    · exact isWord_of_isDigit hd
  | name x =>
    cases h
    have hname := x.isName_text
    cases hx : x.text with
    | nil =>
      rw [hx] at hname
      cases hname
    | cons c more =>
      rw [hx] at hname
      simp only [isName, Bool.and_eq_true, List.all_eq_true] at hname
      refine ⟨hx, c, more, rfl, fun d hd => ?_⟩
      obtain rfl | hd := List.mem_cons.1 hd
      · exact isWord_of_isNameStart hname.1
      · exact hname.2 d hd
  | keyword k =>
    cases h
    refine ⟨rfl, ?_⟩
    cases k <;> exact ⟨_, _, rfl, List.all_eq_true.1 (by decide)⟩
  | _ => cases h

/-- What is no word neither starts nor ends like one. -/
theorem word?_eq_none {p : Lexeme} (h : p.word? = none) :
    (∃ c more, p.chars = c :: more ∧ isWord c = false) ∧
      ∃ front d, p.chars = front ++ [d] ∧ isWord d = false ∧ d ≠ '.' ∧
        isDecimalDigit d = false := by
  cases p with
  | symbol s hs =>
    obtain ⟨hne, hall⟩ := operator_chars hs
    refine ⟨?_, ?_⟩
    · obtain ⟨c, more, hc⟩ := List.exists_cons_of_ne_nil hne
      exact ⟨c, more, hc, (hall c (hc ▸ List.mem_cons_self)).1⟩
    · have hlast := hall _ (List.getLast_mem hne)
      exact ⟨_, _, (List.dropLast_concat_getLast hne).symm, hlast.1, hlast.2.2.2.2⟩
  | space => exact ⟨⟨' ', [], rfl, by decide⟩, [], ' ', rfl, by decide, by decide, by decide⟩
  | comma => exact ⟨⟨',', [], rfl, by decide⟩, [], ',', rfl, by decide, by decide, by decide⟩
  | bracket b inner _ =>
    cases b with
    | round =>
      exact ⟨⟨'(', _, rfl, by decide⟩, '(' :: inner, ')', rfl, by decide, by decide, by decide⟩
    | square =>
      exact ⟨⟨'[', _, rfl, by decide⟩, '[' :: inner, ']', rfl, by decide, by decide, by decide⟩
  | _ => cases h

theorem chars_ne_nil (p : Lexeme) : p.chars ≠ [] := by
  cases h : p.word? with
  | some w =>
    obtain ⟨rfl, c, more, hw, -⟩ := word?_eq_some h
    rw [hw]
    exact List.cons_ne_nil _ _
  | none =>
    obtain ⟨⟨c, more, hp, -⟩, -⟩ := word?_eq_none h
    rw [hp]
    exact List.cons_ne_nil _ _

end Lexeme

/-- How a row of lexemes is written. -/
def writing (ps : List Lexeme) : List Char := ps.flatMap Lexeme.chars

@[simp] theorem writing_nil : writing [] = [] := rfl

@[simp] theorem writing_cons (p : Lexeme) (ps : List Lexeme) :
    writing (p :: ps) = p.chars ++ writing ps := rfl

@[simp] theorem writing_append (ps qs : List Lexeme) :
    writing (ps ++ qs) = writing ps ++ writing qs :=
  List.flatMap_append

/-- A row of lexemes that can be told apart. -/
def Legible (ps : List Lexeme) : Prop := ps.IsChain Lexeme.Meets

theorem Legible.word?_eq_none {p q : Lexeme} {ps : List Lexeme} (h : Legible (p :: ps))
    {w : List Char} (hp : p.word? = some w) (hq : q ∈ ps.head?) : q.word? = none := by
  have hmeets : p.Meets q := (List.isChain_cons.1 h).1 q hq
  cases p with
  | number n | name x | keyword k => exact hmeets
  | _ => cases hp

/-- What follows a word in a legible row does not go on with it. -/
theorem Legible.head?_writing {p : Lexeme} {ps : List Lexeme} (h : Legible (p :: ps))
    {w : List Char} (hp : p.word? = some w) {c : Char} (hc : c ∈ (writing ps).head?) :
    isWord c = false := by
  cases ps with
  | nil => cases hc
  | cons q qs =>
    have hq : q.word? = none := h.word?_eq_none hp rfl
    obtain ⟨⟨d, more, hchars, hd⟩, -⟩ := Lexeme.word?_eq_none hq
    rw [writing_cons, hchars] at hc
    cases hc
    exact hd

/-! ## Symbols -/

/-- The tokens of a row that starts at position `i`. -/
def symbolTokens (i : Nat) : List Lexeme → List Token
  | [] => []
  | p :: ps =>
    (p.symbol?.map fun s => ⟨i, s⟩).toList ++ symbolTokens (i + p.chars.length) ps

theorem tokensFrom_plain {a : List Char}
    (h : ∀ c ∈ a, isPlain c = true ∧ Symbol.isSymbolChar c = false) (i : Nat) (rest : List Char) :
    tokensFrom {} i 0 (a ++ rest) = tokensFrom {} (i + a.length) 0 rest := by
  induction a generalizing i with
  | nil => rfl
  | cons c a ih =>
    obtain ⟨hplain, hsymbol⟩ := h c List.mem_cons_self
    have hrest := ih (fun d hd => h d (List.mem_cons_of_mem c hd)) (i + 1)
    rw [List.cons_append, tokensFrom_cons (step_plain hplain 0 _) (.inr hsymbol), hrest,
      List.length_cons]
    congr 1
    omega

/-- No longer symbol is read where an operator is followed by none of these. -/
theorem at?_operator {s : Symbol} (hs : isOperator s = true) {rest : List Char}
    (hrest : ∀ c ∈ rest.head?, c ≠ '=' ∧ c ≠ '*' ∧ c ≠ '/' ∧ c ≠ '>') :
    Symbol.at? (s.chars ++ rest) = some s := by
  cases rest with
  | nil =>
    revert hs
    cases s <;> decide
  | cons c rest =>
    obtain ⟨heq, hmul, hdiv, hgt⟩ := hrest c rfl
    cases s with
    | eq | ne | le | ge | lt | gt | add | sub | mul | div | mod | floorDiv | pow =>
      simp [Symbol.at?, Symbol.all, Symbol.chars, startsWith, Symbol.isSymbolChar, heq.symm,
        hmul.symm, hdiv.symm, hgt.symm]
    | _ => cases hs

/-- The rest of a symbol is passed over. -/
theorem tokensFrom_skip {a : List Char} (h : ∀ c ∈ a, isPlain c = true) (i : Nat)
    (rest : List Char) :
    tokensFrom {} i a.length (a ++ rest) = tokensFrom {} (i + a.length) 0 rest := by
  induction a generalizing i with
  | nil => rfl
  | cons c a ih =>
    have hstep : Reader.step {} c (a ++ rest) = ({}, .code 0) :=
      step_plain (h c List.mem_cons_self) 0 _
    have hrest := ih (fun d hd => h d (List.mem_cons_of_mem c hd)) (i + 1)
    simp only [List.cons_append, tokensFrom, hstep, List.length_cons, Nat.zero_lt_succ, gt_iff_lt,
      if_true, Nat.add_sub_cancel, hrest]
    congr 1
    omega

/-- A symbol that no longer one extends is a token. -/
theorem tokensFrom_operator {s : Symbol} (hs : isOperator s = true) (i : Nat) {rest : List Char}
    (hrest : ∀ c ∈ rest.head?, c ≠ '=' ∧ c ≠ '*' ∧ c ≠ '/' ∧ c ≠ '>') :
    tokensFrom {} i 0 (s.chars ++ rest) =
      ⟨i, s⟩ :: tokensFrom {} (i + s.chars.length) 0 rest := by
  have hat := at?_operator hs hrest
  obtain ⟨hne, hall⟩ := operator_chars hs
  obtain ⟨c, more, hchars⟩ := List.exists_cons_of_ne_nil hne
  have hstep : Reader.step {} c (more ++ rest) = ({}, .code 0) :=
    step_plain (hall c (hchars ▸ List.mem_cons_self)).2.1 0 _
  have hskip := tokensFrom_skip
    (fun d hd => (hall d (hchars ▸ List.mem_cons_of_mem c hd)).2.1) (i + 1) rest
  have hlength : s.length - 1 = more.length := by rw [Symbol.length, hchars]; rfl
  rw [hchars] at hat ⊢
  simp only [List.cons_append] at hat ⊢
  simp only [tokensFrom, hstep, hat, beq_self_eq_true, if_true, Nat.lt_irrefl, gt_iff_lt, if_false,
    hlength, hskip, List.length_cons]
  congr 2
  omega

/-- What follows a symbol in a legible row does not extend it. -/
theorem Legible.head?_writing_symbol {s : Symbol} {hs : isOperator s = true} {ps : List Lexeme}
    (h : Legible (.symbol s hs :: ps)) :
    ∀ c ∈ (writing ps).head?, c ≠ '=' ∧ c ≠ '*' ∧ c ≠ '/' ∧ c ≠ '>' := by
  intro c hc
  cases ps with
  | nil => cases hc
  | cons q qs =>
    have hmeets : Lexeme.Meets (.symbol s hs) q := (List.isChain_cons_cons.1 h).1
    cases hword : q.word? with
    | some w =>
      obtain ⟨hchars, d, more, rfl, hall⟩ := Lexeme.word?_eq_some hword
      rw [writing_cons, hchars] at hc
      cases hc
      have hd := hall c List.mem_cons_self
      exact ⟨ne_of_isWord hd (by decide), ne_of_isWord hd (by decide),
        ne_of_isWord hd (by decide), ne_of_isWord hd (by decide)⟩
    | none =>
      cases q with
      | number n | name x | keyword k => cases hword
      | symbol s' _ =>
        obtain hnone | hsub := hmeets
        · cases hnone
        · cases hsub
          cases hc
          decide
      | space | comma =>
        cases hc
        decide
      | bracket b inner hb => cases b <;> cases hc <;> decide

theorem tokensFrom_writing {ps : List Lexeme} (h : Legible ps) (i : Nat) :
    tokensFrom {} i 0 (writing ps) = symbolTokens i ps := by
  induction ps generalizing i with
  | nil => rfl
  | cons p ps ih =>
    have hps : Legible ps := h.tail
    rw [writing_cons, symbolTokens, ← ih hps]
    cases hword : p.word? with
    | some w =>
      obtain ⟨hchars, -, -, -, hall⟩ := Lexeme.word?_eq_some hword
      have hnone : p.symbol? = none := by
        cases p with
        | symbol s hs => cases hword
        | _ => rfl
      rw [hnone, hchars]
      exact tokensFrom_plain (fun c hc => ⟨isPlain_of_isWord (hall c hc),
        isSymbolChar_eq_false_of_isWord (hall c hc)⟩) i _
    | none =>
      cases p with
      | number n | name x | keyword k => cases hword
      | symbol s hs => exact tokensFrom_operator hs i h.head?_writing_symbol
      | space | comma => exact tokensFrom_plain (List.forall_mem_singleton.2 (by decide)) i _
      | bracket b inner hb =>
        have hopener : Symbol.isSymbolChar b.opener = false := by cases b <;> rfl
        have hcloser : Symbol.isSymbolChar b.closer = false := by cases b <;> rfl
        simp only [Lexeme.chars, List.cons_append, List.append_assoc, List.nil_append]
        rw [tokensFrom_cons (step_opener b 0 _) (.inr hopener), hb.tokensFrom_append,
          tokensFrom_cons (step_closer b 0 _) (.inr hcloser)]
        simp only [Lexeme.symbol?, Option.map_none, Option.toList_none, List.nil_append,
          List.length_cons, List.length_append, List.length_nil]
        congr 1
        omega

/-! ## Words -/

/-- A phrase of words that are not empty. -/
def IsPhrase (phrase : List String) : Prop :=
  phrase ≠ [] ∧ ∀ w ∈ phrase, w.toList ≠ [] ∧ ∀ c ∈ w.toList, isWord c = true

/-- What follows the words of a phrase at the start of a row. -/
def dropWords : (phrase : List String) → List Lexeme → Option (List Lexeme)
  | [], ps => some ps
  | [w], p :: ps => if p.word? = some w.toList then some ps else none
  | w :: next, p :: .space :: ps => if p.word? = some w.toList then dropWords next ps else none
  | _, _ => none

/-- The spans of a phrase in a row that starts at position `i`. -/
def phraseSpans (phrase : List String) (i : Nat) : List Lexeme → List Span
  | [] => []
  | p :: ps =>
    ((dropWords phrase (p :: ps)).map fun rest =>
      ⟨i, i + ((writing (p :: ps)).length - (writing rest).length)⟩).toList ++
        phraseSpans phrase (i + p.chars.length) ps

theorem dropFront?_eq_some {front text rest : List Char} :
    dropFront? front text = some rest ↔ text = front ++ rest := by
  induction front generalizing text with
  | nil => simp [dropFront?]
  | cons a front ih =>
    cases text with
    | nil => simp [dropFront?]
    | cons c text =>
      by_cases hc : a = c
      · simp [dropFront?, hc, ih]
      · simp [dropFront?, hc, Ne.symm hc]

/-- Words end where other characters follow. -/
theorem word_append_inj {v w r s : List Char} (hv : ∀ c ∈ v, isWord c = true)
    (hw : ∀ c ∈ w, isWord c = true) (hr : ∀ c ∈ r.head?, isWord c = false)
    (hs : ∀ c ∈ s.head?, isWord c = false) (h : v ++ r = w ++ s) : v = w ∧ r = s := by
  have htake {a b : List Char} (ha : ∀ c ∈ a, isWord c = true)
      (hb : ∀ c ∈ b.head?, isWord c = false) : (a ++ b).takeWhile isWord = a := by
    rw [List.takeWhile_append_of_pos ha]
    cases b with
    | nil => simp
    | cons c b => simp [hb c rfl]
  have hvw : v = w := by rw [← htake hv hr, h, htake hw hs]
  subst hvw
  exact ⟨rfl, List.append_cancel_left h⟩

theorem Lexeme.isBlank_head? {p : Lexeme} (hp : p ≠ .space) {c : Char}
    (hc : c ∈ p.chars.head?) : isBlank c = false := by
  cases hword : p.word? with
  | some w =>
    obtain ⟨hchars, d, more, rfl, hall⟩ := word?_eq_some hword
    rw [hchars] at hc
    cases hc
    exact isBlank_eq_false_of_isWord (hall c List.mem_cons_self)
  | none =>
    cases p with
    | number n | name x | keyword k => cases hword
    | symbol s hs => exact ((operator_chars hs).2 c (List.mem_of_mem_head? hc)).2.2.1
    | space => exact absurd rfl hp
    | comma =>
      cases hc
      decide
    | bracket b inner hb => cases b <;> cases hc <;> decide

/-- A row that does not start with a space has no blank to trim there. -/
theorem trimStart_writing {ps : List Lexeme} (h : ∀ p ∈ ps.head?, p ≠ .space) :
    trimStart (writing ps) = writing ps := by
  cases ps with
  | nil => rfl
  | cons p ps =>
    obtain ⟨c, more, hchars⟩ := List.exists_cons_of_ne_nil p.chars_ne_nil
    have hblank : isBlank c = false :=
      Lexeme.isBlank_head? (h p rfl) (c := c) (by rw [hchars]; rfl)
    rw [writing_cons, hchars, List.cons_append, trimStart, List.dropWhile_cons, hblank]
    rfl

/-- A word that stands alone at the start of a written row is its first lexeme. -/
theorem dropFront?_writing {w r : List Char} (hne : w ≠ []) (hw : ∀ c ∈ w, isWord c = true)
    {ps : List Lexeme} (h : Legible ps) (hr : ∀ c ∈ r.head?, isWord c = false) :
    dropFront? w (writing ps) = some r ↔
      ∃ p qs, ps = p :: qs ∧ p.word? = some w ∧ writing qs = r := by
  rw [dropFront?_eq_some]
  constructor
  · intro heq
    cases ps with
    | nil => exact absurd (List.append_eq_nil_iff.1 heq.symm).1 hne
    | cons p qs =>
      rw [writing_cons] at heq
      cases hword : p.word? with
      | some v =>
        obtain ⟨hchars, -, -, -, hv⟩ := Lexeme.word?_eq_some hword
        rw [hchars] at heq
        obtain ⟨rfl, hrest⟩ := word_append_inj hv hw (fun c => h.head?_writing hword) hr heq
        exact ⟨p, qs, rfl, hword, hrest⟩
      | none =>
        obtain ⟨⟨c, more, hchars, hc⟩, -⟩ := Lexeme.word?_eq_none hword
        obtain ⟨a, w', rfl⟩ := List.exists_cons_of_ne_nil hne
        rw [hchars, List.cons_append, List.cons_append] at heq
        obtain ⟨rfl, -⟩ := List.cons.inj heq
        rw [hw c List.mem_cons_self] at hc
        cases hc
  · rintro ⟨p, qs, rfl, hword, rfl⟩
    rw [writing_cons, (Lexeme.word?_eq_some hword).1]

/-- A blank at the start of a written row is a space. -/
theorem exists_space_cons {ps : List Lexeme} {c : Char} {rest : List Char}
    (h : writing ps = c :: rest) (hc : isBlank c = true) : ∃ qs, ps = .space :: qs := by
  cases ps with
  | nil => cases h
  | cons p qs =>
    by_cases hp : p = .space
    · exact ⟨qs, by rw [hp]⟩
    · obtain ⟨d, more, hchars⟩ := List.exists_cons_of_ne_nil p.chars_ne_nil
      have hd := Lexeme.isBlank_head? hp (c := d) (by rw [hchars]; rfl)
      rw [writing_cons, hchars, List.cons_append] at h
      cases h
      rw [hc] at hd
      cases hd

/-- Whether a text goes on with a word. -/
theorem stops_iff (r : List Char) :
    (!r.head?.any isWord) = true ↔ ∀ c ∈ r.head?, isWord c = false := by
  cases r <;> simp

section Phrases

variable {w : String} (hne : w.toList ≠ []) (hw : ∀ c ∈ w.toList, isWord c = true)
  {ps : List Lexeme} (h : Legible ps)
include hne hw h

theorem dropPhrase?_word :
    (dropPhrase? [w] (writing ps)).filter (fun rest => !rest.head?.any isWord) =
      (dropWords [w] ps).map writing := by
  rw [dropPhrase?]
  by_cases hex : ∃ p qs, ps = p :: qs ∧ p.word? = some w.toList
  · obtain ⟨p, qs, rfl, hword⟩ := hex
    have hrest : ∀ c ∈ (writing qs).head?, isWord c = false := fun c => h.head?_writing hword
    have hdrop := (dropFront?_writing hne hw h hrest).2 ⟨p, qs, rfl, hword, rfl⟩
    rw [hdrop, Option.filter_some, if_pos ((stops_iff _).2 hrest), dropWords, if_pos hword]
    rfl
  · have hnone : dropWords [w] ps = none := by
      cases ps with
      | nil => rfl
      | cons p qs => rw [dropWords, if_neg fun hword => hex ⟨p, qs, rfl, hword⟩]
    rw [hnone]
    cases hdrop : dropFront? w.toList (writing ps) with
    | none => rfl
    | some r =>
      rw [Option.filter_some, if_neg]
      · rfl
      · intro hr
        obtain ⟨p, qs, rfl, hword, -⟩ := (dropFront?_writing hne hw h ((stops_iff r).1 hr)).1 hdrop
        exact hex ⟨p, qs, rfl, hword⟩

omit hne hw h in
theorem dropPhrase?_eq {v : String} {next : List String} (text : List Char) :
    dropPhrase? (w :: v :: next) text = match dropFront? w.toList text with
      | some (c :: rest) => if isBlank c then dropPhrase? (v :: next) (trimStart rest) else none
      | _ => none := rfl

/-- The first word of a longer phrase is followed by a space and the rest of it. -/
theorem dropPhrase?_cons {v : String} {next : List String} :
    (∃ p qs, ps = p :: .space :: qs ∧
        dropPhrase? (w :: v :: next) (writing ps) = dropPhrase? (v :: next) (writing qs) ∧
        dropWords (w :: v :: next) ps = dropWords (v :: next) qs) ∨
      (dropPhrase? (w :: v :: next) (writing ps) = none ∧
        dropWords (w :: v :: next) ps = none) := by
  by_cases hex : ∃ p qs, ps = p :: .space :: qs ∧ p.word? = some w.toList
  · obtain ⟨p, qs, rfl, hword⟩ := hex
    have hstart : ∀ q ∈ qs.head?, q ≠ .space := (List.isChain_cons.1 h.tail).1
    have hrest : ∀ c ∈ (writing (.space :: qs)).head?, isWord c = false :=
      fun c => h.head?_writing hword
    have hdrop := (dropFront?_writing hne hw h hrest).2 ⟨p, _, rfl, hword, rfl⟩
    refine .inl ⟨p, qs, rfl, ?_, if_pos hword⟩
    rw [dropPhrase?_eq, hdrop]
    change (if isBlank ' ' then dropPhrase? (v :: next) (trimStart (writing qs)) else none) = _
    rw [trimStart_writing hstart, if_pos (by decide)]
  · refine .inr ⟨?_, ?_⟩
    · rw [dropPhrase?_eq]
      cases hdrop : dropFront? w.toList (writing ps) with
      | none => rfl
      | some r =>
        cases r with
        | nil => rfl
        | cons c rest =>
          refine if_neg fun hblank => hex ?_
          have hr : ∀ d ∈ (c :: rest).head?, isWord d = false := by
            rintro d ⟨⟩
            exact isWord_eq_false_of_isBlank hblank
          obtain ⟨p, qs, rfl, hword, hqs⟩ := (dropFront?_writing hne hw h hr).1 hdrop
          obtain ⟨qs, rfl⟩ := exists_space_cons hqs hblank
          exact ⟨p, qs, rfl, hword⟩
    · obtain _ | ⟨p, _ | ⟨q, qs⟩⟩ := ps
      · rfl
      · rfl
      · cases q with
        | space => exact if_neg fun hword => hex ⟨p, qs, rfl, hword⟩
        | _ => rfl

end Phrases

/-- Reading a phrase at the start of a written row is reading its words. -/
theorem dropPhrase?_writing {phrase : List String} (hphrase : IsPhrase phrase) {ps : List Lexeme}
    (h : Legible ps) :
    (dropPhrase? phrase (writing ps)).filter (fun rest => !rest.head?.any isWord) =
      (dropWords phrase ps).map writing := by
  obtain ⟨hnil, hwords⟩ := hphrase
  induction phrase generalizing ps with
  | nil => exact absurd rfl hnil
  | cons w next ih =>
    obtain ⟨hne, hw⟩ := hwords w List.mem_cons_self
    cases next with
    | nil => exact dropPhrase?_word hne hw h
    | cons v next =>
      obtain ⟨p, qs, rfl, hphrase, hdrop⟩ | ⟨hphrase, hdrop⟩ := dropPhrase?_cons hne hw h
      · rw [hphrase, hdrop]
        exact ih h.tail.tail (List.cons_ne_nil _ _) fun u hu => hwords u (List.mem_cons_of_mem w hu)
      · rw [hphrase, hdrop]
        rfl

theorem dropWords_eq_none {phrase : List String} (hphrase : phrase ≠ []) {p : Lexeme}
    (hp : ∀ w ∈ phrase.head?, p.word? ≠ some w.toList) (ps : List Lexeme) :
    dropWords phrase (p :: ps) = none := by
  match phrase, ps with
  | [], _ => exact absurd rfl hphrase
  | [w], _ => exact if_neg (hp w rfl)
  | _ :: _ :: _, [] => rfl
  | w :: v :: next, .space :: ps => exact if_neg (hp w rfl)
  | _ :: _ :: _, .number _ :: _ | _ :: _ :: _, .name _ :: _ | _ :: _ :: _, .keyword _ :: _
  | _ :: _ :: _, .symbol _ _ :: _ | _ :: _ :: _, .comma :: _
  | _ :: _ :: _, .bracket _ _ _ :: _ => rfl

section Keywords

variable {phrase : List String} (hphrase : IsPhrase phrase)
include hphrase

/-- A phrase after a character that does not touch it is read as its words. -/
theorem phraseAt?_writing {ps : List Lexeme} (h : Legible ps) (i : Nat) {before : Option Char}
    (hbefore : (before.any fun c => isWord c || c == '.') = false) :
    phraseAt? phrase i before (writing ps) = (dropWords phrase ps).map fun rest =>
      ⟨i, i + ((writing ps).length - (writing rest).length)⟩ := by
  have hat : phraseAt? phrase i before (writing ps) =
      ((dropPhrase? phrase (writing ps)).filter fun rest => !rest.head?.any isWord).map fun rest =>
        ⟨i, i + ((writing ps).length - rest.length)⟩ := by
    unfold phraseAt?
    rw [hbefore, if_neg Bool.false_ne_true]
    cases dropPhrase? phrase (writing ps) with
    | none => rfl
    | some rest => cases hstop : rest.head?.any isWord <;> simp [hstop, Option.filter_some]
  rw [hat, dropPhrase?_writing hphrase h, Option.map_map]
  rfl

theorem phraseAt?_eq_none {c : Char} (hc : isWord c = false) (i : Nat) (before : Option Char)
    (tail : List Char) : phraseAt? phrase i before (c :: tail) = none := by
  obtain ⟨hnil, hwords⟩ := hphrase
  have hdrop (w : String) (hw : w ∈ phrase) : dropFront? w.toList (c :: tail) = none := by
    obtain ⟨hne, hall⟩ := hwords w hw
    obtain ⟨a, more, hchars⟩ := List.exists_cons_of_ne_nil hne
    have ha := ne_of_isWord (hall a (hchars ▸ List.mem_cons_self)) hc
    simp [hchars, dropFront?, ha]
  have hphrase : dropPhrase? phrase (c :: tail) = none := by
    match phrase with
    | [] => exact absurd rfl hnil
    | [w] => exact hdrop w List.mem_cons_self
    | w :: _ :: _ =>
      rw [dropPhrase?, hdrop w List.mem_cons_self]
      simp
  unfold phraseAt?
  rw [hphrase]
  split <;> rfl

theorem findKeywordFrom_passed {a : List Char}
    (h : ∀ c ∈ a, isPlain c = true ∧ isWord c = false) (i : Nat) (before : Option Char)
    (rest : List Char) :
    findKeywordFrom phrase {} i before (a ++ rest) =
      findKeywordFrom phrase {} (i + a.length) (a.getLast?.or before) rest := by
  induction a generalizing i before with
  | nil => rfl
  | cons c a ih =>
    obtain ⟨hplain, hword⟩ := h c List.mem_cons_self
    rw [List.cons_append, findKeywordFrom_cons (step_plain hplain 0 _)
      (.inr (phraseAt?_eq_none hphrase hword i before _)),
      ih (fun d hd => h d (List.mem_cons_of_mem c hd)), List.length_cons, List.getLast?_cons]
    congr 1
    · omega
    · cases a.getLast? <;> rfl

/-- No phrase starts in a lexeme that is no word, and none is touched by its end. -/
theorem findKeywordFrom_lexeme {p : Lexeme} (hp : p.word? = none) (i : Nat)
    (before : Option Char) (rest : List Char) :
    ∃ d, isWord d = false ∧ d ≠ '.' ∧ findKeywordFrom phrase {} i before (p.chars ++ rest) =
      findKeywordFrom phrase {} (i + p.chars.length) (some d) rest := by
  obtain ⟨-, front, d, hchars, hd, hdot, -⟩ := Lexeme.word?_eq_none hp
  refine ⟨d, hd, hdot, ?_⟩
  have hlast : p.chars.getLast?.or before = some d := by simp [hchars]
  rw [← hlast]
  cases p with
  | number n | name x | keyword k => cases hp
  | symbol s hs =>
    exact findKeywordFrom_passed hphrase
      (fun c hc => ⟨((operator_chars hs).2 c hc).2.1, ((operator_chars hs).2 c hc).1⟩) i before rest
  | space | comma =>
    exact findKeywordFrom_passed hphrase (List.forall_mem_singleton.2 (by decide)) i before rest
  | bracket b inner hb =>
    have hopener : isWord b.opener = false := by cases b <;> decide
    have hcloser : isWord b.closer = false := by cases b <;> decide
    obtain ⟨before', hinner⟩ :=
      hb.findKeywordFrom_append 0 (i + 1) (b.closer :: rest) phrase (some b.opener)
    simp only [Lexeme.chars, List.cons_append, List.append_assoc, List.nil_append]
    rw [findKeywordFrom_cons (step_opener b 0 _) (.inr (phraseAt?_eq_none hphrase hopener _ _ _)),
      hinner,
      findKeywordFrom_cons (step_closer b 0 _) (.inr (phraseAt?_eq_none hphrase hcloser _ _ _))]
    simp only [List.length_cons, List.length_append, List.length_nil, List.getLast?_cons,
      List.getLast?_append, List.getLast?_nil]
    congr 1
    omega

end Keywords

theorem findKeywordFrom_inside (phrase : List String) {a : List Char}
    (h : ∀ c ∈ a, isWord c = true) (i : Nat) {b : Char} (hb : isWord b = true) (rest : List Char) :
    findKeywordFrom phrase {} i (some b) (a ++ rest) =
      findKeywordFrom phrase {} (i + a.length) (some (a.getLast?.getD b)) rest := by
  induction a generalizing i b with
  | nil => rfl
  | cons c a ih =>
    have hc := h c List.mem_cons_self
    have hnone (tail : List Char) : phraseAt? phrase i (some b) tail = none := by
      simp [phraseAt?, hb]
    rw [List.cons_append, findKeywordFrom_cons (step_plain (isPlain_of_isWord hc) 0 _)
      (.inr (hnone _)), ih (fun d hd => h d (List.mem_cons_of_mem c hd)) (i + 1) hc,
      List.length_cons, List.getLast?_cons]
    congr 1
    · omega

/-- The spans of a phrase in a legible row are those of its words. -/
theorem findKeywordFrom_writing {phrase : List String} (hphrase : IsPhrase phrase)
    {ps : List Lexeme} (h : Legible ps) (i : Nat) (before : Option Char)
    (hbefore : ∀ p ∈ ps.head?, p.word? ≠ none →
      (before.any fun c => isWord c || c == '.') = false) :
    findKeywordFrom phrase {} i before (writing ps) = phraseSpans phrase i ps := by
  induction ps generalizing i before with
  | nil => rfl
  | cons p ps ih =>
    have hps : Legible ps := h.tail
    cases hword : p.word? with
    | some w =>
      obtain ⟨hchars, c, more, rfl, hall⟩ := Lexeme.word?_eq_some hword
      have hc := hall c List.mem_cons_self
      have hmore := fun d hd => hall d (List.mem_cons_of_mem c hd)
      have hat := phraseAt?_writing hphrase h i (hbefore p rfl (by simp [hword]))
      have hnext : ∀ q ∈ ps.head?, q.word? ≠ none →
          ((some (more.getLast?.getD c)).any fun c => isWord c || c == '.') = false :=
        fun q hq hne => absurd (h.word?_eq_none hword hq) hne
      have hrest : findKeywordFrom phrase {} (i + 1) (some c) (more ++ writing ps) =
          phraseSpans phrase (i + (c :: more).length) ps := by
        rw [findKeywordFrom_inside phrase hmore (i + 1) hc, ih hps _ _ hnext, List.length_cons]
        congr 1
        omega
      rw [phraseSpans, ← hat, writing_cons, hchars, ← hrest, List.cons_append, findKeywordFrom,
        step_plain (isPlain_of_isWord hc) 0]
      cases phraseAt? phrase i before (c :: (more ++ writing ps)) <;> rfl
    | none =>
      obtain ⟨d, hd, hdot, hpassed⟩ := findKeywordFrom_lexeme hphrase hword i before (writing ps)
      have hnext : ((some d).any fun c => isWord c || c == '.') = false := by simp [hd, hdot]
      rw [phraseSpans, dropWords_eq_none hphrase.1 (by simp [hword]), writing_cons, hpassed,
        ih hps _ _ fun _ _ _ => hnext]
      rfl

theorem findKeyword_writing {phrase : List String} (hphrase : IsPhrase phrase) {ps : List Lexeme}
    (h : Legible ps) : findKeyword phrase (writing ps) = phraseSpans phrase 0 ps :=
  findKeywordFrom_writing hphrase h 0 none fun _ _ _ => rfl

/-! ## Commas, brackets and blanks -/

theorem Balanced.chars (p : Lexeme) : Balanced p.chars := by
  cases hword : p.word? with
  | some w =>
    obtain ⟨hchars, -, -, -, hall⟩ := Lexeme.word?_eq_some hword
    rw [hchars]
    exact .of_plain fun c hc => isPlain_of_isWord (hall c hc)
  | none =>
    cases p with
    | number n | name x | keyword k => cases hword
    | symbol s hs => exact .of_plain fun c hc => ((operator_chars hs).2 c hc).2.1
    | space | comma => exact .of_plain (List.forall_mem_singleton.2 (by decide))
    | bracket b inner hb => exact .bracket b hb .nil

/-- The brackets of a written row are closed. -/
theorem Balanced.writing (ps : List Lexeme) : Balanced (writing ps) := by
  induction ps with
  | nil => exact .nil
  | cons p ps ih => exact (Balanced.chars p).append ih

theorem cutTopLevelFrom_writing {ps : List Lexeme} (h : Lexeme.comma ∉ ps) (piece rest : List Char) :
    cutTopLevelFrom ',' {} piece (writing ps ++ rest) =
      cutTopLevelFrom ',' {} ((writing ps).reverse ++ piece) rest := by
  induction ps generalizing piece with
  | nil => rfl
  | cons p ps ih =>
    have hcut : ∀ rest, cutTopLevelFrom ',' {} piece (p.chars ++ rest) =
        cutTopLevelFrom ',' {} (p.chars.reverse ++ piece) rest := by
      intro rest
      cases hword : p.word? with
      | some w =>
        obtain ⟨hchars, -, -, -, hall⟩ := Lexeme.word?_eq_some hword
        rw [hchars]
        exact cutTopLevelFrom_plain (fun c hc => ⟨isPlain_of_isWord (hall c hc),
          ne_of_isWord (hall c hc) (by decide)⟩) 0 piece rest
      | none =>
        cases p with
        | number n | name x | keyword k => cases hword
        | symbol s hs =>
          exact cutTopLevelFrom_plain (fun c hc => ⟨((operator_chars hs).2 c hc).2.1,
            ((operator_chars hs).2 c hc).2.2.2.1⟩) 0 piece rest
        | space =>
          exact cutTopLevelFrom_plain (List.forall_mem_singleton.2 (by decide)) 0 piece rest
        | comma => exact absurd List.mem_cons_self h
        | bracket b inner hb =>
          have hopener : b.opener ≠ ',' := by cases b <;> decide
          have hcloser : b.closer ≠ ',' := by cases b <;> decide
          simp only [Lexeme.chars, List.cons_append, List.append_assoc, List.nil_append]
          rw [cutTopLevelFrom_cons (step_opener b 0 _) (.inr hopener), hb.cutTopLevelFrom_append,
            cutTopLevelFrom_cons (step_closer b 0 _) (.inr hcloser)]
          simp
    rw [writing_cons, List.append_assoc, hcut, ih fun hmem => h (List.mem_cons_of_mem p hmem)]
    simp

/-- A bracket at the start of a row is closed where it ends. -/
theorem matchingClose_writing (b : Bracket) (inner : List Char) (hb : Balanced inner)
    (ps : List Lexeme) :
    matchingClose (writing (.bracket b inner hb :: ps)) 0 = some (inner.length + 1) := by
  have h := hb.matchingClose_append (writing ps) b
  simpa [Lexeme.chars] using h

theorem Lexeme.isBlank_getLast? {p : Lexeme} (hp : p ≠ .space) {c : Char}
    (hc : c ∈ p.chars.getLast?) : isBlank c = false := by
  have hmem : c ∈ p.chars := List.mem_of_getLast? hc
  cases hword : p.word? with
  | some w =>
    obtain ⟨hchars, -, -, -, hall⟩ := word?_eq_some hword
    exact isBlank_eq_false_of_isWord (hall c (hchars ▸ hmem))
  | none =>
    cases p with
    | number n | name x | keyword k => cases hword
    | symbol s hs => exact ((operator_chars hs).2 c hmem).2.2.1
    | space => exact absurd rfl hp
    | comma =>
      cases hc
      decide
    | bracket b inner hb =>
      have hlast : (Lexeme.bracket b inner hb).chars.getLast? = some b.closer := by
        simp [chars, List.getLast?_cons]
      rw [hlast] at hc
      cases hc
      cases b <;> decide

theorem head?_writing {ps : List Lexeme} {p : Lexeme} (h : p ∈ ps.head?) :
    (writing ps).head? = p.chars.head? := by
  cases ps with
  | nil => cases h
  | cons q qs =>
    cases h
    obtain ⟨c, more, hchars⟩ := List.exists_cons_of_ne_nil p.chars_ne_nil
    simp [hchars]

theorem getLast?_writing {ps : List Lexeme} {p : Lexeme} (h : p ∈ ps.getLast?) :
    (writing ps).getLast? = p.chars.getLast? := by
  obtain ⟨qs, rfl⟩ := List.getLast?_eq_some_iff.1 h
  have hne := p.chars_ne_nil
  rw [writing_append, List.getLast?_append, writing_cons, writing_nil, List.append_nil,
    List.getLast?_eq_some_getLast hne]
  rfl

/-- Blanks around a text that has none at its ends are trimmed. -/
theorem trim_append {a t b : List Char} (ha : ∀ c ∈ a, isBlank c = true)
    (hb : ∀ c ∈ b, isBlank c = true) (hhead : ∀ c ∈ t.head?, isBlank c = false)
    (hlast : ∀ c ∈ t.getLast?, isBlank c = false) (ht : t ≠ []) : trim (a ++ t ++ b) = t := by
  have hdrop {x y : List Char} (hx : ∀ c ∈ x, isBlank c = true)
      (hy : ∀ c ∈ y.head?, isBlank c = false) : (x ++ y).dropWhile isBlank = y := by
    rw [List.dropWhile_append_of_pos hx]
    cases y with
    | nil => rfl
    | cons c y => rw [List.dropWhile_cons, hy c rfl]; rfl
  have hstart : ∀ c ∈ (t ++ b).head?, isBlank c = false := by
    intro c hc
    obtain ⟨d, more, rfl⟩ := List.exists_cons_of_ne_nil ht
    exact hhead c hc
  have hreverse : ∀ c ∈ t.reverse.head?, isBlank c = false := by
    rw [List.head?_reverse]
    exact hlast
  rw [trim, trimStart, List.append_assoc, hdrop ha hstart, trimEnd, dropEndWhile,
    List.reverse_append, hdrop (fun c hc => hb c (List.mem_reverse.1 hc)) hreverse,
    List.reverse_reverse]

theorem writing_ne_nil {ps : List Lexeme} (h : ps ≠ []) : writing ps ≠ [] := by
  obtain ⟨p, qs, rfl⟩ := List.exists_cons_of_ne_nil h
  intro hnil
  exact p.chars_ne_nil (List.append_eq_nil_iff.1 hnil).1

/-- Blanks around a row that has no spaces at its ends are trimmed. -/
theorem trim_writing {ps : List Lexeme} {p q : Lexeme} (hp : p ∈ ps.head?) (hp' : p ≠ .space)
    (hq : q ∈ ps.getLast?) (hq' : q ≠ .space) {a b : List Char} (ha : ∀ c ∈ a, isBlank c = true)
    (hb : ∀ c ∈ b, isBlank c = true) : trim (a ++ writing ps ++ b) = writing ps := by
  refine trim_append ha hb (fun c hc => ?_) (fun c hc => ?_) (writing_ne_nil ?_)
  · rw [head?_writing hp] at hc
    exact Lexeme.isBlank_head? hp' hc
  · rw [getLast?_writing hq] at hc
    exact Lexeme.isBlank_getLast? hq' hc
  · rintro rfl
    cases hp

end SnippetGrader.Rendering
