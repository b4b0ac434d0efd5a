import Mathlib.Data.List.TakeDrop
import Mathlib.Data.List.TakeWhile
import SnippetGrader.Proofs.Rendering.Form

/-!
# Operands

How the evaluator reads what is no operator: numbers, with a sign or without, names and brackets. A
text with an operator in it is read as none of these.
-/

namespace SnippetGrader.Rendering

open Text Source Expression

/-! ## Numbers -/

section Digits

theorem exists_digit {c : Char} (h : c.isDigit = true) : ∃ n < 10, c = Char.ofNat (48 + n) := by
  obtain ⟨hlow, hhigh⟩ := toNat_of_isDigit h
  refine ⟨c.toNat - 48, by omega, ?_⟩
  rw [show 48 + (c.toNat - 48) = c.toNat by omega, Char.ofNat_toNat]

/-- What the ten digits have in common. -/
theorem digit_facts {c : Char} (h : c.isDigit = true) :
    isDecimalDigit c = true ∧ Number.isNumberBlank c = false ∧ Number.plainDigit c = c ∧
      Number.isDigitIn 10 c = true ∧ isNameStart c = false ∧
      c ∉ ['-', '+', '_', '.', 'e', 'E', 'x', 'X', 'o', 'O', 'b', 'B', '(', '['] := by
  obtain ⟨n, hn, rfl⟩ := exists_digit h
  revert n
  decide

theorem trimBy_eq_self {p : Char → Bool} {text : List Char} (h : ∀ c ∈ text, p c = false) :
    trimBy p text = text := by
  have hdrop {l : List Char} (hl : ∀ c ∈ l, p c = false) : l.dropWhile p = l := by
    cases l with
    | nil => rfl
    | cons c l => rw [List.dropWhile_cons, hl c List.mem_cons_self]; rfl
  rw [trimBy, hdrop h, dropEndWhile, hdrop fun c hc => h c (List.mem_reverse.1 hc),
    List.reverse_reverse]

variable {ds : List Char} (hds : ∀ c ∈ ds, c.isDigit = true)
include hds

theorem underscoresFit_digits (before : Bool) :
    Number.underscoresFit (Number.isDigitIn 10) before ds = true := by
  induction ds generalizing before with
  | nil => rfl
  | cons c ds ih =>
    obtain ⟨-, -, -, -, -, hc⟩ := digit_facts (hds c List.mem_cons_self)
    have hbar : c ≠ '_' := by
      rintro rfl
      exact hc (by decide)
    rw [Number.underscoresFit]
    · exact ih (fun d hd => hds d (List.mem_cons_of_mem c hd)) _
    · exact hbar

theorem readDigits_digits (hne : ds ≠ []) : Number.readDigits 10 ds =
    if ds.length > Number.maxDigits then .error (.tooLong ds.length)
    else .ok (Number.valueOf 10 0 ds) := by
  have hrun : ds.takeWhile (fun c => Number.isDigitIn 10 c || c == '_') = ds := by
    rw [← List.append_nil ds, List.takeWhile_append_of_pos]
    · rfl
    · intro c hc
      rw [(digit_facts (hds c hc)).2.2.2.1, Bool.true_or]
  have hfilter : ds.filter (· != '_') = ds := by
    rw [List.filter_eq_self]
    intro c hc
    have hmem := (digit_facts (hds c hc)).2.2.2.2.2
    simp only [bne_iff_ne]
    rintro rfl
    exact hmem (by decide)
  have hbase : (10 != Number.twoPow (Nat.log2 10)) = true := by decide
  simp only [Number.readDigits, hrun, hfilter, underscoresFit_digits hds, hbase, Nat.lt_irrefl]
  simp [hne]

theorem markedBase?_digits : Number.markedBase? ds = none := by
  unfold Number.markedBase?
  split
  · next c rest =>
    have hmem := (digit_facts (hds c (by simp))).2.2.2.2.2
    simp only [List.mem_cons, List.not_mem_nil, or_false, not_or] at hmem
    simp [hmem]
  · rfl

theorem splitSign_digits : Number.splitSign ds = (false, ds) := by
  unfold Number.splitSign
  split
  · exact absurd (hds '-' (by simp)) (by decide)
  · exact absurd (hds '+' (by simp)) (by decide)
  · rfl

theorem intOfText_digits (hne : ds ≠ []) (negative : Bool) :
    Number.intOfText 10 (if negative then '-' :: ds else ds) =
      if ds.length > Number.maxDigits then .error (.tooLong ds.length)
      else .ok (if negative then -(Number.valueOf 10 0 ds : Int) else Number.valueOf 10 0 ds) := by
  have hkept : ∀ c ∈ (if negative then '-' :: ds else ds),
      Number.isNumberBlank c = false ∧ Number.plainDigit c = c := by
    intro c hc
    obtain rfl | hc : c = '-' ∨ c ∈ ds := by
      cases negative <;> simp_all
    · decide
    · exact ⟨(digit_facts (hds c hc)).2.1, (digit_facts (hds c hc)).2.2.1⟩
  have hplain : Number.plainNumeral (if negative then '-' :: ds else ds) =
      if negative then '-' :: ds else ds := by
    rw [Number.plainNumeral, trimBy_eq_self fun c hc => (hkept c hc).1]
    exact (List.map_congr_left fun c hc => (hkept c hc).2).trans (List.map_id _)
  have hsign : Number.splitSign (if negative then '-' :: ds else ds) = (negative, ds) := by
    cases negative with
    | true => rfl
    | false => exact splitSign_digits hds
  have hread := readDigits_digits hds hne
  unfold Number.intOfText
  rw [hplain, hsign]
  simp only [markedBase?_digits hds, show ((10 : Nat) == 0) = false from rfl, Bool.false_eq_true,
    if_false, reduceBEq, hread, Bool.false_and]
  by_cases hlong : ds.length > Number.maxDigits
  · simp only [if_pos hlong]
  · simp only [if_neg hlong]

end Digits

namespace DecimalNumber

theorem isDigit_digits (n : DecimalNumber) : ∀ c ∈ n.digits, c.isDigit = true := by
  intro c hc
  rw [digits, List.mem_filter, bne_iff_ne] at hc
  exact (n.mem_text c hc.1).resolve_left hc.2

theorem digits_ne_nil (n : DecimalNumber) : n.digits ≠ [] := by
  have hbar : n.first ≠ '_' := by
    intro h
    have hdigit := n.first_isDigit
    rw [h] at hdigit
    cases hdigit
  simp [digits, text, hbar]

theorem afterDigits?_text (n : DecimalNumber) : Literal.afterDigits? n.text = some [] := by
  have hmore : n.more.dropWhile Literal.isDigitOrBar = [] := by
    rw [← List.append_nil n.more, List.dropWhile_append_of_pos]
    · rfl
    intro c hc
    obtain rfl | hdigit := n.more_isDigit c hc
    · decide
    · simp [Literal.isDigitOrBar, (digit_facts hdigit).1]
  simp only [text, Literal.afterDigits?, (digit_facts n.first_isDigit).1, if_true, hmore]

theorem numberValue?_text (n : DecimalNumber) (negative : Bool) :
    Literal.numberValue? (if negative then '-' :: n.text else n.text) =
      some (Value.int <$> (if negative then (- ·) else id) <$> n.value) := by
  have hfacts := digit_facts n.first_isDigit
  have hsign : Literal.dropSign (if negative then '-' :: n.text else n.text) = n.text := by
    cases negative with
    | true => rfl
    | false =>
      have hne := hfacts.2.2.2.2.2
      simp only [List.mem_cons, List.not_mem_nil, or_false, not_or] at hne
      simp [text, Literal.dropSign, hne]
  have hnumber : Literal.isNumber (if negative then '-' :: n.text else n.text) = true := by
    rw [Literal.isNumber, hsign, n.afterDigits?_text]
  have hwhole : (if negative then '-' :: n.text else n.text).any
      (fun c => c == '.' || c == 'e' || c == 'E') = false := by
    rw [List.any_eq_false]
    intro c hc
    obtain rfl | hc : c = '-' ∨ c ∈ n.text := by
      cases negative <;> simp_all
    · decide
    · obtain rfl | hdigit := n.mem_text c hc
      · decide
      · have hne := (digit_facts hdigit).2.2.2.2.2
        simp only [List.mem_cons, List.not_mem_nil, or_false, not_or] at hne
        simp [hne]
  have hplain : (if negative then '-' :: n.text else n.text).filter (· != '_') =
      if negative then '-' :: n.digits else n.digits := by
    cases negative <;> rfl
  have hread := intOfText_digits n.isDigit_digits n.digits_ne_nil negative
  simp only [Literal.numberValue?, hnumber, hwhole, hplain, Convert.toInt, Convert.intOfString,
    String.toList_ofList, hread, value]
  by_cases hlong : n.digits.length > Number.maxDigits
  · simp only [if_pos hlong]
    rfl
  · simp only [if_neg hlong]
    cases negative <;> rfl

end DecimalNumber

/-! ## What is no number -/

theorem afterDigits?_eq_some {text rest : List Char} (h : Literal.afterDigits? text = some rest) :
    ∃ front, text = front ++ rest ∧ ' ' ∉ front := by
  have hrun (l : List Char) : ' ' ∉ l.takeWhile Literal.isDigitOrBar := fun hmem =>
    absurd (List.mem_takeWhile_imp hmem) (by decide)
  cases text with
  | nil => cases h
  | cons c text =>
    have htext := List.takeWhile_append_dropWhile (p := Literal.isDigitOrBar) (l := text)
    simp only [Literal.afterDigits?] at h
    split at h
    · next hc =>
      have hspace : c ≠ ' ' := by
        rintro rfl
        exact absurd hc (by decide)
      split at h
      · next more hdrop =>
        have hmore := List.takeWhile_append_dropWhile (p := Literal.isDigitOrBar) (l := more)
        cases h
        refine ⟨c :: (text.takeWhile Literal.isDigitOrBar ++
          '.' :: more.takeWhile Literal.isDigitOrBar), ?_, ?_⟩
        · rw [List.cons_append, List.append_assoc, List.cons_append, hmore, ← hdrop, htext]
        · simp [hspace.symm, hrun]
      · cases h
        refine ⟨c :: text.takeWhile Literal.isDigitOrBar, by rw [List.cons_append, htext], ?_⟩
        simp [hspace.symm, hrun]
    · split at h
      · next hdot =>
        cases h
        refine ⟨c :: text.takeWhile Literal.isDigitOrBar, by rw [List.cons_append, htext], ?_⟩
        rw [Bool.and_eq_true, beq_iff_eq] at hdot
        simp [hdot.1, hrun]
      · cases h

theorem mem_dropSign {text : List Char} (h : ' ' ∈ text) : ' ' ∈ Literal.dropSign text := by
  cases text with
  | nil => cases h
  | cons c rest =>
    simp only [Literal.dropSign]
    split
    · next hc =>
      obtain rfl | h := List.mem_cons.1 h
      · exact absurd hc (by decide)
      · exact h
    · exact h

theorem isNumber_eq_false_of_space {text : List Char} (h : ' ' ∈ text) :
    Literal.isNumber text = false := by
  have hmem := mem_dropSign h
  unfold Literal.isNumber
  cases hafter : Literal.afterDigits? (Literal.dropSign text) with
  | none => rfl
  | some rest =>
    obtain ⟨front, hfront, hspace⟩ := afterDigits?_eq_some hafter
    rw [hfront, List.mem_append] at hmem
    have hmem := hmem.resolve_left hspace
    cases rest with
    | nil => cases hmem
    | cons c rest =>
      obtain rfl | hmem := List.mem_cons.1 hmem
      · rfl
      · have hdigits : (Literal.dropSign rest).all isDecimalDigit = false :=
          List.all_eq_false.2 ⟨' ', mem_dropSign hmem, by decide⟩
        simp [hdigits]

theorem isNumber_eq_false_of_head {text : List Char}
    (h : ∀ c ∈ (Literal.dropSign text).head?, isDecimalDigit c = false ∧ c ≠ '.') :
    Literal.isNumber text = false := by
  unfold Literal.isNumber
  cases hsign : Literal.dropSign text with
  | nil => rfl
  | cons c rest =>
    obtain ⟨hdigit, hdot⟩ := h c (by rw [hsign]; rfl)
    simp [Literal.afterDigits?, hdigit, hdot]

/-- A name or a bracket starts no number, with a sign before it or without. -/
theorem Lexeme.not_isNumber {p : Lexeme} (hp : p.isOperand = true) (hn : ∀ n, p ≠ .number n)
    (rest : List Char) :
    Literal.isNumber (p.chars ++ rest) = false ∧
      Literal.isNumber ('-' :: (p.chars ++ rest)) = false := by
  obtain ⟨c, more, hchars, hdigit, hne⟩ : ∃ c more, p.chars = c :: more ∧
      isDecimalDigit c = false ∧ c ≠ '.' ∧ c ≠ '+' ∧ c ≠ '-' := by
    cases p with
    | number n => exact absurd rfl (hn n)
    | name x =>
      obtain ⟨c, more, hx, hstart, hdigit⟩ := x.exists_head
      have hc := isWord_of_isNameStart hstart
      exact ⟨c, more, hx, hdigit, ne_of_isWord hc (by decide), ne_of_isWord hc (by decide),
        ne_of_isWord hc (by decide)⟩
    | bracket b inner hb =>
      refine ⟨b.opener, inner ++ [b.closer], rfl, ?_⟩
      cases b <;> decide
    | _ => cases hp
  rw [hchars, List.cons_append]
  constructor
  · refine isNumber_eq_false_of_head ?_
    simp [Literal.dropSign, hdigit, hne]
  · refine isNumber_eq_false_of_head ?_
    simp [Literal.dropSign, hdigit, hne]

/-! ## Literals and chains -/

theorem opening?_eq_none {text : List Char} (h : ∀ c ∈ text, isQuote c = false) :
    Literal.opening? text = none := by
  unfold Literal.opening?
  dsimp only
  split
  · next q rest hdrop =>
    have hmem : q ∈ text := List.mem_of_mem_drop (hdrop ▸ List.mem_cons_self)
    simp [h q hmem]
  · rfl

theorem literal?_of_opening {text : List Char}
    (hwords : String.ofList text ∉ ["None", "True", "False"])
    (hopening : Literal.opening? text = none) (e : Engine) (scope : Nat) :
    literal? e scope text =
      match Literal.numberValue? text with
      | some number => some <$> Run.ofExcept number
      | none =>
        if text.head? == some '[' && isEnclosed text then
          some <$> listValue e scope (trim text.tail.dropLast)
        else return none := by
  simp only [List.mem_cons, List.not_mem_nil, or_false, not_or] at hwords
  unfold literal?
  split
  · next h => exact absurd h hwords.1
  · next h => exact absurd h hwords.2.1
  · next h => exact absurd h hwords.2.2
  · rw [hopening]
    rfl

theorem literal?_eq {text : List Char}
    (hwords : String.ofList text ∉ ["None", "True", "False"]) (hquote : ∀ c ∈ text, isQuote c = false)
    (e : Engine) (scope : Nat) :
    literal? e scope text =
      match Literal.numberValue? text with
      | some number => some <$> Run.ofExcept number
      | none =>
        if text.head? == some '[' && isEnclosed text then
          some <$> listValue e scope (trim text.tail.dropLast)
        else return none :=
  literal?_of_opening hwords (opening?_eq_none hquote) e scope

/-- A text that is one string literal has the value of the literal. -/
theorem literal?_string {text : List Char}
    (hwords : String.ofList text ∉ ["None", "True", "False"])
    (hnumber : Literal.numberValue? text = none) {o : Literal.Opening}
    (hopening : Literal.opening? text = some o) (hstop : o.stop text = text.length) (e : Engine)
    (scope : Nat) : literal? e scope text = some <$> stringValue e scope o text := by
  simp only [List.mem_cons, List.not_mem_nil, or_false, not_or] at hwords
  have hwhole : (some o).filter (fun o => o.stop text == text.length) = some o := by
    simp [hstop]
  unfold literal?
  split
  · next h => exact absurd h hwords.1
  · next h => exact absurd h hwords.2.1
  · next h => exact absurd h hwords.2.2
  · rw [hnumber, hopening, hwhole]

/-- A text that is neither a number nor a list is no literal. -/
theorem literal?_eq_none {text : List Char}
    (hwords : String.ofList text ∉ ["None", "True", "False"]) (hquote : ∀ c ∈ text, isQuote c = false)
    (hnumber : Literal.isNumber text = false)
    (hlist : (text.head? == some '[' && isEnclosed text) = false) (e : Engine) (scope : Nat) :
    literal? e scope text = pure none := by
  have hvalue : Literal.numberValue? text = none := by simp [Literal.numberValue?, hnumber]
  rw [literal?_eq hwords hquote, hvalue, hlist]
  rfl

theorem splitName_word {c : Char} {w rest : List Char} (hw : ∀ d ∈ c :: w, isWord d = true)
    (hstart : isNameStart c = true) (hrest : ∀ d ∈ rest.head?, isWord d = false) :
    splitName (c :: (w ++ rest)) = (c :: w, rest) := by
  have htake : (c :: w ++ rest).takeWhile isWord = c :: w ∧
      (c :: w ++ rest).dropWhile isWord = rest := by
    rw [List.takeWhile_append_of_pos hw, List.dropWhile_append_of_pos hw]
    cases rest with
    | nil => simp
    | cons d rest => simp [hrest d rfl]
  rw [splitName, if_pos hstart, List.span_eq_takeWhile_dropWhile, ← List.cons_append, htake.1, htake.2]

theorem splitName_other {c : Char} (hc : isNameStart c = false) (rest : List Char) :
    splitName (c :: rest) = ([], c :: rest) := by
  rw [splitName, if_neg (by simp [hc])]

/-- The head of a chain at the start of a row. -/
def headOf : Lexeme → Option Head
  | .name x => some (.name x.text)
  | .keyword k => some (.name k.text.toList)
  | .bracket .round inner h => some (.group (Lexeme.bracket .round inner h).chars)
  | .bracket .square inner h => some (.literal (Lexeme.bracket .square inner h).chars)
  | _ => none

theorem splitHead?_writing {p : Lexeme} {ps : List Lexeme} (h : Legible (p :: ps)) :
    splitHead? (writing (p :: ps)) = (headOf p).map fun head => (head, writing ps) := by
  have hopening := opening?_eq_none fun c hc => (Balanced.writing (p :: ps)).not_isQuote hc
  have hword {w : List Char} {c : Char} {more : List Char} (hp : p.word? = some w)
      (hw : w = c :: more) (hstart : isNameStart c = true) :
      splitName (writing (p :: ps)) = (w, writing ps) := by
    obtain ⟨hchars, -, -, -, hall⟩ := Lexeme.word?_eq_some hp
    have hsplit := splitName_word (hw ▸ hall) hstart fun d => h.head?_writing hp
    rw [writing_cons, hchars, hw, List.cons_append, hsplit]
  unfold splitHead?
  rw [hopening]
  cases p with
  | name x =>
    obtain ⟨c, more, hx, hstart, -⟩ := x.exists_head
    simp only [hword rfl hx hstart, headOf, hx]
    rfl
  | keyword k =>
    obtain ⟨c, more, hk, hstart⟩ : ∃ c more, k.text.toList = c :: more ∧ isNameStart c = true := by
      cases k <;> exact ⟨_, _, rfl, by decide⟩
    simp only [hword rfl hk hstart, headOf, hk]
    rfl
  | number n =>
    obtain ⟨-, -, -, -, hstart, hne⟩ := digit_facts n.first_isDigit
    simp only [List.mem_cons, List.not_mem_nil, or_false, not_or] at hne
    rw [writing_cons, Lexeme.chars, DecimalNumber.text, List.cons_append, splitName_other hstart]
    simp [hne, headOf]
  | symbol s hs => cases s <;> rfl
  | space | comma => rfl
  | bracket b inner hb =>
    have hclose := matchingClose_writing b inner hb ps
    have hwriting : writing (.bracket b inner hb :: ps) =
        (b.opener :: (inner ++ [b.closer])) ++ writing ps := rfl
    have hlength : (b.opener :: (inner ++ [b.closer])).length = inner.length + 1 + 1 := by simp
    have htake : (writing (.bracket b inner hb :: ps)).take (inner.length + 1 + 1) =
        b.opener :: (inner ++ [b.closer]) := by
      rw [hwriting]
      exact List.take_left' hlength
    have hdrop : (writing (.bracket b inner hb :: ps)).drop (inner.length + 1 + 1) = writing ps := by
      rw [hwriting]
      exact List.drop_left' hlength
    have hname : splitName (writing (.bracket b inner hb :: ps)) =
        ([], writing (.bracket b inner hb :: ps)) := by
      cases b <;> exact splitName_other (by decide) _
    have hhead : (writing (.bracket b inner hb :: ps)).head? = some b.opener := rfl
    simp only [hname, hclose, hhead, Option.map_some, htake, hdrop]
    cases b <;> rfl

/-! ## Texts with operators -/

/-- A row that starts with a sign, or goes on with a space after its first lexeme. -/
def Compound (ps : List Lexeme) : Prop :=
  (∃ p rest, ps = p :: .space :: rest) ∨ ∃ rest, ps = sign :: rest

theorem Compound.of_space {ps : List Lexeme} (h : (∃ p, ps = [p]) ∨ Compound ps)
    (rest : List Lexeme) : Compound (ps ++ Lexeme.space :: rest) := by
  obtain ⟨p, rfl⟩ | ⟨p, front, rfl⟩ | ⟨front, rfl⟩ := h
  · exact .inl ⟨p, rest, rfl⟩
  · exact .inl ⟨p, front ++ Lexeme.space :: rest, rfl⟩
  · exact .inr ⟨front ++ Lexeme.space :: rest, rfl⟩

theorem Tree.single_or_compound : (t : Tree) → (∃ p, t.lexemes = [p]) ∨ Compound t.lexemes
  | .number _ | .name _ | .list _ | .group _ => .inl ⟨_, by simp only [lexemes]; rfl⟩
  | .minus t => .inr (.inr ⟨t.lexemes, by simp only [lexemes]⟩)
  | .negation t => .inr (.inl ⟨_, t.lexemes, by simp only [lexemes]; rfl⟩)
  | .arithmetic _ l _ | .comparison _ l _ | .junction _ l _ => by
    simp only [lexemes]
    exact .inr (Compound.of_space l.single_or_compound _)
  | .conditional _ yes _ => by
    simp only [lexemes]
    exact .inr (Compound.of_space yes.single_or_compound _)

theorem not_constant {text : List Char} (h : ∃ c ∈ text, isWord c = false) :
    String.ofList text ∉ ["None", "True", "False"] := by
  obtain ⟨c, hc, hword⟩ := h
  have hwords : ["None", "True", "False"].all (fun w => w.toList.all isWord) = true := by decide
  intro hmem
  have hall := List.all_eq_true.1 (List.all_eq_true.1 hwords _ hmem) c
  rw [hall (by rwa [String.toList_ofList])] at hword
  cases hword

theorem not_constant_of_digit {text : List Char} (h : ∃ c ∈ text, isDecimalDigit c = true) :
    String.ofList text ∉ ["None", "True", "False"] := by
  obtain ⟨c, hc, hdigit⟩ := h
  have hletters : ["None", "True", "False"].all (fun w => w.toList.all fun c => !isDecimalDigit c) =
      true := by decide
  intro hmem
  have hall := List.all_eq_true.1 (List.all_eq_true.1 hletters _ hmem) c
  rw [hdigit] at hall
  cases hall (by rwa [String.toList_ofList])

theorem isName_eq_false {text : List Char} (h : ∃ c ∈ text, isWord c = false) :
    isName text = false := by
  obtain ⟨c, hc, hword⟩ := h
  rw [← Bool.not_eq_true]
  intro hname
  cases text with
  | nil => cases hc
  | cons d rest =>
    rw [isName, Bool.and_eq_true, List.all_eq_true] at hname
    have htrue : isWord c = true := by
      obtain rfl | hc := List.mem_cons.1 hc
      · exact isWord_of_isNameStart hname.1
      · exact hname.2 c hc
    rw [htrue] at hword
    cases hword

section Breaks

/-! A lexeme before a space or a comma is neither a chain nor a list in brackets with what follows. -/

variable {p q : Lexeme} {rest : List Lexeme} (hq : q = .space ∨ q = .comma)
include hq

theorem chain?_break (h : Legible (p :: q :: rest)) : chain? (writing (p :: q :: rest)) = none := by
  have htrailers : trailersFrom? 0 (writing (q :: rest)) = none := by
    obtain rfl | rfl := hq <;> rfl
  rw [chain?, splitHead?_writing h]
  cases headOf p with
  | none => rfl
  | some head =>
    simp only [Option.map_some, Option.bind_eq_bind, Option.bind_some, htrailers, Option.bind_none]

theorem not_list_break : ((writing (p :: q :: rest)).head? == some '[' &&
    isEnclosed (writing (p :: q :: rest))) = false := by
  rw [head?_writing rfl]
  cases hword : p.word? with
  | some w =>
    obtain ⟨hchars, c, more, rfl, hall⟩ := Lexeme.word?_eq_some hword
    have hc : c ≠ '[' := ne_of_isWord (hall c List.mem_cons_self) (by decide)
    simp [hchars, hc]
  | none =>
    cases p with
    | number n | name x | keyword k => cases hword
    | symbol s hs => cases s <;> rfl
    | space | comma => rfl
    | bracket b inner hb =>
      have hclose := matchingClose_writing b inner hb (q :: rest)
      have hlength : (writing (.bracket b inner hb :: q :: rest)).length =
          inner.length + 3 + (writing rest).length := by
        obtain rfl | rfl := hq
        all_goals
          simp [Lexeme.chars]
          omega
      have hne : (some (inner.length + 1) ==
          some (inner.length + 3 + (writing rest).length - 1)) = false := by
        rw [beq_eq_false_iff_ne]
        intro heq
        have hsame := Option.some.inj heq
        omega
      rw [isEnclosed, hclose, hlength, hne, Bool.and_false]

end Breaks

namespace Compound

variable {ps : List Lexeme} (hps : Compound ps)
include hps

theorem exists_not_isWord : ∃ c ∈ writing ps, isWord c = false := by
  obtain ⟨p, rest, rfl⟩ | ⟨rest, rfl⟩ := hps
  · exact ⟨' ', by simp [Lexeme.chars], by decide⟩
  · exact ⟨'-', List.mem_cons_self, by decide⟩

theorem chain?_eq_none (h : Legible ps) : chain? (writing ps) = none := by
  obtain ⟨p, rest, rfl⟩ | ⟨rest, rfl⟩ := hps
  · exact chain?_break (.inl rfl) h
  · rw [chain?, splitHead?_writing h]
    rfl

theorem not_list : ((writing ps).head? == some '[' && isEnclosed (writing ps)) = false := by
  obtain ⟨p, rest, rfl⟩ | ⟨rest, rfl⟩ := hps
  · exact not_list_break (.inl rfl)
  · rfl

end Compound

end SnippetGrader.Rendering
