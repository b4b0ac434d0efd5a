import SnippetGrader.Proofs.Operation.Form

/-!
# Unsigned numbers as they are written

The parts of an unsigned number (`Numeral`, `exists_numeral`) and the symbols that are found in it
(`Numeral.tokensFrom_text`): its point and the sign of its exponent. Whether this sign is taken for an
operator is decided by a search for the start of a number before it. The search wants digits in front
of the point and admits no underscore after it, which a number may do without and may have
(`Numeral.joinsOperands_mark`).
-/

namespace SnippetGrader.Operation

open Text Source Expression Rendering

/-! ## Characters of numbers -/

section Characters

set_option maxRecDepth 4000 in
theorem numeralTable_covers :
    (zeroTable.all fun z => (z + 9).blt 128 ||
      numeralTable.toList.any fun r => r.1.ble z && (z + 9).ble r.2) = true := by
  decide +kernel

theorem isWord_of_isDecimalDigit {c : Char} (h : isDecimalDigit c = true) : isWord c = true := by
  by_cases hascii : c.toNat < 128
  · refine isWord_of_isDigit ?_
    by_contra hdigit
    simp [isDecimalDigit, digitValue?, hascii, hdigit] at h
  · rw [isDecimalDigit, digitValue?, if_neg hascii, Option.isSome_map, List.find?_isSome] at h
    obtain ⟨z, hz, hrange⟩ := h
    simp only [Bool.and_eq_true, decide_eq_true_eq] at hrange
    have hcovered := List.all_eq_true.1 numeralTable_covers z hz
    obtain ⟨r, hr, hinside⟩ : ∃ r ∈ numeralTable.toList, r.1 ≤ z ∧ z + 9 ≤ r.2 := by
      simp only [Bool.or_eq_true, Nat.blt_eq, List.any_eq_true, Bool.and_eq_true, Nat.ble_eq]
        at hcovered
      refine hcovered.resolve_left ?_
      omega
    have hnumeral : inIntervals numeralTable c = true := by
      rw [inIntervals, ← Array.any_toList, List.any_eq_true]
      refine ⟨r, hr, ?_⟩
      simp only [Bool.and_eq_true, decide_eq_true_eq]
      omega
    simp [isWord, isAlphanumeric, isNumeral, hascii, hnumeral]

/-- A character that an unsigned number is written with. -/
def isNumeralChar (c : Char) : Bool := isStartChar c || c == '+' || c == '-'

theorem isWord_or_of_isNumeralChar {c : Char} (h : isNumeralChar c = true) :
    isWord c = true ∨ c ∈ ['.', '+', '-'] := by
  simp only [isNumeralChar, isStartChar, Bool.or_eq_true, beq_iff_eq] at h
  obtain (((((h | rfl) | rfl) | rfl) | rfl) | rfl) | rfl := h
  · exact .inl (isWord_of_isDecimalDigit h)
  all_goals decide

theorem isNumeralChar_of_isDigitOrBar {c : Char} (h : Literal.isDigitOrBar c = true) :
    isNumeralChar c = true := by
  rw [Literal.isDigitOrBar, Bool.or_comm] at h
  simp only [isNumeralChar, isStartChar, h, Bool.true_or]

theorem isPlain_of_isNumeralChar {c : Char} (h : isNumeralChar c = true) : isPlain c = true := by
  obtain h | h := isWord_or_of_isNumeralChar h
  · exact isPlain_of_isWord h
  · have hall : ['.', '+', '-'].all isPlain = true := by decide
    exact List.all_eq_true.1 hall c h

theorem isBlank_eq_false_of_isNumeralChar {c : Char} (h : isNumeralChar c = true) :
    isBlank c = false := by
  obtain h | h := isWord_or_of_isNumeralChar h
  · exact isBlank_eq_false_of_isWord h
  · have hall : ['.', '+', '-'].all (fun c => !isBlank c) = true := by decide
    simpa using List.all_eq_true.1 hall c h

theorem isWord_of_isDigitOrBar {c : Char} (h : Literal.isDigitOrBar c = true) : isWord c = true := by
  rw [Literal.isDigitOrBar, Bool.or_eq_true, beq_iff_eq] at h
  obtain rfl | h := h
  · rfl
  · exact isWord_of_isDecimalDigit h

end Characters

/-! ## The parts of a number -/

/-- The sign of an exponent. -/
inductive Sign where
  | plus | minus
deriving DecidableEq

namespace Sign

/-- How a sign is written. -/
def symbol : Sign → Symbol
  | plus => .add
  | minus => .sub

/-- The operator that is written like a sign. -/
def operator : Sign → Operator
  | plus => .add
  | minus => .sub

end Sign

/-- The exponent of a number. -/
structure Exponent where
  mark : Char
  sign : Option Sign
  digits : List Char
  isMark : mark = 'e' ∨ mark = 'E'
  digits_ne_nil : digits ≠ []
  isDecimalDigit_digits : ∀ c ∈ digits, isDecimalDigit c = true

namespace Exponent

def signText (x : Exponent) : List Char := (x.sign.map fun s => s.symbol.chars).getD []

/-- How an exponent is written. -/
def text (x : Exponent) : List Char := x.mark :: (x.signText ++ x.digits)

end Exponent

/-- How the digits after a point are written, with the point. -/
def pointed : Option (List Char) → List Char
  | none => []
  | some fraction => '.' :: fraction

/-- An unsigned number: digits before the point and after it, of which one kind may be missing, and an
exponent. -/
structure Numeral where
  whole : List Char
  fraction : Option (List Char)
  exponent : Option Exponent
  isDigitOrBar_whole : ∀ c ∈ whole, Literal.isDigitOrBar c = true
  isDigitOrBar_fraction : ∀ c ∈ fraction.getD [], Literal.isDigitOrBar c = true
  starts : (whole ++ fraction.getD []).head?.any isDecimalDigit = true

namespace Numeral

/-- What stands before the exponent. -/
def mantissa (n : Numeral) : List Char := n.whole ++ pointed n.fraction

/-- How a number is written. -/
def text (n : Numeral) : List Char := n.mantissa ++ (n.exponent.map Exponent.text).getD []

/-- Whether a search for the start of a number with exponent finds the number. -/
def found (n : Numeral) : Bool := !n.whole.isEmpty && !(n.fraction.getD []).contains '_'

end Numeral

/-! ## Reading a number -/

theorem exists_exponent {rest : List Char}
    (h : rest = [] ∨ ∃ c more, rest = c :: more ∧ (c = 'e' ∨ c = 'E') ∧
      Literal.dropSign more ≠ [] ∧ ∀ d ∈ Literal.dropSign more, isDecimalDigit d = true) :
    ∃ x : Option Exponent, (x.map Exponent.text).getD [] = rest := by
  obtain rfl | ⟨c, more, rfl, hmark, hne, hdigits⟩ := h
  · exact ⟨none, rfl⟩
  · cases more with
    | nil => exact absurd rfl hne
    | cons d more =>
      by_cases hplus : d = '+'
      · subst hplus
        exact ⟨some ⟨c, some .plus, more, hmark, hne, hdigits⟩, rfl⟩
      by_cases hminus : d = '-'
      · subst hminus
        exact ⟨some ⟨c, some .minus, more, hmark, hne, hdigits⟩, rfl⟩
      have hdrop : Literal.dropSign (d :: more) = d :: more := by
        simp [Literal.dropSign, hplus, hminus]
      rw [hdrop] at hne hdigits
      exact ⟨some ⟨c, none, d :: more, hmark, hne, hdigits⟩, rfl⟩

/-- What is read before an exponent. -/
theorem exists_mantissa {text rest : List Char} (h : Literal.afterDigits? text = some rest) :
    ∃ whole fraction, text = whole ++ pointed fraction ++ rest ∧
      (∀ c ∈ whole, Literal.isDigitOrBar c = true) ∧
      (∀ c ∈ fraction.getD [], Literal.isDigitOrBar c = true) ∧
      (whole ++ fraction.getD []).head?.any isDecimalDigit = true := by
  have hrun (l : List Char) : ∀ c ∈ l.takeWhile Literal.isDigitOrBar, Literal.isDigitOrBar c = true :=
    fun c hc => List.mem_takeWhile_imp hc
  have hdigit {c : Char} (hc : isDecimalDigit c = true) : Literal.isDigitOrBar c = true := by
    rw [Literal.isDigitOrBar, hc, Bool.or_true]
  cases text with
  | nil => cases h
  | cons c text =>
    have htext := List.takeWhile_append_dropWhile (p := Literal.isDigitOrBar) (l := text)
    simp only [Literal.afterDigits?] at h
    split at h
    · next hc =>
      have hwhole : ∀ d ∈ c :: text.takeWhile Literal.isDigitOrBar, Literal.isDigitOrBar d = true :=
        List.forall_mem_cons.2 ⟨hdigit hc, hrun text⟩
      split at h
      · next more hdrop =>
        have hmore := List.takeWhile_append_dropWhile (p := Literal.isDigitOrBar) (l := more)
        cases h
        refine ⟨_, some (more.takeWhile Literal.isDigitOrBar), ?_, hwhole, hrun more, by simp [hc]⟩
        rw [pointed, List.append_assoc, List.cons_append, List.cons_append, hmore, ← hdrop, htext]
      · cases h
        refine ⟨_, none, ?_, hwhole, by simp, by simp [hc]⟩
        rw [pointed, List.append_nil, List.cons_append, htext]
    · split at h
      · next hpoint =>
        rw [Bool.and_eq_true, beq_iff_eq] at hpoint
        obtain ⟨rfl, hhead⟩ := hpoint
        obtain ⟨d, hd, hdec⟩ := (Option.any_eq_true _ _).1 hhead
        obtain ⟨more, rfl⟩ := List.head?_eq_some_iff.1 hd
        cases h
        refine ⟨[], some ((d :: more).takeWhile Literal.isDigitOrBar), ?_, by simp,
          hrun (d :: more), ?_⟩
        · rw [pointed, List.nil_append, List.cons_append, htext]
        · simp [hdigit hdec, hdec]
      · cases h

/-- Every text that is read as a number without a sign is written from such parts. -/
theorem exists_numeral {text : List Char} (h : Literal.isNumber text = true)
    (hsign : Literal.dropSign text = text) : ∃ n : Numeral, n.text = text := by
  rw [Literal.isNumber, hsign] at h
  cases hafter : Literal.afterDigits? text with
  | none =>
    rw [hafter] at h
    cases h
  | some rest =>
    obtain ⟨whole, fraction, htext, hwhole, hfraction, hstarts⟩ := exists_mantissa hafter
    have hrest : rest = [] ∨ ∃ c more, rest = c :: more ∧ (c = 'e' ∨ c = 'E') ∧
        Literal.dropSign more ≠ [] ∧ ∀ d ∈ Literal.dropSign more, isDecimalDigit d = true := by
      rw [hafter] at h
      cases rest with
      | nil => exact .inl rfl
      | cons c more =>
        simp only [Bool.and_eq_true, Bool.or_eq_true, beq_iff_eq, Bool.not_eq_true',
          List.isEmpty_eq_false_iff, List.all_eq_true] at h
        exact .inr ⟨c, more, rfl, h.1.1, h.1.2, h.2⟩
    obtain ⟨exponent, hexponent⟩ := exists_exponent hrest
    refine ⟨⟨whole, fraction, exponent, hwhole, hfraction, hstarts⟩, ?_⟩
    rw [htext, ← hexponent]
    rfl

theorem Exponent.isNumeralChar_text (x : Exponent) {c : Char} (hc : c ∈ x.text) :
    isNumeralChar c = true := by
  rw [text, List.mem_cons, List.mem_append] at hc
  obtain rfl | hc | hc := hc
  · obtain hmark | hmark := x.isMark <;> rw [hmark] <;> rfl
  · rw [signText] at hc
    cases hs : x.sign with
    | none =>
      rw [hs] at hc
      cases hc
    | some s =>
      rw [hs] at hc
      cases s <;> cases List.mem_singleton.1 hc <;> rfl
  · have hdigit := x.isDecimalDigit_digits c hc
    simp [isNumeralChar, isStartChar, hdigit]

namespace Numeral

variable (n : Numeral)

theorem mem_mantissa {c : Char} (hc : c ∈ n.mantissa) : Literal.isDigitOrBar c = true ∨ c = '.' := by
  rw [mantissa, List.mem_append] at hc
  obtain hc | hc := hc
  · exact .inl (n.isDigitOrBar_whole c hc)
  · have hfraction := n.isDigitOrBar_fraction
    cases hf : n.fraction with
    | none =>
      rw [hf] at hc
      cases hc
    | some f =>
      rw [hf] at hc hfraction
      obtain rfl | hc := List.mem_cons.1 hc
      · exact .inr rfl
      · exact .inl (hfraction c hc)

theorem isNumeralChar_text {c : Char} (hc : c ∈ n.text) : isNumeralChar c = true := by
  rw [text, List.mem_append] at hc
  obtain hc | hc := hc
  · obtain hdigit | rfl := n.mem_mantissa hc
    · exact isNumeralChar_of_isDigitOrBar hdigit
    · rfl
  · cases hx : n.exponent with
    | none =>
      rw [hx] at hc
      cases hc
    | some x =>
      rw [hx, Option.map_some, Option.getD_some] at hc
      exact x.isNumeralChar_text hc

theorem exists_digit : ∃ c ∈ n.text, isDecimalDigit c = true := by
  obtain ⟨c, hc, hdigit⟩ := (Option.any_eq_true _ _).1 n.starts
  refine ⟨c, ?_, hdigit⟩
  have hmem := List.mem_of_mem_head? hc
  rw [List.mem_append] at hmem
  rw [text, mantissa, List.mem_append, List.mem_append]
  refine .inl (hmem.imp_right fun hmem => ?_)
  cases hf : n.fraction with
  | none =>
    rw [hf] at hmem
    cases hmem
  | some f =>
    rw [hf] at hmem
    exact List.mem_cons_of_mem _ hmem

end Numeral

/-! ## Its symbols -/

theorem tokensFrom_point (i : Nat) (rest : List Char) :
    tokensFrom {} i 0 ('.' :: rest) = ⟨i, .dot⟩ :: tokensFrom {} (i + 1) 0 rest := by
  have hat : Symbol.at? ('.' :: rest) = some .dot := rfl
  have hstep : Reader.step {} '.' rest = ({}, .code 0) := step_plain (by decide) 0 rest
  simp only [tokensFrom, hstep, hat, beq_self_eq_true, if_true, Nat.lt_irrefl, gt_iff_lt, if_false]
  rfl

theorem tokensFrom_word {a : List Char} (h : ∀ c ∈ a, isWord c = true) (i : Nat)
    (rest : List Char) : tokensFrom {} i 0 (a ++ rest) = tokensFrom {} (i + a.length) 0 rest :=
  tokensFrom_plain
    (fun c hc => ⟨isPlain_of_isWord (h c hc), isSymbolChar_eq_false_of_isWord (h c hc)⟩) i rest

theorem Exponent.tokensFrom_text (x : Exponent) (i : Nat) (rest : List Char) :
    tokensFrom {} i 0 (x.text ++ rest) =
      (x.sign.map fun s => (⟨i + 1, s.symbol⟩ : Token)).toList ++
        tokensFrom {} (i + x.text.length) 0 rest := by
  have hmark : ∀ c ∈ [x.mark], isWord c = true := by
    rw [List.forall_mem_singleton]
    obtain hmark | hmark := x.isMark <;> rw [hmark] <;> rfl
  have hdigits : ∀ c ∈ x.digits, isWord c = true := fun c hc =>
    isWord_of_isDecimalDigit (x.isDecimalDigit_digits c hc)
  have htext : x.text ++ rest = [x.mark] ++ (x.signText ++ (x.digits ++ rest)) := by
    simp [Exponent.text]
  have hlength : x.text.length = 1 + (x.signText.length + x.digits.length) := by
    rw [Exponent.text, List.length_cons, List.length_append, Nat.add_comm]
  rw [htext, tokensFrom_word hmark, hlength, Exponent.signText, List.length_singleton]
  cases x.sign with
  | none =>
    rw [Option.map_none, Option.getD_none, List.nil_append, tokensFrom_word hdigits]
    simp [Nat.add_assoc]
  | some s =>
    -- a digit follows the sign, so no longer symbol is read
    have hrest : ∀ c ∈ (x.digits ++ rest).head?, c ≠ '=' ∧ c ≠ '*' ∧ c ≠ '/' ∧ c ≠ '>' := by
      obtain ⟨d, more, hx⟩ := List.exists_cons_of_ne_nil x.digits_ne_nil
      intro c hc
      rw [hx] at hc
      cases hc
      have hd := hdigits d (hx ▸ List.mem_cons_self)
      exact ⟨ne_of_isWord hd (by decide), ne_of_isWord hd (by decide), ne_of_isWord hd (by decide),
        ne_of_isWord hd (by decide)⟩
    have hs : isOperator s.symbol = true := by cases s <;> rfl
    rw [Option.map_some, Option.getD_some, tokensFrom_operator hs _ hrest, tokensFrom_word hdigits]
    simp [Nat.add_assoc]

namespace Numeral

variable (n : Numeral)

/-- The symbols in a number that starts at position `i`. -/
def tokensAt (i : Nat) : List Token :=
  (n.fraction.map fun _ => ⟨i + n.whole.length, Symbol.dot⟩).toList ++
    (n.exponent.bind fun x => x.sign.map fun s => ⟨i + n.mantissa.length + 1, s.symbol⟩).toList

theorem tokensFrom_mantissa (i : Nat) (rest : List Char) :
    tokensFrom {} i 0 (n.mantissa ++ rest) =
      (n.fraction.map fun _ => (⟨i + n.whole.length, .dot⟩ : Token)).toList ++
        tokensFrom {} (i + n.mantissa.length) 0 rest := by
  have hwhole : ∀ c ∈ n.whole, isWord c = true := fun c hc =>
    isWord_of_isDigitOrBar (n.isDigitOrBar_whole c hc)
  have hfraction := n.isDigitOrBar_fraction
  rw [mantissa, List.append_assoc, tokensFrom_word hwhole, List.length_append]
  cases hf : n.fraction with
  | none => rfl
  | some f =>
    rw [hf] at hfraction
    have hdigits : ∀ c ∈ f, isWord c = true := fun c hc => isWord_of_isDigitOrBar (hfraction c hc)
    rw [pointed, List.cons_append, tokensFrom_point, tokensFrom_word hdigits, List.length_cons]
    have hlength : i + n.whole.length + 1 + f.length = i + (n.whole.length + (f.length + 1)) := by
      omega
    rw [hlength]
    rfl

/-- In a number there are only the point and the sign of the exponent. -/
theorem tokensFrom_text (i : Nat) (rest : List Char) :
    tokensFrom {} i 0 (n.text ++ rest) =
      n.tokensAt i ++ tokensFrom {} (i + n.text.length) 0 rest := by
  rw [text, List.append_assoc, tokensFrom_mantissa, tokensAt, List.append_assoc, List.length_append]
  congr 1
  cases n.exponent with
  | none => rfl
  | some x =>
    rw [Option.map_some, Option.getD_some, x.tokensFrom_text, Nat.add_assoc, Nat.add_assoc]
    rfl

end Numeral

/-! ## The search before a sign -/

/-- The search wants a digit, digits and underscores, a point with digits only or nothing, and the mark
of an exponent. -/
theorem exponentStart_any_isEmpty {text : List Char} :
    (exponentStart.rests text).any List.isEmpty = true ↔
      ∃ c run fraction mark, isDecimalDigit c = true ∧
        (∀ d ∈ run, Literal.isDigitOrBar d = true) ∧
        (∀ d ∈ Option.getD fraction [], isDecimalDigit d = true) ∧
        (mark = 'e' ∨ mark = 'E') ∧ text = c :: (run ++ pointed fraction ++ [mark]) := by
  have hany : (exponentStart.rests text).any List.isEmpty = true ↔ [] ∈ exponentStart.rests text := by
    simp
  rw [hany]
  simp only [exponentStart, Pattern.all, Pattern.maybe, Pattern.word, mem_rests_andThen,
    mem_rests_either, mem_rests_one, mem_rests_many, mem_rests_exactly]
  constructor
  · rintro ⟨_, ⟨c, hc, rfl⟩, _, ⟨run, hrun, rfl⟩, _, hpoint, _, ⟨mark, hmark, rfl⟩, rfl⟩
    rw [Bool.or_eq_true, beq_iff_eq, beq_iff_eq] at hmark
    obtain ⟨_, rfl, _, ⟨fraction, hfraction, rfl⟩, rfl⟩ | rfl := hpoint
    · exact ⟨c, run, some fraction, mark, hc, hrun, hfraction, hmark, by simp [pointed]⟩
    · exact ⟨c, run, none, mark, hc, hrun, by simp, hmark, by simp [pointed]⟩
  · rintro ⟨c, run, fraction, mark, hc, hrun, hfraction, hmark, rfl⟩
    have hlast : (mark == 'e' || mark == 'E') = true := by
      rwa [Bool.or_eq_true, beq_iff_eq, beq_iff_eq]
    refine ⟨_, ⟨c, hc, rfl⟩, _, ⟨run, hrun, List.append_assoc _ _ _⟩, [mark], ?_, _,
      ⟨mark, hlast, rfl⟩, rfl⟩
    cases fraction with
    | none => exact .inr rfl
    | some f => exact .inl ⟨_, rfl, _, ⟨f, hfraction, rfl⟩, rfl⟩

theorem dropWhile_pointed {run : List Char} (hrun : '.' ∉ run) (fraction : Option (List Char)) :
    (run ++ pointed fraction).dropWhile (· != '.') = pointed fraction := by
  have hpass : ∀ c ∈ run, (c != '.') = true := fun c hc => by
    rw [bne_iff_ne]
    rintro rfl
    exact hrun hc
  rw [List.dropWhile_append_of_pos hpass]
  cases fraction <;> rfl

theorem pointed_injective {fraction fraction' : Option (List Char)}
    (h : pointed fraction = pointed fraction') : fraction = fraction' := by
  cases fraction <;> cases fraction' <;> simp_all [pointed]

namespace Numeral

variable (n : Numeral)

theorem not_point_mem_whole : '.' ∉ n.whole := fun h =>
  absurd (n.isDigitOrBar_whole _ h) (by decide)

theorem isDecimalDigit_head {c : Char} (hc : c ∈ n.whole.head?) : isDecimalDigit c = true := by
  obtain ⟨run, hrun⟩ := List.head?_eq_some_iff.1 hc
  have hstarts := n.starts
  rw [hrun] at hstarts
  simpa using hstarts

/-- The search finds a number that starts with a digit and has no underscore after its point. -/
theorem exponentStart_mantissa {mark : Char} (hmark : mark = 'e' ∨ mark = 'E') :
    (exponentStart.rests (n.mantissa ++ [mark])).any List.isEmpty = n.found := by
  rw [Bool.eq_iff_iff, exponentStart_any_isEmpty]
  simp only [found, Bool.and_eq_true, Bool.not_eq_true', List.isEmpty_eq_false_iff,
    List.contains_eq_mem, decide_eq_false_iff_not]
  constructor
  · rintro ⟨c, run, fraction, mark', hc, hrun, hfraction, -, htext⟩
    rw [← List.cons_append] at htext
    obtain ⟨hmantissa, -⟩ := List.append_inj' htext rfl
    have hpoint : '.' ∉ c :: run := by
      rw [List.mem_cons, not_or]
      refine ⟨?_, fun h => absurd (hrun _ h) (by decide)⟩
      rintro rfl
      exact absurd hc (by decide)
    have hsame : pointed n.fraction = pointed fraction := by
      have hdrop := congrArg (List.dropWhile (· != '.')) hmantissa
      rwa [mantissa, dropWhile_pointed n.not_point_mem_whole, ← List.cons_append,
        dropWhile_pointed hpoint] at hdrop
    rw [pointed_injective hsame]
    refine ⟨?_, fun h => absurd (hfraction _ h) (by decide)⟩
    intro hnil
    rw [mantissa, hnil, hsame, List.nil_append] at hmantissa
    cases fraction with
    | none => cases hmantissa
    | some f =>
      rw [← List.head_eq_of_cons_eq hmantissa] at hc
      exact absurd hc (by decide)
  · rintro ⟨hne, hbar⟩
    obtain ⟨c, run, hwhole⟩ := List.exists_cons_of_ne_nil hne
    have hdigits := n.isDigitOrBar_whole
    rw [hwhole, List.forall_mem_cons] at hdigits
    have hfraction : ∀ d ∈ n.fraction.getD [], isDecimalDigit d = true := by
      intro d hd
      have hdigit := n.isDigitOrBar_fraction d hd
      rw [Literal.isDigitOrBar, Bool.or_eq_true, beq_iff_eq] at hdigit
      refine hdigit.resolve_left ?_
      rintro rfl
      exact hbar hd
    refine ⟨c, run, n.fraction, mark, n.isDecimalDigit_head (by rw [hwhole]; rfl), hdigits.2,
      hfraction, hmark, ?_⟩
    rw [mantissa, hwhole]
    rfl

theorem isStartChar_mantissa {c : Char} (hc : c ∈ n.mantissa) :
    (isWord c || c == '.') = true ∧ isStartChar c = true := by
  obtain hdigit | rfl := n.mem_mantissa hc
  · have hword := isWord_of_isDigitOrBar hdigit
    rw [Literal.isDigitOrBar, Bool.or_comm] at hdigit
    exact ⟨by simp [hword], by simp only [isStartChar, hdigit, Bool.true_or]⟩
  · exact ⟨rfl, rfl⟩

section Mark

variable {front : List Char} (hfront : ∀ c ∈ front.getLast?, isStartChar c = false ∧ isWord c = false)
  {mark : Char} (hmark : mark = 'e' ∨ mark = 'E')
include hfront hmark

theorem endsInExponent_mark :
    endsInExponent (front ++ (n.mantissa ++ [mark])) = n.found := by
  have hlast : (front ++ (n.mantissa ++ [mark])).getLast? = some mark := by simp
  have hends : (some mark == some 'e' || some mark == some 'E') = true := by
    obtain rfl | rfl := hmark <;> rfl
  have hbefore : ((front.getLast?.or none).any fun b => isWord b || b == '.') = false := by
    cases hb : front.getLast? with
    | none => rfl
    | some b =>
      obtain ⟨hstart, hword⟩ := hfront b hb
      have hpoint : (b == '.') = false := by
        rw [beq_eq_false_iff_ne]
        rintro rfl
        cases hstart
      simp [hword, hpoint]
  have hinside : ∀ c ∈ n.mantissa ++ [mark], (isWord c || c == '.') = true := by
    intro c hc
    rw [List.mem_append, List.mem_singleton] at hc
    obtain hc | rfl := hc
    · exact (n.isStartChar_mantissa hc).1
    · obtain rfl | rfl := hmark <;> rfl
  have hstart := n.exponentStart_mantissa hmark
  rw [endsInExponent, hlast, hends, Bool.true_and,
    endsInExponentAfter_append fun c hc => (hfront c hc).1]
  obtain ⟨c, rest, htext⟩ : ∃ c rest, n.mantissa ++ [mark] = c :: rest :=
    List.exists_cons_of_ne_nil (by simp)
  rw [htext] at hstart hinside ⊢
  rw [List.forall_mem_cons] at hinside
  rw [endsInExponentAfter, hbefore, hstart, endsInExponentAfter_inside hinside.2 hinside.1,
    Bool.not_false, Bool.and_true, Bool.or_false]
  -- a number that is found starts with a digit
  cases hfound : n.found with
  | false => rw [Bool.and_false]
  | true =>
    rw [hfound] at hstart
    obtain ⟨d, _, _, _, hd, -, -, -, hcons⟩ := exponentStart_any_isEmpty.1 hstart
    cases hcons
    rw [hd, Bool.and_true]

/-- A sign after the mark of an exponent is taken for an operator unless the search finds the number. -/
theorem joinsOperands_mark : joinsOperands (front ++ (n.mantissa ++ [mark])) = !n.found := by
  have hends : (isAlphanumeric mark || endsOperand mark) = true ∧ isBlank mark = false ∧
      isStartChar mark = true := by
    obtain rfl | rfl := hmark <;> decide
  have hlast : (front ++ (n.mantissa ++ [mark])).getLast? = some mark := by simp
  have htrim : trimEnd (front ++ (n.mantissa ++ [mark])) = front ++ (n.mantissa ++ [mark]) := by
    simp [trimEnd, dropEndWhile, hends.2.1]
  have hword : signWords.contains (lastWord (front ++ (n.mantissa ++ [mark]))) = false := by
    rw [lastWord_append fun c hc => (hfront c hc).2, List.contains_eq_mem, decide_eq_false_iff_not]
    refine not_mem_signWords fun c hc => ?_
    have hmem := (mem_lastWord hc).1
    rw [List.mem_append, List.mem_singleton] at hmem
    obtain hmem | rfl := hmem
    · exact (n.isStartChar_mantissa hmem).2
    · exact hends.2.2
  have hexponent := n.endsInExponent_mark hfront hmark
  simp only [joinsOperands, htrim, hlast, hends.1, hword, hexponent]
  rfl

end Mark

end Numeral

end SnippetGrader.Operation
