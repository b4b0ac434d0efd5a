import Mathlib.Algebra.Ring.Nat
import SnippetGrader.Proofs.Layout.Reading
import SnippetGrader.Proofs.Rendering.Operand

/-!
# Reading quoted text back

A text that `quote` puts between marks is a string literal, which ends where the marks say and stands
for the text. What stands between the marks is a `LiteralBody`: the mark occurs in it only after a
backslash, so neither the reader of source text nor the search for the closing mark leaves it early.
-/

namespace SnippetGrader.Written

open Text Source Literal

/-! ## Hexadecimal digits -/

theorem digitOf?_digitChar {n : Nat} (h : n < 16) : Number.digitOf? (Nat.digitChar n) = some n := by
  revert n
  decide

theorem isPrintable_digitChar {n : Nat} (h : n < 16) : isPrintable (Nat.digitChar n) = true := by
  revert n
  decide

theorem length_hexDigits (count n : Nat) : (hexDigits count n).length = count := by
  induction count generalizing n with
  | zero => rfl
  | succ count ih => rw [hexDigits, List.length_append, ih, List.length_singleton]

theorem mem_hexDigits {count n : Nat} {c : Char} (h : c ∈ hexDigits count n) :
    ∃ d < 16, c = Nat.digitChar d := by
  induction count generalizing n with
  | zero => cases h
  | succ count ih =>
    rw [hexDigits, List.mem_append, List.mem_singleton] at h
    obtain h | rfl := h
    · exact ih h
    · exact ⟨n % 16, Nat.mod_lt n (by decide), rfl⟩

theorem valueOf_append (base acc : Nat) (a b : List Char) :
    Number.valueOf base acc (a ++ b) = Number.valueOf base (Number.valueOf base acc a) b := by
  induction a generalizing acc with
  | nil => rfl
  | cons c a ih => exact ih _

theorem valueOf_hexDigits {count n : Nat} (h : n < 16 ^ count) :
    Number.valueOf 16 0 (hexDigits count n) = n := by
  induction count generalizing n with
  | zero =>
    rw [Nat.pow_zero] at h
    rw [hexDigits, Number.valueOf]
    omega
  | succ count ih =>
    have hfront : n / 16 < 16 ^ count := by
      rw [Nat.pow_succ] at h
      omega
    have hlast := digitOf?_digitChar (Nat.mod_lt n (show 0 < 16 by decide))
    rw [hexDigits, valueOf_append, ih hfront, Number.valueOf, Number.valueOf, hlast, Option.getD_some]
    omega

theorem toNat_lt (c : Char) : c.toNat < 0x110000 := by
  obtain hsmall | hlarge := c.valid
  · exact Nat.lt_trans hsmall (by decide)
  · exact hlarge.2

/-- The digits of a character are read as the character. -/
theorem hexEscape?_hexDigits {count : Nat} {c : Char} (h : c.toNat < 16 ^ count)
    (rest : List Char) :
    hexEscape? count (hexDigits count c.toNat ++ rest) = some ([c], count + 1) := by
  have htake : (hexDigits count c.toNat ++ rest).take count = hexDigits count c.toNat :=
    List.take_left' (length_hexDigits count c.toNat)
  have hrun : (hexDigits count c.toNat).takeWhile (Number.isDigitIn 16) =
      hexDigits count c.toNat := by
    rw [List.takeWhile_eq_self_iff]
    intro d hd
    obtain ⟨n, hn, rfl⟩ := mem_hexDigits hd
    simp [Number.isDigitIn, digitOf?_digitChar hn, hn]
  have hchar : charOfNat? c.toNat = some c := by
    have hvalid : c.toNat.isValidChar := c.valid
    rw [charOfNat?, if_pos hvalid, Char.ofNat_toNat]
  simp only [hexEscape?, htake, hrun, length_hexDigits, Nat.lt_irrefl, if_false,
    valueOf_hexDigits h, hchar, Option.map_some]

/-! ## One character -/

/-- A character is written as itself, or as a backslash with an escape that stands for it. -/
theorem quoteChar_cases {mark : Char} (hmark : isQuote mark = true) (c : Char) :
    (quoteChar mark c = [c] ∧ c ≠ mark ∧ c ≠ '\\' ∧ isPrintable c = true) ∨
      ∃ e more, quoteChar mark c = '\\' :: e :: more ∧ isPrintable e = true ∧
        (∀ d ∈ more, ∃ n < 16, d = Nat.digitChar n) ∧
        ∀ rest, escape? true (e :: (more ++ rest)) = some ([c], more.length + 1) := by
  have hquote : mark = '"' ∨ mark = '\'' := by simpa [isQuote] using hmark
  unfold quoteChar
  split
  · next h =>
    obtain rfl | rfl : c = mark ∨ c = '\\' := by simpa using h
    · obtain rfl | rfl := hquote
      · exact .inr ⟨'"', [], rfl, by decide, by simp, fun rest => rfl⟩
      · exact .inr ⟨'\'', [], rfl, by decide, by simp, fun rest => rfl⟩
    · exact .inr ⟨'\\', [], rfl, by decide, by simp, fun rest => rfl⟩
  next hplain =>
  rw [Bool.or_eq_true, not_or, beq_iff_eq, beq_iff_eq] at hplain
  split
  · next h =>
    obtain rfl := beq_iff_eq.1 h
    exact .inr ⟨'t', [], rfl, by decide, by simp, fun rest => rfl⟩
  split
  · next h =>
    obtain rfl := beq_iff_eq.1 h
    exact .inr ⟨'n', [], rfl, by decide, by simp, fun rest => rfl⟩
  split
  · next h =>
    obtain rfl := beq_iff_eq.1 h
    exact .inr ⟨'r', [], rfl, by decide, by simp, fun rest => rfl⟩
  split
  · next h => exact .inl ⟨rfl, hplain.1, hplain.2, h⟩
  -- the three widths of an escape by number differ in their letter alone
  have hnumeric {e : Char} {count : Nat} (hcount : c.toNat < 16 ^ count)
      (he : ∀ rest, escape? true (e :: rest) = hexEscape? count rest) (rest : List Char) :
      escape? true (e :: (hexDigits count c.toNat ++ rest)) =
        some ([c], (hexDigits count c.toNat).length + 1) := by
    rw [he, hexEscape?_hexDigits hcount, length_hexDigits]
  split
  · next h =>
    have hcount : c.toNat < 16 ^ 2 := Nat.lt_of_le_of_lt h (by decide)
    exact .inr ⟨'x', _, rfl, by decide, fun d hd => mem_hexDigits hd,
      hnumeric hcount fun rest => rfl⟩
  split
  · next h =>
    have hcount : c.toNat < 16 ^ 4 := Nat.lt_of_le_of_lt h (by decide)
    exact .inr ⟨'u', _, rfl, by decide, fun d hd => mem_hexDigits hd,
      hnumeric hcount fun rest => rfl⟩
  · have hcount : c.toNat < 16 ^ 8 := Nat.lt_trans (toNat_lt c) (by decide)
    exact .inr ⟨'U', _, rfl, by decide, fun d hd => mem_hexDigits hd,
      hnumeric hcount fun rest => rfl⟩

theorem isPrintable_quoteChar {mark : Char} (hmark : isQuote mark = true) {c d : Char}
    (h : d ∈ quoteChar mark c) : isPrintable d = true := by
  obtain ⟨hchar, -, -, hprintable⟩ | ⟨e, more, hchar, he, hmore, -⟩ := quoteChar_cases hmark c
  · rw [hchar, List.mem_singleton] at h
    rwa [h]
  · rw [hchar, List.mem_cons, List.mem_cons] at h
    obtain rfl | rfl | h := h
    · decide
    · exact he
    · obtain ⟨n, hn, rfl⟩ := hmore d h
      exact isPrintable_digitChar hn

/-! ## Between the marks -/

/-- What can stand between two marks: no line ends in it, and every mark in it follows a
backslash. -/
inductive LiteralBody (mark : Char) : List Char → Prop
  | nil : LiteralBody mark []
  | plain {c : Char} {rest : List Char} (hmark : c ≠ mark) (hslash : c ≠ '\\') (hline : c ≠ '\n')
      (h : LiteralBody mark rest) : LiteralBody mark (c :: rest)
  | escaped {c : Char} {rest : List Char} (h : LiteralBody mark rest) :
      LiteralBody mark ('\\' :: c :: rest)

theorem ne_of_isPrintable {c d : Char} (hc : isPrintable c = true) (hd : isPrintable d = false) :
    c ≠ d := by
  rintro rfl
  rw [hc] at hd
  cases hd

theorem digitChar_ne {n : Nat} (h : n < 16) {c : Char} (hc : Number.digitOf? c = none) :
    Nat.digitChar n ≠ c := by
  rintro rfl
  rw [digitOf?_digitChar h] at hc
  cases hc

theorem literalBody_quoteChar {mark : Char} (hmark : isQuote mark = true) (c : Char)
    {rest : List Char} (h : LiteralBody mark rest) : LiteralBody mark (quoteChar mark c ++ rest) := by
  have hdigit : Number.digitOf? mark = none := by
    obtain rfl | rfl : mark = '"' ∨ mark = '\'' := by simpa [isQuote] using hmark
    · decide
    · decide
  obtain ⟨hchar, hne, hslash, hprintable⟩ | ⟨e, more, hchar, he, hmore, -⟩ :=
    quoteChar_cases hmark c
  · rw [hchar]
    exact .plain hne hslash (ne_of_isPrintable hprintable (by decide)) h
  · -- the characters of an escape after its letter are digits, which are no marks
    have hdigits : LiteralBody mark (more ++ rest) := by
      clear hchar
      induction more with
      | nil => exact h
      | cons d more ih =>
        obtain ⟨n, hn, rfl⟩ := hmore d List.mem_cons_self
        have hrest := ih fun x hx => hmore x (List.mem_cons_of_mem _ hx)
        exact .plain (digitChar_ne hn hdigit) (digitChar_ne hn (by decide))
          (digitChar_ne hn (by decide)) hrest
    rw [hchar]
    exact .escaped hdigits

theorem literalBody_flatMap {mark : Char} (hmark : isQuote mark = true) (text : List Char) :
    LiteralBody mark (text.flatMap (quoteChar mark)) := by
  induction text with
  | nil => exact .nil
  | cons c text ih =>
    rw [List.flatMap_cons]
    exact literalBody_quoteChar hmark c ih

namespace LiteralBody

variable {mark : Char} {body : List Char} (h : LiteralBody mark body)
include h

theorem splitContent?_append (hmark : isQuote mark = true) (rest : List Char) :
    splitContent? mark false (body ++ mark :: rest) = some (body, rest) := by
  have hslash : mark ≠ '\\' := by
    rintro rfl
    cases hmark
  induction h with
  | nil =>
    rw [List.nil_append, splitContent?]
    · simp
    · exact fun c _ hc _ => hslash hc
  | @plain c body hne hc hline _ ih =>
    rw [List.cons_append, splitContent?]
    · simp [hne, hline, ih]
    · exact fun _ _ heq _ => hc heq
  | escaped _ ih =>
    simp only [List.cons_append, splitContent?, ih, Option.map_some]

theorem literalLengthFrom_append (depth n : Nat) (rest : List Char) (hslash : mark ≠ '\\') :
    literalLengthFrom ⟨.single mark, depth⟩ n (body ++ mark :: rest) = n + body.length + 1 := by
  induction h generalizing n with
  | nil => simp [literalLengthFrom, Reader.step, hslash]
  | plain hne hc _ _ ih =>
    simp only [List.cons_append, literalLengthFrom, Reader.step, beq_iff_eq, hc, hne, if_false,
      reduceCtorEq, ih, List.length_cons]
    omega
  | escaped _ ih =>
    simp only [List.cons_append, literalLengthFrom, Reader.step, beq_self_eq_true, if_true,
      beq_iff_eq, reduceCtorEq, if_false, ih, List.length_cons]
    omega

theorem after_append (depth : Nat) (rest : List Char) :
    Reader.after ⟨.single mark, depth⟩ (body ++ rest) = Reader.after ⟨.single mark, depth⟩ rest := by
  induction h with
  | nil => rfl
  | plain hne hc _ _ ih =>
    rw [List.cons_append, Reader.after, ← ih]
    simp [Reader.step, hc, hne]
  | escaped _ ih =>
    rw [List.cons_append, List.cons_append, Reader.after, Reader.after, ← ih]
    rfl

theorem admits_append {p : Char → Place → Bool} (hp : ∀ c, p c .quoted = true) (depth : Nat)
    (rest : List Char) :
    Reader.admits p ⟨.single mark, depth⟩ (body ++ rest) =
      Reader.admits p ⟨.single mark, depth⟩ rest := by
  induction h with
  | nil => rfl
  | plain hne hc _ _ ih =>
    rw [List.cons_append, Reader.admits, ← ih]
    simp [Reader.step, hc, hne, hp]
  | escaped _ ih =>
    rw [List.cons_append, List.cons_append, Reader.admits, Reader.admits, ← ih]
    simp [Reader.step, hp]

end LiteralBody

/-! ## Escapes -/

theorem unescapeFrom_append (front rest : List Char) :
    unescapeFrom true front.length (front ++ rest) = unescapeFrom true 0 rest := by
  induction front with
  | nil => rfl
  | cons c front ih =>
    simp only [List.cons_append, List.length_cons, unescapeFrom, Nat.zero_lt_succ, if_true,
      Nat.add_sub_cancel, ih]

theorem unescapeFrom_quoteChar {mark : Char} (hmark : isQuote mark = true) (c : Char)
    (rest : List Char) :
    unescapeFrom true 0 (quoteChar mark c ++ rest) = (unescapeFrom true 0 rest).map (c :: ·) := by
  obtain ⟨hchar, -, hslash, -⟩ | ⟨e, more, hchar, -, -, hescape⟩ := quoteChar_cases hmark c
  · rw [hchar, List.singleton_append, unescapeFrom]
    simp [hslash]
  · have hskip := unescapeFrom_append (e :: more) rest
    rw [List.length_cons, List.cons_append] at hskip
    rw [hchar, List.cons_append, List.cons_append, unescapeFrom]
    simp only [Nat.lt_irrefl, if_false, beq_self_eq_true, if_true, hescape, hskip]
    rfl

theorem unescape?_flatMap {mark : Char} (hmark : isQuote mark = true) (text : List Char) :
    unescape? true (text.flatMap (quoteChar mark)) = some text := by
  rw [unescape?]
  induction text with
  | nil => rfl
  | cons c text ih => rw [List.flatMap_cons, unescapeFrom_quoteChar hmark, ih, Option.map_some]

/-! ## The whole literal -/

theorem mark_facts {mark : Char} (h : isQuote mark = true) :
    isPrintable mark = true ∧ isOpeningLetter mark = false ∧ isBlank mark = false ∧
      isWord mark = false ∧ mark ≠ '\\' := by
  obtain rfl | rfl : mark = '"' ∨ mark = '\'' := by simpa [isQuote] using h
  · decide
  · decide

/-- A literal with one mark at each end. -/
def marked (mark : Char) (body : List Char) : List Char := mark :: (body ++ [mark])

theorem unifyLineEnds_eq_self {text : List Char} (h : '\r' ∉ text) : unifyLineEnds text = text := by
  induction text with
  | nil => rfl
  | cons c text ih =>
    rw [List.mem_cons, not_or] at h
    rw [unifyLineEnds, ih h.2]
    · exact fun _ hc _ => h.1 hc.symm
    · exact fun hc => h.1 hc.symm

/-- A text without a backslash stands for itself. -/
theorem unescape?_plain {text : List Char} (h : '\\' ∉ text) : unescape? true text = some text := by
  rw [unescape?]
  induction text with
  | nil => rfl
  | cons c text ih =>
    rw [List.mem_cons, not_or] at h
    rw [unescapeFrom, if_neg (Nat.lt_irrefl 0), if_neg (by simpa using Ne.symm h.1), ih h.2]
    rfl

namespace LiteralBody

theorem of_plain {mark : Char} {body : List Char}
    (h : ∀ c ∈ body, c ≠ mark ∧ c ≠ '\\' ∧ c ≠ '\n') : LiteralBody mark body := by
  induction body with
  | nil => exact .nil
  | cons c body ih =>
    obtain ⟨hmark, hslash, hline⟩ := h c List.mem_cons_self
    exact .plain hmark hslash hline (ih fun d hd => h d (List.mem_cons_of_mem c hd))

variable {mark : Char} {body : List Char} (h : LiteralBody mark body) (hmark : isQuote mark = true)
include h hmark

theorem tripled_marked : tripled mark (body ++ [mark]) = false := by
  have hslash := (mark_facts hmark).2.2.2.2
  cases h with
  | nil => rfl
  | plain hne => simp [tripled_cons, hne]
  | escaped => simp [tripled_cons, hslash.symm]

/-- The reader enters a literal at its first mark. -/
theorem step_marked (depth : Nat) :
    Reader.step ⟨.code, depth⟩ mark (body ++ [mark]) = (⟨.single mark, depth⟩, .quoted) := by
  simp [Reader.step, hmark, h.tripled_marked hmark]

theorem opening?_marked : opening? (marked mark body) = some ⟨[], mark, false⟩ := by
  have hletter := (mark_facts hmark).2.1
  rw [marked, opening?, List.takeWhile_cons, hletter]
  simp [hmark, h.tripled_marked hmark]

theorem stop_marked : Opening.stop ⟨[], mark, false⟩ (marked mark body) = (marked mark body).length := by
  have hslash := (mark_facts hmark).2.2.2.2
  rw [Opening.stop, marked, literalLength, List.length_nil, List.drop_zero, literalLengthFrom,
    h.step_marked hmark]
  simp only [reduceCtorEq, beq_iff_eq, if_false,
    h.literalLengthFrom_append 0 (0 + 1) [] hslash, List.length_cons, List.length_append,
    List.length_nil]
  omega

theorem decode?_marked (hforbidden : body.any isForbidden = false) (hreturn : '\r' ∉ body)
    {text : List Char} (htext : unescape? true body = some text) :
    decode? ⟨[], mark, false⟩ (marked mark body) = some text := by
  have hquote : isForbidden mark = false ∧ '\r' ≠ mark := by
    obtain rfl | rfl : mark = '"' ∨ mark = '\'' := by simpa [isQuote] using hmark
    · decide
    · decide
  have hall : (marked mark body).any isForbidden = false := by
    simp [marked, hforbidden, hquote.1]
  have hlines : unifyLineEnds (marked mark body) = marked mark body :=
    unifyLineEnds_eq_self (by simp [marked, hreturn, hquote.2])
  have hsplit := h.splitContent?_append hmark []
  have hinner : (marked mark body).drop 1 = body ++ [mark] := rfl
  have hfirst : decodeFirst? ⟨[], mark, false⟩ (marked mark body) = some (text, []) := by
    simp [decodeFirst?, Opening.isKnown, Opening.flags, Opening.marks, hinner, hsplit,
      decodeContent?, Opening.isBytes, Opening.isRaw, htext]
  rw [decode?, hall, hlines, hfirst]
  rfl

theorem stringValue_marked (hprintable : ∀ c ∈ body, isPrintable c = true) {text : List Char}
    (htext : unescape? true body = some text) :
    stringValue ⟨[], mark, false⟩ (marked mark body) = pure (.str (String.ofList text)) := by
  have hforbidden : body.any isForbidden = false := by
    rw [List.any_eq_false]
    intro c hc hzero
    have hnul : c = '\x00' := by
      rw [← Char.ofNat_toNat c, beq_iff_eq.1 hzero]
    exact ne_of_isPrintable (hprintable c hc) (by decide) hnul
  have hreturn : '\r' ∉ body := fun hc => ne_of_isPrintable (hprintable _ hc) (by decide) rfl
  rw [stringValue, h.decode?_marked hmark hforbidden hreturn htext]
  rfl

end LiteralBody

/-! ## Verbatim texts -/

theorem between_marked (mark : Char) (body : List Char) :
    Opening.between ⟨[], mark, false⟩ (marked mark body) = body := by
  simp [Opening.between, Opening.marks, marked]

section Verbatim

variable {mark : Char} (hmark : isQuote mark = true) {body : List Char}
  (h : ∀ c ∈ body, c ≠ mark ∧ c ≠ '\\' ∧ c ≠ '\n')
include hmark h

/-- With a carriage return between its marks a literal does not end, because the return is read as
the end of the line. -/
theorem splitContent?_unifyLineEnds (hreturn : '\r' ∈ body) (rest : List Char) :
    splitContent? mark false (unifyLineEnds (body ++ rest)) = none := by
  induction body with
  | nil => cases hreturn
  | cons c body ih =>
    obtain ⟨hc, hslash, -⟩ := h c List.mem_cons_self
    rw [List.cons_append]
    by_cases hcr : c = '\r'
    · obtain ⟨more, hmore⟩ : ∃ more, unifyLineEnds ('\r' :: (body ++ rest)) = '\n' :: more := by
        cases body ++ rest with
        | nil => exact ⟨_, rfl⟩
        | cons d tail =>
          by_cases hd : d = '\n'
          · rw [hd]
            exact ⟨_, rfl⟩
          · refine ⟨unifyLineEnds (d :: tail), ?_⟩
            rw [unifyLineEnds]
            exact fun _ heq => hd (List.cons.inj heq).1
      have hline : '\n' ≠ mark := by
        rintro rfl
        cases hmark
      rw [hcr, hmore, splitContent?]
      · simp [hline]
      · exact fun _ _ heq => absurd heq (by decide)
    · have hunify : unifyLineEnds (c :: (body ++ rest)) = c :: unifyLineEnds (body ++ rest) := by
        rw [unifyLineEnds]
        · exact fun _ heq _ => hcr heq
        · exact hcr
      have hrest := ih (fun d hd => h d (List.mem_cons_of_mem c hd))
        ((List.mem_cons.1 hreturn).resolve_left (Ne.symm hcr))
      rw [hunify, splitContent?, hrest]
      · simp [hc]
      · exact fun _ _ heq => absurd heq hslash

theorem decode?_verbatim :
    decode? ⟨[], mark, false⟩ (marked mark body) = none ∨
      decode? ⟨[], mark, false⟩ (marked mark body) = some body := by
  have hquote : isForbidden mark = false ∧ mark ≠ '\r' := by
    obtain rfl | rfl : mark = '"' ∨ mark = '\'' := by simpa [isQuote] using hmark
    · decide
    · decide
  by_cases hforbidden : body.any isForbidden = true
  · have hall : (marked mark body).any isForbidden = true := by
      simp [marked, hforbidden]
    exact .inl (by rw [decode?, if_pos hall])
  by_cases hreturn : '\r' ∈ body
  · have hunify : unifyLineEnds (marked mark body) = mark :: unifyLineEnds (body ++ [mark]) := by
      rw [marked, unifyLineEnds]
      · exact fun _ heq _ => hquote.2 heq
      · exact hquote.2
    have hsplit := splitContent?_unifyLineEnds hmark h hreturn [mark]
    have hfirst : decodeFirst? ⟨[], mark, false⟩ (unifyLineEnds (marked mark body)) = none := by
      simp [decodeFirst?, Opening.marks, hunify, hsplit]
    exact .inl (by rw [decode?, hfirst, ite_self])
  · have hslash : '\\' ∉ body := fun hc => (h _ hc).2.1 rfl
    exact .inr ((LiteralBody.of_plain h).decode?_marked hmark (by simpa using hforbidden) hreturn
      (unescape?_plain hslash))

/-- A literal without mark, backslash and line feed between its marks stands for what is written
there. Where it cannot be decoded, because a line ends in it or it holds a forbidden character, it is
taken as it is written. -/
theorem stringValue_verbatim :
    stringValue ⟨[], mark, false⟩ (marked mark body) = pure (.str (String.ofList body)) := by
  rw [stringValue]
  obtain hnone | hsome := decode?_verbatim hmark h
  · rw [hnone, between_marked]
  · rw [hsome]
    rfl

end Verbatim

theorem quoteMark_eq (text : List Char) : quoteMark text = '"' ∨ quoteMark text = '\'' := by
  unfold quoteMark
  split
  · exact .inl rfl
  · exact .inr rfl

theorem quoteMark_facts (text : List Char) :
    isQuote (quoteMark text) = true ∧ isPrintable (quoteMark text) = true ∧
      isOpeningLetter (quoteMark text) = false ∧ isBlank (quoteMark text) = false ∧
        isWord (quoteMark text) = false ∧ quoteMark text ≠ '\\' := by
  have hmark : isQuote (quoteMark text) = true := by
    obtain hmark | hmark := quoteMark_eq text
    · rw [hmark]
      rfl
    · rw [hmark]
      rfl
  exact ⟨hmark, mark_facts hmark⟩

theorem isQuote_quoteMark (text : List Char) : isQuote (quoteMark text) = true :=
  (quoteMark_facts text).1

theorem quote_eq (text : List Char) :
    quote text = marked (quoteMark text) (text.flatMap (quoteChar (quoteMark text))) :=
  List.cons_append

theorem isPrintable_flatMap {text : List Char} {c : Char}
    (h : c ∈ text.flatMap (quoteChar (quoteMark text))) : isPrintable c = true := by
  obtain ⟨d, -, hd⟩ := List.mem_flatMap.1 h
  exact isPrintable_quoteChar (isQuote_quoteMark text) hd

theorem literalBody_quote (text : List Char) :
    LiteralBody (quoteMark text) (text.flatMap (quoteChar (quoteMark text))) :=
  literalBody_flatMap (isQuote_quoteMark text) text

end SnippetGrader.Written
