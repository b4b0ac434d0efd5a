import SnippetGrader.Program.Session

/-!
# Scanning balanced text

How the scanning functions go through text without quotation marks whose brackets are balanced.
Inside a bracket such a text hides everything from them: no symbol and no keyword is found in it, it
is not cut, and the bracket around it is closed where it ends.
-/

namespace SnippetGrader.Rendering

open Text Source

/-! ## Classes of characters -/

section Characters

/-- No interval of a table meets the code points from `low` to `high`. -/
def misses (table : Array (Nat × Nat)) (low high : Nat) : Bool :=
  table.toList.all fun r => r.2.blt low || high.blt r.1

theorem inIntervals_eq_false {table : Array (Nat × Nat)} {low high : Nat}
    (h : misses table low high = true) {c : Char} (hlow : low ≤ c.toNat) (hhigh : c.toNat ≤ high) :
    inIntervals table c = false := by
  rw [inIntervals, ← Array.any_toList, List.any_eq_false]
  intro r hr
  have hmiss := List.all_eq_true.1 h r hr
  simp only [Bool.or_eq_true, Nat.blt_eq] at hmiss
  simp only [Bool.and_eq_true, decide_eq_true_eq]
  omega

/-- Intervals of code points beyond ASCII that hold all blanks and no word characters. -/
def blankIntervals : List (Nat × Nat) :=
  [(0x80, 0xa0), (0x1680, 0x1680), (0x2000, 0x206f), (0x3000, 0x3000)]

set_option maxRecDepth 4000 in
theorem blankIntervals_miss :
    (blankIntervals.all fun r => misses letterTable r.1 r.2 && misses numeralTable r.1 r.2) =
      true := by
  decide +kernel

theorem isWord_eq_false_of_isBlank {c : Char} (h : isBlank c = true) : isWord c = false := by
  by_cases hascii : c.toNat < 128
  · have hcode : c.toNat ∈ [9, 10, 11, 12, 13, 28, 29, 30, 31, 32] := by
      simp only [isBlank, Bool.or_eq_true, Bool.and_eq_true, decide_eq_true_eq, beq_iff_eq] at h
      simp only [List.mem_cons, List.not_mem_nil, or_false]
      omega
    have hword : ∀ n ∈ [9, 10, 11, 12, 13, 28, 29, 30, 31, 32], isWord (Char.ofNat n) = false := by
      decide
    rw [← Char.ofNat_toNat c]
    exact hword _ hcode
  · obtain ⟨r, hr, hlow, hhigh⟩ : ∃ r ∈ blankIntervals, r.1 ≤ c.toNat ∧ c.toNat ≤ r.2 := by
      simp only [isBlank, Bool.or_eq_true, Bool.and_eq_true, decide_eq_true_eq, beq_iff_eq] at h
      simp only [blankIntervals, List.mem_cons, List.not_mem_nil, or_false, exists_eq_or_imp,
        exists_eq_left]
      omega
    have hmiss := List.all_eq_true.1 blankIntervals_miss r hr
    rw [Bool.and_eq_true] at hmiss
    have hbar : (c == '_') = false := by
      rw [beq_eq_false_iff_ne]
      rintro rfl
      exact hascii (by decide)
    simp only [isWord, isAlphanumeric, isLetter, isNumeral, if_neg hascii, hbar,
      inIntervals_eq_false hmiss.1 hlow hhigh, inIntervals_eq_false hmiss.2 hlow hhigh, Bool.or_false]

theorem ne_of_isWord {c d : Char} (hc : isWord c = true) (hd : isWord d = false) : c ≠ d := by
  rintro rfl
  rw [hc] at hd
  cases hd

theorem isBlank_eq_false_of_isWord {c : Char} (h : isWord c = true) : isBlank c = false := by
  cases hb : isBlank c with
  | false => rfl
  | true => rw [isWord_eq_false_of_isBlank hb] at h; cases h

theorem toNat_of_isDigit {c : Char} (h : c.isDigit = true) : 48 ≤ c.toNat ∧ c.toNat ≤ 57 := by
  simp only [Char.isDigit, Bool.and_eq_true, decide_eq_true_eq, UInt32.le_iff_toNat_le] at h
  exact h

theorem isAscii_of_isDigit {c : Char} (h : c.isDigit = true) : c.toNat < 128 :=
  Nat.lt_of_le_of_lt (toNat_of_isDigit h).2 (by decide)

theorem isWord_of_isDigit {c : Char} (h : c.isDigit = true) : isWord c = true := by
  simp [isWord, isAlphanumeric, isNumeral, isAscii_of_isDigit h, h]

theorem isDecimalDigit_of_isDigit {c : Char} (h : c.isDigit = true) : isDecimalDigit c = true := by
  simp [isDecimalDigit, digitValue?, isAscii_of_isDigit h, h]

theorem isAlpha_range {c : Char} (h : c.isAlpha = true) : 65 ≤ c.toNat ∧ c.toNat ≤ 122 := by
  obtain h | h := (Bool.or_eq_true c.isUpper c.isLower).mp h
  · obtain ⟨hlow, hhigh⟩ := of_decide_eq_true h
    exact ⟨hlow, Nat.le_trans hhigh (by decide)⟩
  · obtain ⟨hlow, hhigh⟩ := (Bool.and_eq_true _ _).mp h
    exact ⟨Nat.le_trans (by decide) (of_decide_eq_true hlow), of_decide_eq_true hhigh⟩

theorem isWord_of_isNameStart {c : Char} (h : isNameStart c = true) : isWord c = true := by
  rw [isNameStart, Bool.or_eq_true] at h
  obtain h | h := h
  · simp [isWord, h]
  · have hascii : c.toNat < 128 := by
      have hrange := isAlpha_range h
      omega
    simp [isWord, isAlphanumeric, isLetter, hascii, h]

/-- A character that is neither a quotation mark nor a bracket. -/
def isPlain (c : Char) : Bool := !isQuote c && !isCloser c && !isOpener c

theorem isQuote_of_isPlain {c : Char} (h : isPlain c = true) : isQuote c = false := by
  simp only [isPlain, Bool.and_eq_true, Bool.not_eq_true'] at h
  exact h.1.1

theorem isPlain_of_isWord {c : Char} (h : isWord c = true) : isPlain c = true := by
  have hne (d : Char) (hd : isWord d = false) : (c == d) = false :=
    beq_eq_false_iff_ne.2 (ne_of_isWord h hd)
  simp only [isPlain, isQuote, isCloser, isOpener, hne '"' (by decide), hne '\'' (by decide),
    hne ')' (by decide), hne ']' (by decide), hne '}' (by decide), hne '(' (by decide),
    hne '[' (by decide), hne '{' (by decide)]
  rfl

/-- What is decided character by character. -/
theorem forall_of_all {p : Char → Prop} [DecidablePred p] {text : List Char}
    (h : (text.all fun c => decide (p c)) = true) : ∀ c ∈ text, p c := fun c hc =>
  of_decide_eq_true (List.all_eq_true.1 h c hc)

theorem ne_of_isBlank {c d : Char} (hc : isBlank c = true) (hd : isBlank d = false) : c ≠ d := by
  rintro rfl
  rw [hc] at hd
  cases hd

theorem isBlank_space : ∀ c ∈ [' '], isBlank c = true := List.forall_mem_singleton.2 (by decide)

theorem isPlain_of_isBlank {c : Char} (h : isBlank c = true) : isPlain c = true := by
  have hne (d : Char) (hd : isBlank d = false) : (c == d) = false :=
    beq_eq_false_iff_ne.2 (ne_of_isBlank h hd)
  simp only [isPlain, isQuote, isCloser, isOpener, hne '"' (by decide),
    hne '\'' (by decide), hne ')' (by decide), hne ']' (by decide), hne '}' (by decide),
    hne '(' (by decide), hne '[' (by decide), hne '{' (by decide)]
  rfl

theorem isSymbolChar_eq_false_of_isWord {c : Char} (h : isWord c = true) :
    Symbol.isSymbolChar c = false := by
  have hne (d : Char) (hd : isWord d = false) : (c == d) = false :=
    beq_eq_false_iff_ne.2 (ne_of_isWord h hd)
  simp only [Symbol.isSymbolChar, hne '*' (by decide), hne '/' (by decide), hne '=' (by decide),
    hne '!' (by decide), hne '<' (by decide), hne '>' (by decide), hne '+' (by decide),
    hne '-' (by decide), hne '%' (by decide), hne ':' (by decide), hne '.' (by decide)]
  rfl

end Characters

/-! ## Balanced text -/

/-- The brackets that expressions are written with. -/
inductive Bracket where
  | round | square
deriving DecidableEq

namespace Bracket

def opener : Bracket → Char
  | round => '('
  | square => '['

def closer : Bracket → Char
  | round => ')'
  | square => ']'

end Bracket

/-- A text without quotation marks in which all brackets are closed. -/
inductive Balanced : List Char → Prop
  | nil : Balanced []
  | plain {c : Char} {rest : List Char} (hc : isPlain c = true) (h : Balanced rest) :
      Balanced (c :: rest)
  | bracket (b : Bracket) {inner rest : List Char} (hinner : Balanced inner)
      (h : Balanced rest) : Balanced (b.opener :: (inner ++ b.closer :: rest))

namespace Balanced

theorem append {a b : List Char} (ha : Balanced a) (hb : Balanced b) : Balanced (a ++ b) := by
  induction ha with
  | nil => exact hb
  | plain hc _ ih => exact .plain hc ih
  | bracket k hinner _ _ ih =>
    rw [List.cons_append, List.append_assoc, List.cons_append]
    exact .bracket k hinner ih

theorem of_plain {a : List Char} (h : ∀ c ∈ a, isPlain c = true) : Balanced a := by
  induction a with
  | nil => exact .nil
  | cons c rest ih =>
    exact .plain (h c List.mem_cons_self) (ih fun d hd => h d (List.mem_cons_of_mem c hd))

theorem not_isQuote {a : List Char} (h : Balanced a) {c : Char} (hc : c ∈ a) :
    isQuote c = false := by
  induction h with
  | nil => cases hc
  | plain hplain _ ih =>
    obtain rfl | hc := List.mem_cons.1 hc
    · exact isQuote_of_isPlain hplain
    · exact ih hc
  | bracket b _ _ ih ih' =>
    simp only [List.mem_cons, List.mem_append] at hc
    obtain rfl | hc | rfl | hc := hc
    · cases b <;> rfl
    · exact ih hc
    · cases b <;> rfl
    · exact ih' hc

end Balanced

/-! ## The reader -/

theorem step_plain {c : Char} (hc : isPlain c = true) (d : Nat) (rest : List Char) :
    Reader.step ⟨.code, d⟩ c rest = (⟨.code, d⟩, .code d) := by
  simp only [isPlain, Bool.and_eq_true, Bool.not_eq_true'] at hc
  simp [Reader.step, hc]

theorem step_opener (b : Bracket) (d : Nat) (rest : List Char) :
    Reader.step ⟨.code, d⟩ b.opener rest = (⟨.code, d + 1⟩, .code d) := by
  cases b <;> rfl

theorem step_closer (b : Bracket) (d : Nat) (rest : List Char) :
    Reader.step ⟨.code, d + 1⟩ b.closer rest = (⟨.code, d⟩, .code d) := by
  cases b <;> rfl

/-! ## Characters that are passed over -/

section Passed

variable {r r' : Reader} {c : Char} {tail : List Char} {place : Place}
  (hs : r.step c tail = (r', place))
include hs

theorem tokensFrom_cons (h : place ≠ .code 0 ∨ Symbol.isSymbolChar c = false) (i : Nat) :
    tokensFrom r i 0 (c :: tail) = tokensFrom r' (i + 1) 0 tail := by
  obtain h | h := h
  · simp [tokensFrom, hs, h]
  · simp [tokensFrom, hs, Symbol.at?, h]

theorem findKeywordFrom_cons {phrase : List String} {i : Nat} {before : Option Char}
    (h : place ≠ .code 0 ∨ phraseAt? phrase i before (c :: tail) = none) :
    findKeywordFrom phrase r i before (c :: tail) =
      findKeywordFrom phrase r' (i + 1) (some c) tail := by
  match place, h with
  | .quoted, _ | .code (_ + 1), _ => simp only [findKeywordFrom, hs]
  | .code 0, .inl h => exact absurd rfl h
  | .code 0, .inr h => simp only [findKeywordFrom, hs, h]

theorem cutTopLevelFrom_cons {sep : Char} (h : place ≠ .code 0 ∨ c ≠ sep) (piece : List Char) :
    cutTopLevelFrom sep r piece (c :: tail) = cutTopLevelFrom sep r' (c :: piece) tail := by
  obtain h | h := h
  · simp [cutTopLevelFrom, hs, h]
  · simp [cutTopLevelFrom, hs, h]

theorem find?_scanFrom_cons {d : Nat} (h : place = .code (d + 1)) (i : Nat) :
    (scanFrom r i (c :: tail)).find? (fun m => m.depth == 0 && isCloser m.char) =
      (scanFrom r' (i + 1) tail).find? fun m => m.depth == 0 && isCloser m.char := by
  simp [scanFrom, hs, h]

end Passed

theorem cutTopLevelFrom_plain {sep : Char} {a : List Char}
    (h : ∀ c ∈ a, isPlain c = true ∧ c ≠ sep) (depth : Nat) (piece rest : List Char) :
    cutTopLevelFrom sep ⟨.code, depth⟩ piece (a ++ rest) =
      cutTopLevelFrom sep ⟨.code, depth⟩ (a.reverse ++ piece) rest := by
  induction a generalizing piece with
  | nil => rfl
  | cons c a ih =>
    obtain ⟨hplain, hc⟩ := h c List.mem_cons_self
    rw [List.cons_append, cutTopLevelFrom_cons (step_plain hplain depth _) (.inr hc),
      ih fun d hd => h d (List.mem_cons_of_mem c hd), List.reverse_cons, List.append_assoc]
    rfl

/-! ## Inside a bracket -/

theorem hidden (d : Nat) : Place.code (d + 1) ≠ .code 0 := by simp

namespace Balanced

variable {a : List Char} (h : Balanced a) (d i : Nat) (rest : List Char)
include h

/-- No symbol is found in it. -/
theorem tokensFrom_append :
    tokensFrom ⟨.code, d + 1⟩ i 0 (a ++ rest) =
      tokensFrom ⟨.code, d + 1⟩ (i + a.length) 0 rest := by
  induction h generalizing d i rest with
  | nil => rfl
  | plain hc _ ih =>
    rw [List.cons_append, tokensFrom_cons (step_plain hc _ _) (.inl (hidden d)), ih, List.length_cons]
    congr 1
    omega
  | bracket b _ _ ih ih' =>
    rw [List.cons_append, tokensFrom_cons (step_opener b _ _) (.inl (hidden d)), List.append_assoc, ih,
      List.cons_append, tokensFrom_cons (step_closer b _ _) (.inl (hidden d)), ih']
    simp only [List.length_cons, List.length_append]
    congr 1
    omega

theorem findKeywordFrom_append (phrase : List String) (before : Option Char) :
    ∃ before', findKeywordFrom phrase ⟨.code, d + 1⟩ i before (a ++ rest) =
      findKeywordFrom phrase ⟨.code, d + 1⟩ (i + a.length) before' rest := by
  induction h generalizing d i rest before with
  | nil => exact ⟨before, rfl⟩
  | plain hc _ ih =>
    obtain ⟨before', ih⟩ := ih d (i + 1) rest (some _)
    refine ⟨before', ?_⟩
    rw [List.cons_append, findKeywordFrom_cons (step_plain hc _ _) (.inl (hidden d)), ih, List.length_cons]
    congr 1
    omega
  | @bracket b inner tail _ _ ih ih' =>
    obtain ⟨_, ih⟩ := ih (d + 1) (i + 1) (b.closer :: (tail ++ rest)) (some b.opener)
    obtain ⟨before', ih'⟩ := ih' d (i + 1 + inner.length + 1) rest (some b.closer)
    refine ⟨before', ?_⟩
    rw [List.cons_append, findKeywordFrom_cons (step_opener b _ _) (.inl (hidden d)), List.append_assoc,
      List.cons_append, ih, findKeywordFrom_cons (step_closer b _ _) (.inl (hidden d)), ih']
    simp only [List.length_cons, List.length_append]
    congr 1
    omega

theorem cutTopLevelFrom_append (sep : Char) (piece : List Char) :
    cutTopLevelFrom sep ⟨.code, d + 1⟩ piece (a ++ rest) =
      cutTopLevelFrom sep ⟨.code, d + 1⟩ (a.reverse ++ piece) rest := by
  induction h generalizing d rest piece with
  | nil => rfl
  | plain hc _ ih =>
    rw [List.cons_append, cutTopLevelFrom_cons (step_plain hc _ _) (.inl (hidden d)), ih, List.reverse_cons,
      List.append_assoc]
    rfl
  | bracket b _ _ ih ih' =>
    rw [List.cons_append, cutTopLevelFrom_cons (step_opener b _ _) (.inl (hidden d)), List.append_assoc, ih,
      List.cons_append, cutTopLevelFrom_cons (step_closer b _ _) (.inl (hidden d)), ih']
    simp

/-- No bracket outside it is closed in it. -/
theorem find?_scanFrom_append :
    (scanFrom ⟨.code, d + 1⟩ i (a ++ rest)).find? (fun m => m.depth == 0 && isCloser m.char) =
      (scanFrom ⟨.code, d + 1⟩ (i + a.length) rest).find? fun m =>
        m.depth == 0 && isCloser m.char := by
  induction h generalizing d i rest with
  | nil => rfl
  | plain hc _ ih =>
    rw [List.cons_append, find?_scanFrom_cons (step_plain hc _ _) rfl, ih, List.length_cons]
    congr 2
    omega
  | bracket b _ _ ih ih' =>
    rw [List.cons_append, find?_scanFrom_cons (step_opener b _ _) rfl, List.append_assoc, ih,
      List.cons_append, find?_scanFrom_cons (step_closer b _ _) rfl, ih']
    simp only [List.length_cons, List.length_append]
    congr 2
    omega

theorem matchingClose_append (b : Bracket) :
    matchingClose (b.opener :: (a ++ b.closer :: rest)) 0 = some (a.length + 1) := by
  have hscan : (scan (b.opener :: (a ++ b.closer :: rest))).tail.find?
      (fun m => m.depth == 0 && isCloser m.char) = some ⟨a.length + 1, b.closer, 0⟩ := by
    have hopen : scan (b.opener :: (a ++ b.closer :: rest)) =
        ⟨0, b.opener, 0⟩ :: scanFrom ⟨.code, 1⟩ 1 (a ++ b.closer :: rest) := by
      simp [scan, scanFrom, step_opener b 0]
    have hcloser : isCloser b.closer = true := by cases b <;> rfl
    rw [hopen, List.tail_cons, h.find?_scanFrom_append]
    simp [scanFrom, step_closer b 0, hcloser, Nat.add_comm]
  have hkind : closerOf? b.opener = some b.closer := by cases b <;> rfl
  simp [matchingClose, hkind, hscan]

end Balanced

end SnippetGrader.Rendering
