import SnippetGrader.Proofs.Operation.Numeral

/-!
# Arithmetic on numbers

What becomes of `1_000 * 2e-3`: two unsigned numbers with an operator between them. The text is cut at
the operator, and then has the value that the operator gives for the two numbers or fails as it does,
exactly if no sign of an exponent comes first and a point at the end of the left number does not make
a sign of the operator (`evaluate_operation`).
-/

namespace SnippetGrader.Operation

open Text Source Expression Rendering Run

/-- Two operands with an operator between them. -/
def operation (a : List Char) (op : ArithmeticOp) (b : List Char) : List Char :=
  a ++ ' ' :: (op.symbol.chars ++ ' ' :: b)

def isSum (op : ArithmeticOp) : Bool := op == .add || op == .sub

/-- Whether the sign in an unsigned number is told from an operator: the number has none, or it starts
with a digit and has no underscore after its point. -/
def hidesSign (t : List Char) : Bool :=
  !(t.contains '+' || t.contains '-') ||
    (t.head? != some '.' && !(t.dropWhile (· != '.')).contains '_')

/-- Whether an operation on unsigned numbers is cut at its operator. It is cut at the last plus or
minus that is no sign, so the left number matters for a sum only if it ends in a point. -/
def isIntact (a : List Char) (op : ArithmeticOp) (b : List Char) : Bool :=
  hidesSign b && (if isSum op then a.getLast? != some '.' else hidesSign a)

/-- A text is read as a number without a sign, with this result. -/
structure IsUnsigned (t : List Char) (r : Except Failure Value) : Prop where
  reads : Literal.numberValue? t = some r
  unsigned : Literal.dropSign t = t

/-! ## The end of a number -/

namespace Numeral

variable (n : Numeral)

theorem exists_getLast? : ∃ c ∈ n.text.getLast?, Literal.isDigitOrBar c = true ∨ c = '.' := by
  have hdigit {c : Char} (h : isDecimalDigit c = true) : Literal.isDigitOrBar c = true := by
    rw [Literal.isDigitOrBar, h, Bool.or_true]
  have hlast {front l : List Char} (hne : l ≠ []) : l.getLast hne ∈ (front ++ l).getLast? := by
    rw [List.getLast?_append, List.getLast?_eq_some_getLast hne]
    rfl
  rw [text]
  cases n.exponent with
  | some x =>
    refine ⟨_, hlast (List.cons_ne_nil _ _), .inl (hdigit (x.isDecimalDigit_digits _ ?_))⟩
    rw [List.getLast_cons (by simp [x.digits_ne_nil]), List.getLast_append_of_ne_nil _ x.digits_ne_nil]
    exact List.getLast_mem x.digits_ne_nil
  | none =>
    have hwhole := n.isDigitOrBar_whole
    have hfraction := n.isDigitOrBar_fraction
    have hstarts := n.starts
    rw [Option.map_none, Option.getD_none, List.append_nil, mantissa]
    cases hf : n.fraction with
    | none =>
      have hne : n.whole ≠ [] := by
        intro hnil
        rw [hnil, hf] at hstarts
        cases hstarts
      rw [pointed, List.append_nil]
      exact ⟨_, List.getLast?_eq_some_getLast hne, .inl (hwhole _ (List.getLast_mem hne))⟩
    | some f =>
      rw [hf] at hfraction
      refine ⟨_, hlast (List.cons_ne_nil _ _), ?_⟩
      obtain hpoint | hmem := List.mem_cons.1 (List.getLast_mem (List.cons_ne_nil '.' f))
      · exact .inr hpoint
      · exact .inl (hfraction _ hmem)

/-- A number ends an operand unless it ends in a point. -/
theorem joinsOperands_text : joinsOperands n.text = (n.text.getLast? != some '.') := by
  obtain ⟨c, hlast, hc⟩ := n.exists_getLast?
  rw [Option.mem_def] at hlast
  have hblank : isBlank c = false :=
    isBlank_eq_false_of_isNumeralChar (n.isNumeralChar_text (List.mem_of_getLast? hlast))
  have htrim : trimEnd n.text = n.text := by
    obtain ⟨front, hfront⟩ := List.getLast?_eq_some_iff.1 hlast
    simp [hfront, trimEnd, dropEndWhile, hblank]
  have hword : signWords.contains (lastWord n.text) = false := by
    rw [List.contains_eq_mem, decide_eq_false_iff_not]
    refine not_mem_signWords fun d hd => ?_
    obtain ⟨hmem, hd⟩ := mem_lastWord hd
    have hchar := n.isNumeralChar_text hmem
    have hplus : d ≠ '+' := ne_of_isWord hd (by decide)
    have hminus : d ≠ '-' := ne_of_isWord hd (by decide)
    simpa [isNumeralChar, hplus, hminus] using hchar
  have hexponent : endsInExponent n.text = false := by
    have hmark : c ≠ 'e' ∧ c ≠ 'E' := by
      obtain hc | rfl := hc
      · constructor
        all_goals
          rintro rfl
          exact absurd hc (by decide)
      · decide
    simp [endsInExponent, hlast, hmark]
  simp only [joinsOperands, htrim, hlast, hword, hexponent]
  obtain hc | rfl := hc
  · have hpoint : c ≠ '.' := by
      rintro rfl
      exact absurd hc (by decide)
    have hends : (isAlphanumeric c || endsOperand c) = true := by
      have hisWord := isWord_of_isDigitOrBar hc
      rw [isWord, Bool.or_eq_true, beq_iff_eq] at hisWord
      obtain rfl | halpha := hisWord
      · decide
      · rw [halpha, Bool.true_or]
    simp [hends, hpoint]
  · decide

theorem exists_head : ∃ c rest, n.text = c :: rest ∧ (isDecimalDigit c = true ∨ c = '.') := by
  have hstarts := n.starts
  rw [text, mantissa]
  cases hwhole : n.whole with
  | cons c run => exact ⟨c, _, rfl, .inl (n.isDecimalDigit_head (by rw [hwhole]; rfl))⟩
  | nil =>
    cases hf : n.fraction with
    | some f => exact ⟨'.', _, rfl, .inr rfl⟩
    | none =>
      rw [hwhole, hf] at hstarts
      cases hstarts

end Numeral

/-! ## The sign of an exponent -/

namespace Numeral

variable (n : Numeral)

/-- Whether no sign in a number is taken for an operator. -/
def isWhole (n : Numeral) : Bool := (n.exponent.bind Exponent.sign).isNone || n.found

theorem not_mem_mantissa {c : Char} (hc : (isWord c || c == '.') = false) : c ∉ n.mantissa :=
  fun hmem => Bool.false_ne_true (hc ▸ (n.isStartChar_mantissa hmem).1)

theorem contains_sign :
    (n.text.contains '+' || n.text.contains '-') = (n.exponent.bind Exponent.sign).isSome := by
  rw [Bool.eq_iff_iff]
  simp only [text, Bool.or_eq_true, List.contains_iff_mem, List.mem_append,
    n.not_mem_mantissa (c := '+') (by decide), n.not_mem_mantissa (c := '-') (by decide), false_or]
  cases n.exponent with
  | none => simp
  | some x =>
    have hdigits {c : Char} (hc : isDecimalDigit c = false) : c ∉ x.digits := fun hmem =>
      Bool.false_ne_true (hc ▸ x.isDecimalDigit_digits c hmem)
    have hmark : '+' ≠ x.mark ∧ '-' ≠ x.mark := by
      obtain hmark | hmark := x.isMark <;> rw [hmark] <;> decide
    simp only [Option.map_some, Option.getD_some, Option.bind_some, Exponent.text, List.mem_cons,
      List.mem_append, hmark.1, hmark.2, hdigits (c := '+') (by decide),
      hdigits (c := '-') (by decide), Exponent.signText, false_or, or_false]
    cases x.sign with
    | none => simp
    | some s => cases s <;> simp [Sign.symbol, Symbol.chars]

theorem not_mem_exponent : '_' ∉ (n.exponent.map Exponent.text).getD [] := by
  cases n.exponent with
  | none => simp
  | some x =>
    have hmark : '_' ≠ x.mark := by
      obtain hmark | hmark := x.isMark <;> rw [hmark] <;> decide
    have hdigits : '_' ∉ x.digits := fun hmem =>
      absurd (x.isDecimalDigit_digits _ hmem) (by decide)
    have hsign : '_' ∉ x.signText := by
      rw [Exponent.signText]
      cases x.sign with
      | none => simp
      | some s => cases s <;> decide
    simp [Exponent.text, hmark, hsign, hdigits]

theorem found_eq : n.found =
    (n.text.head? != some '.' && !(n.text.dropWhile (· != '.')).contains '_') := by
  have hexponent := n.not_mem_exponent
  have hpass : ∀ c ∈ n.whole, (c != '.') = true := fun c hc => by
    rw [bne_iff_ne]
    rintro rfl
    exact n.not_point_mem_whole hc
  have hdrop : (n.text.dropWhile (· != '.')).contains '_' = (n.fraction.getD []).contains '_' := by
    rw [text, mantissa, List.append_assoc, List.dropWhile_append_of_pos hpass]
    cases n.fraction with
    | none =>
      have hnone : '_' ∉ (pointed none ++ (n.exponent.map Exponent.text).getD []).dropWhile
          (· != '.') := fun hmem => hexponent ((List.dropWhile_sublist _).mem hmem)
      simpa using hnone
    | some f => simp [pointed, hexponent]
  have hhead : (n.text.head? != some '.') = !n.whole.isEmpty := by
    have hstarts := n.starts
    rw [text, mantissa]
    cases hwhole : n.whole with
    | cons c run =>
      have hc : c ≠ '.' := by simpa using hpass c (hwhole ▸ List.mem_cons_self)
      simp [hc]
    | nil =>
      cases hf : n.fraction with
      | some f => rfl
      | none =>
        rw [hwhole, hf] at hstarts
        cases hstarts
  rw [hdrop, hhead, found]

theorem hidesSign_text : hidesSign n.text = n.isWhole := by
  rw [hidesSign, isWhole, n.contains_sign, ← n.found_eq, Option.not_isSome]

section Cut

variable {front back text : List Char} (htext : text = front ++ (n.text ++ back))
  (hfront : ∀ c ∈ front.getLast?, isStartChar c = false ∧ isWord c = false) (ops : List Operator)
include htext hfront

theorem binaryAt?_sign {x : Exponent} (hx : n.exponent = some x) {s : Sign} (hs : x.sign = some s) :
    binaryAt? ops text ⟨front.length + n.mantissa.length + 1, s.symbol⟩ =
      if ops.contains s.operator && !n.found then
        some (.binary s.operator (front ++ (n.mantissa ++ [x.mark])) (x.digits ++ back))
      else none := by
  have hsplit : text = (front ++ (n.mantissa ++ [x.mark])) ++ (s.symbol.chars ++ (x.digits ++ back)) := by
    rw [htext, Numeral.text, hx, Option.map_some, Option.getD_some, Exponent.text, Exponent.signText,
      hs]
    simp
  have hlength : (front ++ (n.mantissa ++ [x.mark])).length = front.length + n.mantissa.length + 1 := by
    simp [Nat.add_assoc]
  have htake : text.take (front.length + n.mantissa.length + 1) =
      front ++ (n.mantissa ++ [x.mark]) := by
    rw [hsplit, List.take_left' hlength]
  have hdrop : text.drop (Token.stop ⟨front.length + n.mantissa.length + 1, s.symbol⟩) =
      x.digits ++ back := by
    rw [Token.stop, ← List.drop_drop, hsplit, List.drop_left' hlength]
    exact List.drop_left
  have hblank : (x.digits ++ back).all isBlank = false := by
    obtain ⟨d, more, hdigits⟩ := List.exists_cons_of_ne_nil x.digits_ne_nil
    have hd : isBlank d = false := isBlank_eq_false_of_isWord
      (isWord_of_isDecimalDigit (x.isDecimalDigit_digits d (hdigits ▸ List.mem_cons_self)))
    simp [hdigits, hd]
  have hoperator : operatorOf? s.symbol = some s.operator := by cases s <;> rfl
  have hsum : (s.operator == .add || s.operator == .sub) = true := by cases s <;> rfl
  unfold binaryAt?
  simp only [hoperator, Option.bind_eq_bind, Option.bind_some, htake, hdrop, hblank, hsum,
    n.joinsOperands_mark hfront x.isMark]
  simp

/-- A number is passed over by the search for operators that are not written like its sign. -/
theorem binaryAt?_eq_none (h : n.isWhole = true ∨ ∀ s : Sign, ops.contains s.operator = false) :
    ∀ t ∈ n.tokensAt front.length, binaryAt? ops text t = none := by
  intro t ht
  rw [tokensAt, List.mem_append] at ht
  obtain ht | ht := ht
  · cases hf : n.fraction with
    | none =>
      rw [hf] at ht
      cases ht
    | some f =>
      rw [hf] at ht
      obtain rfl := List.mem_singleton.1 ht
      rfl
  · cases hx : n.exponent with
    | none =>
      rw [hx] at ht
      cases ht
    | some x =>
      cases hs : x.sign with
      | none =>
        rw [hx, Option.bind_some, hs] at ht
        cases ht
      | some s =>
        rw [hx, Option.bind_some, hs] at ht
        obtain rfl := List.mem_singleton.1 ht
        rw [n.binaryAt?_sign htext hfront ops hx hs]
        refine if_neg ?_
        obtain h | h := h
        · rw [isWhole, hx, Option.bind_some, hs, Option.isNone_some, Bool.false_or] at h
          simp [h]
        · simp only [h s, Bool.false_and, Bool.false_eq_true, not_false_eq_true]

/-- A number that is not whole is cut at its sign. -/
theorem exists_cut (h : n.isWhole = false) :
    ∃ op left right, (n.tokensAt front.length).reverse.findSome? (binaryAt? [.add, .sub] text) =
        some (.binary op left right) ∧
      front.length < left.length ∧ left.length < front.length + n.text.length := by
  rw [isWhole, Bool.or_eq_false_iff] at h
  obtain ⟨hsign, hfound⟩ := h
  cases hx : n.exponent with
  | none =>
    rw [hx] at hsign
    cases hsign
  | some x =>
    cases hs : x.sign with
    | none =>
      rw [hx, Option.bind_some, hs] at hsign
      cases hsign
    | some s =>
      have hcut := n.binaryAt?_sign htext hfront [.add, .sub] hx hs
      have hmem : [Operator.add, .sub].contains s.operator = true := by cases s <;> rfl
      rw [hmem, hfound, Bool.not_false, Bool.and_true, if_pos rfl] at hcut
      refine ⟨s.operator, front ++ (n.mantissa ++ [x.mark]), x.digits ++ back, ?_, ?_, ?_⟩
      · rw [tokensAt, hx, Option.bind_some, hs, List.reverse_append, List.findSome?_append]
        exact congrArg (Option.or · _) ((List.findSome?_singleton).trans hcut)
      · simp
      · have hdigits := List.length_pos_iff.2 x.digits_ne_nil
        simp [Numeral.text, hx, Exponent.text, Exponent.signText, hs]
        omega

end Cut

end Numeral

/-! ## The form of an operation -/

section Form

variable (n m : Numeral) (op : ArithmeticOp)

/-- A character that an operation on numbers is written with. -/
def isOperationChar (c : Char) : Bool := isNumeralChar c || c == ' ' || c == '*' || c == '/' || c == '%'

theorem isOperationChar_symbol {c : Char} (hc : c ∈ op.symbol.chars) : isOperationChar c = true := by
  have hall : op.symbol.chars.all isOperationChar = true := by cases op <;> decide
  exact List.all_eq_true.1 hall c hc

theorem isOperationChar_operation {c : Char} (hc : c ∈ operation n.text op m.text) :
    isOperationChar c = true := by
  have hnumeral {k : Numeral} (h : c ∈ k.text) : isOperationChar c = true := by
    simp only [isOperationChar, k.isNumeralChar_text h, Bool.true_or]
  simp only [operation, List.mem_append, List.mem_cons] at hc
  obtain hc | rfl | hc | rfl | hc := hc
  · exact hnumeral hc
  · rfl
  · exact isOperationChar_symbol op hc
  · rfl
  · exact hnumeral hc

theorem isPlain_of_isOperationChar {c : Char} (h : isOperationChar c = true) : isPlain c = true := by
  simp only [isOperationChar, Bool.or_eq_true, beq_iff_eq] at h
  obtain (((h | rfl) | rfl) | rfl) | rfl := h
  · exact isPlain_of_isNumeralChar h
  all_goals decide

theorem passes_operation {d : Char} (hd : isOperationChar d = false) :
    Written.Passes (lacks d) 0 (operation n.text op m.text) := by
  refine .plain fun c hc => ?_
  have hchar := isOperationChar_operation n m op hc
  have hne : c ≠ d := by
    rintro rfl
    rw [hchar] at hd
    cases hd
  exact ⟨isPlain_of_isOperationChar hchar, by simp [lacks, hne]⟩

/-- An operation on numbers starts with a digit or a point. -/
theorem exists_head_operation : ∃ c rest, operation n.text op m.text = c :: rest ∧
    (isDecimalDigit c = true ∨ c = '.') := by
  obtain ⟨c, rest, htext, hc⟩ := n.exists_head
  exact ⟨c, _, by rw [operation, htext, List.cons_append], hc⟩

theorem opening?_operation : Literal.opening? (operation n.text op m.text) = none :=
  opening?_eq_none fun c hc => by
    exact isQuote_of_isPlain (isPlain_of_isOperationChar (isOperationChar_operation n m op hc))

theorem startsWithWord_operation {word : String} {first : Char} (hword : first ∈ word.toList.head?)
    (hfirst : isOperationChar first = false) :
    startsWithWord (operation n.text op m.text) word = false := by
  obtain ⟨c, rest, htext, -⟩ := exists_head_operation n m op
  obtain ⟨more, hmore⟩ := List.head?_eq_some_iff.1 hword
  have hne : (first == c) = false := by
    rw [beq_eq_false_iff_ne]
    rintro rfl
    rw [isOperationChar_operation n m op (htext ▸ List.mem_cons_self)] at hfirst
    cases hfirst
  rw [startsWithWord, htext, hmore, dropFront?, hne]
  rfl

theorem trim_operation : trim (operation n.text op m.text) = operation n.text op m.text := by
  obtain ⟨c, rest, htext, -⟩ := n.exists_head
  obtain ⟨d, hlast, -⟩ := m.exists_getLast?
  refine Layout.trim_eq_self_iff.2 ⟨fun b hb => ?_, fun b hb => ?_⟩
  · rw [operation, htext] at hb
    cases hb
    exact isBlank_eq_false_of_isNumeralChar (n.isNumeralChar_text (htext ▸ List.mem_cons_self))
  · have hend : (operation n.text op m.text).getLast? = some d := by
      simp [operation, List.getLast?_append, List.getLast?_cons, Option.mem_def.1 hlast]
    rw [hend] at hb
    cases hb
    exact isBlank_eq_false_of_isNumeralChar (m.isNumeralChar_text (List.mem_of_getLast? hlast))

/-- No name, bracket or text stands in front that a chain could start from. -/
theorem chain?_operation : chain? (operation n.text op m.text) = none := by
  obtain ⟨c, rest, htext, hc⟩ := exists_head_operation n m op
  have hstart : isNameStart c = false := by
    obtain hc | rfl := hc
    · rw [← Bool.not_eq_true]
      intro hstart
      rw [isDecimalDigit_eq_false_of_isNameStart hstart] at hc
      cases hc
    · decide
  have hbracket : c ≠ '(' ∧ c ≠ '[' := by
    constructor
    all_goals
      rintro rfl
      revert hc
      decide
  have hopening : Literal.opening? (operation n.text op m.text) = none :=
    opening?_operation n m op
  have hhead : splitHead? (operation n.text op m.text) = none := by
    unfold splitHead?
    rw [hopening, htext]
    simp [splitName_other hstart, hbracket]
  rw [chain?, hhead]
  rfl

theorem plain_operation : Plain (operation n.text op m.text) where
  trim_eq := trim_operation n m op
  space_mem := by simp [operation]
  opening := opening?_operation n m op
  not_list := by
    obtain ⟨c, rest, htext, hc⟩ := exists_head_operation n m op
    rw [htext, List.head?_cons]
    rintro ⟨⟩
    revert hc
    decide
  not_chain := chain?_operation n m op
  lacks_comma := (passes_operation n m op (by decide)).admits

theorem wordless_operation : Wordless (operation n.text op m.text) where
  uncut := by
    have hletters : cuttingPhrases.all (fun phrase => match phrase with
        | word :: _ => word.toList.head?.any fun c => !isOperationChar c
        | [] => false) = true := by
      decide
    intro phrase hphrase
    have hfirst := List.all_eq_true.1 hletters phrase hphrase
    match phrase, hfirst with
    | word :: next, hfirst =>
      obtain ⟨first, hhead, hletter⟩ := (Option.any_eq_true _ _).1 hfirst
      rw [Bool.not_eq_true'] at hletter
      exact Written.findKeywordFrom_eq_nil next hhead (passes_operation n m op hletter).admits 0 none
  not_lambda := startsWithWord_operation n m op (show 'l' ∈ "lambda".toList.head? from rfl) (by decide)
  not_negation := startsWithWord_operation n m op (show 'n' ∈ "not".toList.head? from rfl) (by decide)

/-- What stands before the right number. -/
def front (n : Numeral) (op : ArithmeticOp) : List Char := n.text ++ ' ' :: (op.symbol.chars ++ [' '])

theorem operation_eq_left : operation n.text op m.text =
    [] ++ (n.text ++ (' ' :: (op.symbol.chars ++ ' ' :: m.text))) := by
  rw [operation, List.nil_append]

theorem operation_eq_right : operation n.text op m.text = front n op ++ (m.text ++ []) := by
  simp [operation, front]

theorem tokens_operation : tokens (operation n.text op m.text) =
    n.tokensAt 0 ++ ⟨n.text.length + 1, op.symbol⟩ :: m.tokensAt (front n op).length := by
  have hblank (i : Nat) (rest : List Char) :
      tokensFrom {} i 0 (' ' :: rest) = tokensFrom {} (i + 1) 0 rest :=
    tokensFrom_plain (List.forall_mem_singleton.2 (by decide)) i rest
  have hspace : ∀ c ∈ (' ' :: m.text).head?, c ≠ '=' ∧ c ≠ '*' ∧ c ≠ '/' ∧ c ≠ '>' := by
    rintro c ⟨⟩
    decide
  have hlength : n.text.length + 1 + op.symbol.chars.length + 1 = (front n op).length := by
    simp [front]
    omega
  have hright := m.tokensFrom_text (front n op).length []
  rw [List.append_nil] at hright
  rw [tokens, operation, n.tokensFrom_text, Nat.zero_add, hblank,
    tokensFrom_operator op.isOperator_symbol _ hspace, hblank, hlength, hright]
  simp [tokensFrom]

theorem binaryAt?_operator (ops : List Operator) :
    binaryAt? ops (operation n.text op m.text) ⟨n.text.length + 1, op.symbol⟩ =
      if ops.contains op.operator && (!isSum op || n.text.getLast? != some '.') then
        some (.binary op.operator (n.text ++ [' ']) (' ' :: m.text))
      else none := by
  have hsplit : operation n.text op m.text =
      (n.text ++ [' ']) ++ (op.symbol.chars ++ ' ' :: m.text) := by
    simp [operation]
  have hlength : (n.text ++ [' ']).length = n.text.length + 1 := by simp
  have htake : (operation n.text op m.text).take (n.text.length + 1) = n.text ++ [' '] := by
    rw [hsplit, List.take_left' hlength]
  have hdrop : (operation n.text op m.text).drop (Token.stop ⟨n.text.length + 1, op.symbol⟩) =
      ' ' :: m.text := by
    rw [Token.stop, ← List.drop_drop, hsplit, List.drop_left' hlength]
    exact List.drop_left
  have hblank : (' ' :: m.text).all isBlank = false := by
    obtain ⟨c, rest, htext, -⟩ := m.exists_head
    have hc : isBlank c = false :=
      isBlank_eq_false_of_isNumeralChar (m.isNumeralChar_text (htext ▸ List.mem_cons_self))
    simp [htext, hc]
  have hjoins : joinsOperands (n.text ++ [' ']) = (n.text.getLast? != some '.') := by
    rw [← n.joinsOperands_text, joinsOperands, joinsOperands, trimEnd_append_space]
  have hoperator : operatorOf? op.symbol = some op.operator := by cases op <;> rfl
  have hsum : (op.operator == .add || op.operator == .sub) = isSum op := by cases op <;> rfl
  unfold binaryAt?
  simp only [hoperator, Option.bind_eq_bind, Option.bind_some, htake, hdrop, hblank, hsum, hjoins]
  simp

/-- What the operation is cut into at its operator. -/
def cut (n : Numeral) (op : ArithmeticOp) (m : Numeral) : Form :=
  .binary op.operator (n.text ++ [' ']) (' ' :: m.text)

def sumOperators : List Operator := [.add, .sub]

def productOperators : List Operator := [.mul, .div, .floorDiv, .mod]

theorem findSome?_reverse_eq_none {α β : Type} {f : α → Option β} {l : List α}
    (h : ∀ a ∈ l, f a = none) : l.reverse.findSome? f = none :=
  List.findSome?_eq_none_iff.2 fun a ha => h a (List.mem_reverse.1 ha)

theorem passed_left (ops : List Operator)
    (h : n.isWhole = true ∨ ∀ s : Sign, ops.contains s.operator = false) :
    ∀ t ∈ n.tokensAt 0, binaryAt? ops (operation n.text op m.text) t = none :=
  n.binaryAt?_eq_none (operation_eq_left n m op) (by simp) ops h

theorem getLast?_front : ∀ c ∈ (front n op).getLast?, isStartChar c = false ∧ isWord c = false := by
  have hlast : (front n op).getLast? = some ' ' := by simp [front, List.getLast?_cons]
  rw [hlast]
  rintro c ⟨⟩
  decide

theorem passed_right (ops : List Operator)
    (h : m.isWhole = true ∨ ∀ s : Sign, ops.contains s.operator = false) :
    ∀ t ∈ m.tokensAt (front n op).length, binaryAt? ops (operation n.text op m.text) t = none :=
  m.binaryAt?_eq_none (operation_eq_right n m op) (getLast?_front n op) ops h

theorem lastBinary?_operation (ops : List Operator) :
    lastBinary? ops (operation n.text op m.text) =
      ((m.tokensAt (front n op).length).reverse.findSome? (binaryAt? ops (operation n.text op m.text))).or
        ((binaryAt? ops (operation n.text op m.text) ⟨n.text.length + 1, op.symbol⟩).or
          ((n.tokensAt 0).reverse.findSome? (binaryAt? ops (operation n.text op m.text)))) := by
  rw [lastBinary?, tokens_operation, List.reverse_append, List.reverse_cons, List.append_assoc,
    List.findSome?_append, List.singleton_append, List.findSome?_cons]
  cases binaryAt? ops (operation n.text op m.text) ⟨n.text.length + 1, op.symbol⟩ <;> rfl

theorem lastBinary?_products : lastBinary? productOperators (operation n.text op m.text) =
    binaryAt? productOperators (operation n.text op m.text) ⟨n.text.length + 1, op.symbol⟩ := by
  have hsigns : ∀ s : Sign, productOperators.contains s.operator = false := by
    intro s
    cases s <;> rfl
  have hleft := passed_left n m op productOperators (.inr hsigns)
  have hright := passed_right n m op productOperators (.inr hsigns)
  rw [lastBinary?_operation, findSome?_reverse_eq_none hright, findSome?_reverse_eq_none hleft,
    Option.none_or, Option.or_none]

theorem firstBinary?_pow : firstBinary? [.pow] (operation n.text op m.text) =
    binaryAt? [.pow] (operation n.text op m.text) ⟨n.text.length + 1, op.symbol⟩ := by
  have hsigns : ∀ s : Sign, [Operator.pow].contains s.operator = false := by
    intro s
    cases s <;> rfl
  rw [firstBinary?, tokens_operation, List.findSome?_append,
    List.findSome?_eq_none_iff.2 (passed_left n m op [.pow] (.inr hsigns)), Option.none_or,
    List.findSome?_cons, List.findSome?_eq_none_iff.2 (passed_right n m op [.pow] (.inr hsigns))]
  cases binaryAt? [.pow] (operation n.text op m.text) ⟨n.text.length + 1, op.symbol⟩ <;> rfl

theorem not_comparison : ∀ t ∈ tokens (operation n.text op m.text), comparisonOf? t.symbol = none := by
  have hnumber (k : Numeral) (i : Nat) : ∀ t ∈ k.tokensAt i, comparisonOf? t.symbol = none := by
    intro t ht
    simp only [Numeral.tokensAt, List.mem_append, Option.mem_toList, Option.map_eq_some_iff,
      Option.bind_eq_some_iff] at ht
    obtain ⟨f, -, rfl⟩ | ⟨x, -, s, -, rfl⟩ := ht
    · rfl
    · cases s <;> rfl
  rw [tokens_operation]
  intro t ht
  rw [List.mem_append, List.mem_cons] at ht
  obtain ht | rfl | ht := ht
  · exact hnumber n _ t ht
  · cases op <;> rfl
  · exact hnumber m _ t ht

theorem signed?_operation : signed? (operation n.text op m.text) = none := by
  obtain ⟨c, rest, htext, hc⟩ := exists_head_operation n m op
  have hsign : c ≠ '-' ∧ c ≠ '+' := by
    constructor
    all_goals
      rintro rfl
      revert hc
      decide
  rw [htext]
  unfold signed?
  split
  · next h => exact absurd (List.head_eq_of_cons_eq h) hsign.1
  · next h => exact absurd (List.head_eq_of_cons_eq h) hsign.2
  · rfl

/-- Where no sum is found, the operation is cut at its operator, if it is the operator of a product or
power. -/
theorem form?_operation : form? (operation n.text op m.text) =
    (lastBinary? sumOperators (operation n.text op m.text)).or
      (if isSum op then none else some (cut n op m)) := by
  have htight : (lastBinary? productOperators (operation n.text op m.text) <|>
      signed? (operation n.text op m.text) <|> firstBinary? [.pow] (operation n.text op m.text)) =
        if isSum op then none else some (cut n op m) := by
    rw [lastBinary?_products, signed?_operation, firstBinary?_pow, binaryAt?_operator,
      binaryAt?_operator]
    cases op <;> rfl
  rw [(wordless_operation n m op).form?_eq (not_comparison n m op)]
  change (lastBinary? sumOperators (operation n.text op m.text) <|> _) = _
  rw [← htight]
  cases lastBinary? sumOperators (operation n.text op m.text) <;> rfl

theorem lastBinary?_sums (hm : m.isWhole = true) :
    lastBinary? sumOperators (operation n.text op m.text) =
      (if isSum op && n.text.getLast? != some '.' then some (cut n op m) else none).or
        ((n.tokensAt 0).reverse.findSome? (binaryAt? sumOperators (operation n.text op m.text))) := by
  have hright := passed_right n m op sumOperators (.inl hm)
  have hops : sumOperators.contains op.operator = isSum op := by cases op <;> rfl
  have hoperator : (sumOperators.contains op.operator &&
      (!isSum op || n.text.getLast? != some '.')) = (isSum op && n.text.getLast? != some '.') := by
    rw [hops]
    cases isSum op <;> rfl
  rw [lastBinary?_operation, findSome?_reverse_eq_none hright, Option.none_or, binaryAt?_operator,
    hoperator]
  rfl

theorem form?_eq_cut (h : isIntact n.text op m.text = true) :
    form? (operation n.text op m.text) = some (cut n op m) := by
  rw [isIntact, n.hidesSign_text, m.hidesSign_text, Bool.and_eq_true] at h
  obtain ⟨hm, hn⟩ := h
  rw [form?_operation, lastBinary?_sums n m op hm]
  cases hsum : isSum op with
  | true =>
    rw [hsum, if_pos rfl] at hn
    rw [hn]
    rfl
  | false =>
    rw [hsum, if_neg Bool.false_ne_true] at hn
    rw [findSome?_reverse_eq_none (passed_left n m op sumOperators (.inl hn))]
    rfl

/-- A cut at another place has another left side. -/
theorem ne_cut_of_length {op' : Operator} {left right : List Char}
    (h : left.length ≠ n.text.length + 1) : Form.binary op' left right ≠ cut n op m := by
  rintro ⟨⟩
  exact h (by simp)

/-- A right number that is not whole is cut itself. -/
theorem form?_ne_cut_right (hm : m.isWhole = false) :
    form? (operation n.text op m.text) ≠ some (cut n op m) := by
  obtain ⟨op', left, right, hfound, hlow, -⟩ :=
    m.exists_cut (operation_eq_right n m op) (getLast?_front n op) hm
  have hlast : lastBinary? sumOperators (operation n.text op m.text) =
      some (.binary op' left right) := by
    rw [lastBinary?_operation]
    exact congrArg (Option.or · _) hfound
  have hfront : n.text.length + 1 < (front n op).length := by
    simp [front]
  rw [form?_operation, hlast, Option.some_or, Ne, Option.some_inj]
  exact ne_cut_of_length n m op (by omega)

/-- A left number that is not whole is cut itself, where no sum is found behind it. -/
theorem findSome?_ne_cut_left (hn : n.isWhole = false) {other : Option Form} :
    ((n.tokensAt 0).reverse.findSome? (binaryAt? sumOperators (operation n.text op m.text))).or other ≠
      some (cut n op m) := by
  obtain ⟨op', left, right, hfound, -, hhigh⟩ :=
    n.exists_cut (operation_eq_left n m op) (by simp) hn
  have hcut : (n.tokensAt 0).reverse.findSome? (binaryAt? sumOperators (operation n.text op m.text)) =
      some (.binary op' left right) := hfound
  rw [List.length_nil, Nat.zero_add] at hhigh
  rw [hcut, Option.some_or, Ne, Option.some_inj]
  exact ne_cut_of_length n m op (by omega)

theorem form?_ne_cut (h : isIntact n.text op m.text = false) :
    form? (operation n.text op m.text) ≠ some (cut n op m) := by
  rw [isIntact, n.hidesSign_text, m.hidesSign_text] at h
  cases hm : m.isWhole with
  | false => exact form?_ne_cut_right n m op hm
  | true =>
    rw [hm, Bool.true_and] at h
    have hsum : (isSum op && n.text.getLast? != some '.') = false := by
      cases hop : isSum op with
      | false => rfl
      | true =>
        rw [hop, if_pos rfl] at h
        rw [h, Bool.and_false]
    rw [form?_operation, lastBinary?_sums n m op hm, hsum, if_neg Bool.false_ne_true, Option.none_or]
    cases hn : n.isWhole with
    | false => exact findSome?_ne_cut_left n m op hn
    | true =>
      have hop : isSum op = true := by
        rw [hn] at h
        by_contra hop
        rw [if_neg hop] at h
        cases h
      rw [findSome?_reverse_eq_none (passed_left n m op sumOperators (.inl hn)), hop]
      simp

end Form

/-! ## The value of an operation -/

namespace IsUnsigned

variable {a b : List Char} {r ra rb : Except Failure Value}

theorem exists_numeral (h : IsUnsigned a r) : ∃ n : Numeral, n.text = a := by
  refine Operation.exists_numeral ?_ h.unsigned
  by_contra hnumber
  have hreads := h.reads
  rw [Literal.numberValue?, Bool.eq_false_iff.2 hnumber] at hreads
  cases hreads

theorem trim_eq (h : IsUnsigned a r) : trim a = a := by
  obtain ⟨n, rfl⟩ := h.exists_numeral
  have hchar {c : Char} (hc : c ∈ n.text) : isBlank c = false :=
    isBlank_eq_false_of_isNumeralChar (n.isNumeralChar_text hc)
  exact Layout.trim_eq_self_iff.2
    ⟨fun c hc => hchar (List.mem_of_mem_head? hc), fun c hc => hchar (List.mem_of_getLast? hc)⟩

/-- A number is a literal, also with blanks around it. -/
theorem evaluate_eq (h : IsUnsigned a r) {text : List Char} (htext : trim text = a) (e : Engine)
    (scope : Nat) : Expression.evaluate e scope text = Run.ofExcept r := by
  obtain ⟨n, rfl⟩ := h.exists_numeral
  have hquote : ∀ c ∈ n.text, isQuote c = false := by
    intro c hc
    exact isQuote_of_isPlain (isPlain_of_isNumeralChar (n.isNumeralChar_text hc))
  have hne : n.text ≠ [] := by
    obtain ⟨c, rest, hhead, -⟩ := n.exists_head
    rw [hhead]
    exact List.cons_ne_nil c rest
  have hliteral : literal? e scope n.text = some <$> Run.ofExcept r := by
    rw [literal?_eq (not_constant_of_digit n.exists_digit) hquote, h.reads]
  rw [← evaluate_of_literal h.trim_eq hne hliteral]
  exact evaluate_congr (htext.trans h.trim_eq.symm) e scope

end IsUnsigned

/-- **Operations on numbers.** The text of two unsigned numbers with an operator between them is cut
at this operator, into the two numbers, exactly if it is intact. Then it has the value that the
operator gives for the values of the numbers, and fails where they or the operator fail. -/
theorem evaluate_operation {a b : List Char} {ra rb : Except Failure Value} (ha : IsUnsigned a ra)
    (hb : IsUnsigned b rb) (op : ArithmeticOp) :
    (form? (operation a op b) = some (.binary op.operator (a ++ [' ']) (' ' :: b)) ↔
      isIntact a op b = true) ∧
    (isIntact a op b = true → ∀ (e : Engine) (scope : Nat),
      Expression.evaluate e.next scope (operation a op b) = (do
        let v ← Run.ofExcept ra
        let w ← Run.ofExcept rb
        operate op.operator v w)) := by
  obtain ⟨n, rfl⟩ := ha.exists_numeral
  obtain ⟨m, rfl⟩ := hb.exists_numeral
  constructor
  · constructor
    · intro hform
      by_contra hintact
      exact form?_ne_cut n m op (Bool.eq_false_iff.2 hintact) hform
    · exact form?_eq_cut n m op
  · intro hintact e scope
    have hleft : e.next.eval scope (n.text ++ [' ']) = Run.ofExcept ra := by
      refine ha.evaluate_eq ?_ e scope
      rw [Layout.trim_eq, trimEnd_append_space, ← Layout.trim_eq, ha.trim_eq]
    have hright : e.next.eval scope (' ' :: m.text) = Run.ofExcept rb := by
      refine hb.evaluate_eq ?_ e scope
      rw [← List.singleton_append, Layout.trim_append_left isBlank_space, hb.trim_eq]
    rw [(plain_operation n m op).evaluate_eq e.next scope (form?_eq_cut n m op hintact), cut, formValue,
      hleft, hright]

/-- A number with an underscore and one with a signed exponent. -/
theorem evaluate_operation_scaled :
    isIntact "1_000".toList .mul "5e-1".toList = true ∧
    Expression.evaluate (Engine.level 1) 0 "1_000 * 5e-1".toList = (do
      let v ← Run.ofExcept (.ok (Value.int 1000))
      let w ← Run.ofExcept (.ok (Value.float 0.5))
      operate .mul v w) := by
  have hthousand : IsUnsigned "1_000".toList (.ok (.int 1000)) := ⟨rfl, by decide⟩
  have hhalf : IsUnsigned "5e-1".toList (.ok (.float 0.5)) := ⟨rfl, by decide⟩
  exact ⟨by decide, (evaluate_operation hthousand hhalf .mul).2 (by decide) (Engine.level 0) 0⟩

/-- A number that starts with a point: the sign of its exponent is taken for a minus. -/
theorem evaluate_operation_point :
    form? "1 + .5e-3".toList = some (.binary .sub "1 + .5e".toList "3".toList) ∧
    evaluate 0 "1 + .5e-3" {} {} =
      .error (.failed { kind := "TypeError", message := "unsupported operand type(s) for +: 'str'" }) {} := by
  refine ⟨by decide +kernel, ?_⟩
  rfl

end SnippetGrader.Operation
