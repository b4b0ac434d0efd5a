import SnippetGrader.Proofs.Layout.Cutting
import SnippetGrader.Proofs.Scanning.Marks

/-!
# Literals, comments and open brackets

The scan, the length of a literal, the search for a comment and the count of open brackets go through
a text each in its own way, and they agree. The scan and the count go on where the literal ends; the
comment starts at the first `#` of code, where the count stops, so a text without its comment leaves
the same open as the whole text; and the number of open brackets is what the last mark of code shows.
-/

namespace SnippetGrader.Source

open Text Layout

/-! ## Literals -/

theorem Reader.depth_step_of_mode_ne {r : Reader} (h : r.mode ≠ .code) (c : Char)
    (rest : List Char) : (r.step c rest).1.depth = r.depth := by
  obtain ⟨mode, depth⟩ := r
  cases mode with
  | code => exact absurd rfl h
  | single q | escaped q | opening q left | triple q | closing left => rfl

/-- The mode of the reader does not depend on the brackets that are open. -/
theorem Reader.mode_step (mode : Mode) (d d' : Nat) (c : Char) (rest : List Char) :
    (Reader.step ⟨mode, d⟩ c rest).1.mode = (Reader.step ⟨mode, d'⟩ c rest).1.mode := by
  cases mode with
  | code => simp only [Reader.step]; split_ifs <;> rfl
  | single q | escaped q | opening q left | triple q | closing left => rfl

theorem literalLengthFrom_depth (mode : Mode) (d d' n : Nat) (text : List Char) :
    literalLengthFrom ⟨mode, d⟩ n text = literalLengthFrom ⟨mode, d'⟩ n text := by
  induction text generalizing mode d d' n with
  | nil => rfl
  | cons c rest ih =>
    have hmode := Reader.mode_step mode d d' c rest
    have hrest := ih (Reader.step ⟨mode, d⟩ c rest).1.mode (Reader.step ⟨mode, d⟩ c rest).1.depth
      (Reader.step ⟨mode, d'⟩ c rest).1.depth (n + 1)
    rw [literalLengthFrom, literalLengthFrom, ← hmode]
    split
    · rfl
    · rw [hrest, hmode]

theorem literalLengthFrom_eq (r : Reader) (n : Nat) (text : List Char) :
    literalLengthFrom r n text = literalLengthFrom r 0 text + n := by
  induction text generalizing r n with
  | nil => exact (Nat.zero_add n).symm
  | cons c rest ih =>
    simp only [literalLengthFrom]
    split
    · omega
    · rw [ih _ (n + 1), ih _ (0 + 1)]
      omega

/-- Behind `n` characters of a literal the scan goes on in code, at the same depth. So does the count
of open brackets, unless the literal is one between triple marks that has no end. -/
structure PassesLiteral (r : Reader) (n : Nat) (text : List Char) : Prop where
  scan : ∀ i, scanFrom r i text = scanFrom ⟨.code, r.depth⟩ (i + n) (text.drop n)
  balance : balanceFrom r text = balanceFrom ⟨.code, r.depth⟩ (text.drop n) ∨
    text.drop n = [] ∧ balanceFrom r text = ⟨r.depth, true⟩

theorem PassesLiteral.cons {r : Reader} {c : Char} {rest : List Char} {n : Nat}
    (hplace : (r.step c rest).2 = .quoted) (hdepth : (r.step c rest).1.depth = r.depth)
    (h : PassesLiteral (r.step c rest).1 n rest) : PassesLiteral r (n + 1) (c :: rest) where
  scan i := by
    have hindex : i + (n + 1) = i + 1 + n := by omega
    rw [scanFrom_cons, hplace, h.scan, hdepth, hindex, List.drop_succ_cons]
    rfl
  balance := by
    rw [balanceFrom, Reader.comment_eq_false (by rw [hplace]; rfl), if_neg Bool.false_ne_true,
      List.drop_succ_cons, ← hdepth]
    exact h.balance

theorem passesLiteral_of_mode_ne {r : Reader} (h : r.mode ≠ .code) (text : List Char) :
    PassesLiteral r (literalLengthFrom r 0 text) text := by
  induction text generalizing r with
  | nil =>
    refine ⟨fun i => rfl, ?_⟩
    obtain ⟨mode, depth⟩ := r
    cases mode with
    | triple q => exact .inr ⟨rfl, rfl⟩
    | code | single q | escaped q | opening q left | closing left => exact .inl rfl
  | cons c rest ih =>
    have hplace := Reader.step_of_mode_ne h c rest
    have hdepth := Reader.depth_step_of_mode_ne h c rest
    rw [literalLengthFrom]
    by_cases hcode : (r.step c rest).1.mode = .code
    · have hnext : (r.step c rest).1 = ⟨.code, r.depth⟩ := by rw [← hcode, ← hdepth]
      rw [if_pos (beq_iff_eq.2 hcode)]
      refine .cons hplace hdepth ?_
      rw [hnext]
      exact ⟨fun i => rfl, .inl rfl⟩
    · rw [if_neg (by simpa using hcode), literalLengthFrom_eq]
      exact .cons hplace hdepth (ih hcode)

/-- **Where a literal ends.** Its length is what the scan and the count pass over. -/
theorem passesLiteral_of_isQuote {c : Char} (hquote : isQuote c = true) (d : Nat)
    (rest : List Char) :
    PassesLiteral ⟨.code, d⟩ (literalLength (c :: rest)) (c :: rest) := by
  obtain ⟨mode, hmode, hstep⟩ : ∃ mode ≠ Mode.code,
      ∀ d, Reader.step ⟨.code, d⟩ c rest = (⟨mode, d⟩, .quoted) :=
    ⟨if tripled c rest then .opening c 2 else .single c, by split <;> simp,
      fun d => by rw [Reader.step, if_pos hquote]⟩
  have hlength : literalLength (c :: rest) = literalLengthFrom ⟨mode, d⟩ 0 rest + 1 := by
    rw [literalLength, literalLengthFrom, hstep, if_neg (by simpa using hmode),
      literalLengthFrom_eq, literalLengthFrom_depth mode 0 d]
  rw [hlength]
  refine .cons (by rw [hstep]) (by rw [hstep]) ?_
  rw [hstep]
  exact passesLiteral_of_mode_ne hmode rest

/-! ## Open brackets -/

/-- The number of brackets that are open behind a mark. -/
def Mark.leaves (m : Mark) : Nat := if isOpener m.char then m.depth + 1 else m.depth

/-- The number of brackets that are open behind the last one of some marks, or `depth` if there is
none. -/
def openBehind (depth : Nat) (marks : List Mark) : Nat :=
  (marks.getLast?.map Mark.leaves).getD depth

theorem Reader.depth_step (r : Reader) (i : Nat) (c : Char) (rest : List Char) :
    (r.step c rest).1.depth = openBehind r.depth ((r.step c rest).2.marks i c) := by
  by_cases hmode : r.mode = .code
  · obtain ⟨mode, depth⟩ := r
    obtain rfl : mode = .code := hmode
    by_cases hquote : isQuote c = true
    · simp [Reader.step, hquote, Place.marks, openBehind]
    by_cases hcloser : isCloser c = true
    · have hopener : isOpener c = false := by
        simp only [isCloser, Bool.or_eq_true, beq_iff_eq] at hcloser
        obtain (rfl | rfl) | rfl := hcloser <;> rfl
      simp [Reader.step, hquote, hcloser, Place.marks, openBehind, Mark.leaves, hopener]
    by_cases hopener : isOpener c = true
    · simp [Reader.step, hquote, hcloser, hopener, Place.marks, openBehind, Mark.leaves]
    · simp [Reader.step, hquote, hcloser, hopener, Place.marks, openBehind, Mark.leaves]
  · rw [Reader.step_of_mode_ne hmode, Reader.depth_step_of_mode_ne hmode]
    rfl

/-- The last mark of a text shows how many brackets the reader has open. -/
theorem Reader.depth_after (r : Reader) (i : Nat) (text : List Char) :
    (r.after text).depth = openBehind r.depth (scanFrom r i text) := by
  induction text generalizing r i with
  | nil => rfl
  | cons c rest ih =>
    rw [Reader.after, ih _ (i + 1), Reader.depth_step r i, scanFrom_cons, openBehind, openBehind,
      openBehind, List.getLast?_append]
    cases (scanFrom (r.step c rest).1 (i + 1) rest).getLast? with
    | none => rfl
    | some m => rfl

/-! ## The comment -/

section Append

variable {a b : List Char} (hb : ∀ c ∈ b.head?, isQuote c = false)
include hb

/-- A text is scanned piece by piece. -/
theorem scanFrom_append {r : Reader} (h : r.Fits a) (i : Nat) :
    scanFrom r i (a ++ b) = scanFrom r i a ++ scanFrom (r.after a) (i + a.length) b := by
  induction a generalizing r i with
  | nil => rfl
  | cons c rest ih =>
    have hstep : r.step c (rest ++ b) = r.step c rest :=
      h.step_congr fun hc => tripled_append hb hc rest
    have hindex : i + 1 + rest.length = i + (rest.length + 1) := by omega
    rw [List.cons_append, scanFrom_cons, scanFrom_cons, hstep, ih h.step, List.append_assoc,
      List.length_cons, hindex]
    rfl

/-- The count goes on behind a text without a comment. -/
theorem balanceFrom_append {r : Reader} (h : r.Fits a) (hadmits : r.admits noComment a = true) :
    balanceFrom r (a ++ b) = balanceFrom (r.after a) b := by
  induction a generalizing r with
  | nil => rfl
  | cons c rest ih =>
    rw [Reader.admits, Bool.and_eq_true] at hadmits
    have hstep : r.step c (rest ++ b) = r.step c rest :=
      h.step_congr fun hc => tripled_append hb hc rest
    rw [List.cons_append, balanceFrom, Reader.comment_eq_false (by rw [hstep]; exact hadmits.1),
      if_neg Bool.false_ne_true, hstep, ih h.step hadmits.2]
    rfl

end Append

/-- A comment is cut off where the count of open brackets stops. -/
theorem stripComment_of_comment {a : List Char} {d : Nat} (hadmits : Reader.admits noComment {} a = true)
    (hafter : Reader.after {} a = ⟨.code, d⟩) (b : List Char) :
    stripComment (a ++ '#' :: b) = trimEnd a ∧ Source.balance (a ++ '#' :: b) = ⟨d, false⟩ := by
  have hquote : ∀ c ∈ ('#' :: b).head?, isQuote c = false := by
    rintro c ⟨⟩
    rfl
  have hstart := Reader.fits_code 0 a
  constructor
  · have hfind : ((scan (a ++ '#' :: b)).find? fun m => m.char == '#') = some ⟨a.length, '#', d⟩ := by
      rw [scan, scanFrom_append hquote hstart, List.find?_append, find?_comment_eq_none hadmits,
        hafter, Nat.zero_add]
      rfl
    rw [stripComment, hfind]
    dsimp only
    rw [List.take_left]
  · rw [Source.balance, balanceFrom_append hquote hstart hadmits, hafter]
    rfl

/-- A text without its comment has none, and it leaves open what the whole text leaves open. -/
theorem stripComment_spec (text : List Char) :
    Reader.admits noComment {} (stripComment text) = true ∧
      Source.balance text = (Reader.after {} (stripComment text)).balance := by
  have hrefused (c : Char) (place : Place) (h : noComment c place = false) :
      (∃ d, place = .code d) ∧ c = '#' := by
    cases place with
    | quoted => cases h
    | code d => exact ⟨⟨d, rfl⟩, by simpa [noComment] using h⟩
  have hquote (c : Char) (place : Place) (h : noComment c place = false) : isQuote c = false := by
    rw [(hrefused c place h).2]
    rfl
  obtain hadmits | ⟨a, c, b, rfl, hadmits, hcomment⟩ :=
    Reader.admits_or_first hquote (Reader.fits_code 0 text)
  · rw [stripComment_eq_self hadmits]
    exact ⟨hadmits, balanceFrom_eq hadmits⟩
  · obtain ⟨⟨place, hplace⟩, rfl⟩ := hrefused _ _ hcomment
    have hmode : (Reader.after {} a).mode = .code := (Reader.step_code (Prod.ext rfl hplace)).1
    obtain ⟨d, hafter⟩ : ∃ d, Reader.after {} a = ⟨.code, d⟩ := by
      generalize Reader.after {} a = r at hmode
      obtain ⟨mode, d⟩ := r
      obtain rfl : mode = .code := hmode
      exact ⟨d, rfl⟩
    obtain ⟨hstrip, hbalance⟩ := stripComment_of_comment hadmits hafter b
    have hblank (c : Char) (hc : isBlank c = true) (place : Place) : noComment c place = true := by
      simp [noComment, Rendering.ne_of_isBlank hc (d := '#') (by decide)]
    rw [hstrip, hbalance, Reader.admits_trimEnd hblank (Reader.fits_code 0 _),
      Reader.balance_after_trimEnd, hafter]
    exact ⟨hadmits, rfl⟩

/-- **The ways to go through a text agree.** A text that is cut off has the marks before the cut. A
text without its comment has no comment, and as much of it is left open as of the whole text: as many
brackets as its last mark shows. A literal has the length that the scan and the count pass over. -/
theorem scan_agrees (text : List Char) :
    (∀ k, scan (text.take k) = (scan text).filter fun m => m.index < k) ∧
      stripComment (stripComment text) = stripComment text ∧
      Source.balance (stripComment text) = Source.balance text ∧
      (Source.balance text).depth = (Reader.after {} (stripComment text)).depth ∧
      (Source.balance text).depth = openBehind 0 (scan (stripComment text)) ∧
      ∀ c rest d, isQuote c = true →
        PassesLiteral ⟨.code, d⟩ (literalLength (c :: rest)) (c :: rest) := by
  obtain ⟨hadmits, hbalance⟩ := stripComment_spec text
  refine ⟨fun k => ?_, stripComment_eq_self hadmits, ?_, ?_, ?_, fun c rest d hquote => ?_⟩
  · rw [scan, scanFrom_take, Nat.zero_add]
    rfl
  · rw [hbalance, Source.balance, balanceFrom_eq hadmits]
    rfl
  · rw [hbalance]
    rfl
  · rw [hbalance]
    exact Reader.depth_after {} 0 (stripComment text)
  · exact passesLiteral_of_isQuote hquote d rest

/-- A `#` in a literal, a bracket between triple marks, a cut through such marks, and a comment behind
open brackets. -/
theorem scan_agrees_open :
    let text := "f('#', \"\"\"(\"\"\", [1  # ]) '".toList
    let code := "f('#', \"\"\"(\"\"\", [1".toList
    stripComment text = code ∧ scan (text.take 8) = (scan text).filter (fun m => m.index < 8) ∧
      stripComment code = code ∧ Source.balance code = ⟨2, false⟩ ∧ openBehind 0 (scan code) = 2 ∧
      PassesLiteral ⟨.code, 1⟩ 7 (code.drop 7) := by
  intro text code
  obtain ⟨htake, hagain, hbalance, -, hdepth, hliteral⟩ := scan_agrees text
  have hstrip : stripComment text = code := by decide
  have hwhole : Source.balance text = ⟨2, false⟩ := by decide
  rw [hstrip] at hagain hbalance hdepth
  rw [hwhole] at hbalance hdepth
  exact ⟨hstrip, htake 8, hagain, hbalance, hdepth.symm,
    hliteral '"' "\"\"(\"\"\", [1".toList 1 (by decide)⟩

end SnippetGrader.Source
