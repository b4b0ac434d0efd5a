import SnippetGrader.Proofs.Layout.Physical
import SnippetGrader.Proofs.Rendering.Scanning

/-!
# Reading a line

What the reader of source text makes of one line, string literals included: the state in which it
leaves a text, and whether every character stands at a place where a condition admits it. Texts are
read one after the other, and expanding tabs changes neither. The questions that the splitting of a
source asks about a line are answered from the two: whether it is complete, holds a comment, a
header colon or a separator.
-/

namespace SnippetGrader.Source

open Text Layout

theorem Reader.step_unquoted {c : Char} (hc : isQuote c = false) (d : Nat) :
    ∃ d' place, ∀ rest, Reader.step ⟨.code, d⟩ c rest = (⟨.code, d'⟩, place) := by
  by_cases hclose : isCloser c = true
  · exact ⟨d - 1, .code (d - 1), fun rest => by simp [Reader.step, hc, hclose]⟩
  · by_cases hopen : isOpener c = true
    · exact ⟨d + 1, .code d, fun rest => by simp [Reader.step, hc, hclose, hopen]⟩
    · exact ⟨d, .code d, fun rest => by simp [Reader.step, hc, hclose, hopen]⟩

/-- The state in which a text leaves the reader. -/
def Reader.after (r : Reader) : List Char → Reader
  | [] => r
  | c :: rest => (r.step c rest).1.after rest

/-- Whether every character of a text stands at a place where `p` admits it. -/
def Reader.admits (p : Char → Place → Bool) (r : Reader) : List Char → Bool
  | [] => true
  | c :: rest => p c (r.step c rest).2 && (r.step c rest).1.admits p rest

/-- Admits all characters but a `#` in code. -/
def noComment (c : Char) (place : Place) : Bool := place == .quoted || c != '#'

/-- Admits all characters but a separator in code at depth zero. -/
def lacks (sep : Char) (c : Char) (place : Place) : Bool := place != .code 0 || c != sep

theorem Reader.admits_of_forall {p : Char → Place → Bool} {r : Reader} {text : List Char}
    (h : ∀ c ∈ text, ∀ place, p c place = true) : r.admits p text = true := by
  induction text generalizing r with
  | nil => rfl
  | cons c rest ih =>
    rw [Reader.admits, h c List.mem_cons_self, ih fun d hd => h d (List.mem_cons_of_mem c hd)]
    rfl

theorem Reader.admits_mono {p q : Char → Place → Bool}
    (h : ∀ c place, p c place = true → q c place = true) {r : Reader} {text : List Char}
    (hp : r.admits p text = true) : r.admits q text = true := by
  induction text generalizing r with
  | nil => rfl
  | cons c rest ih =>
    rw [Reader.admits, Bool.and_eq_true] at hp ⊢
    exact ⟨h c _ hp.1, ih hp.2⟩

/-! ## The marks ahead of the reader -/

/-- The quotation marks that the reader knows of: those of its mode are marks, and those that it
still expects stand at the start of the text. -/
def Reader.Fits (r : Reader) (text : List Char) : Prop :=
  match r.mode with
  | .code => True
  | .single q | .escaped q | .triple q => isQuote q = true
  | .opening q left => isQuote q = true ∧ 0 < left ∧ List.replicate left q <+: text
  | .closing left => ∃ q, isQuote q = true ∧ 0 < left ∧ List.replicate left q <+: text

theorem tripled_cons (c d : Char) (rest : List Char) :
    tripled c (d :: rest) = (d == c && rest.head? == some c) := by
  cases rest <;> simp [tripled]

theorem tripled_iff {c : Char} {text : List Char} :
    tripled c text = true ↔ List.replicate 2 c <+: text := by
  match text with
  | [] | [a] => simp [tripled, List.replicate]
  | a :: b :: more =>
    simp only [tripled, List.replicate, List.cons_prefix_cons, Bool.and_eq_true, beq_iff_eq,
      List.nil_prefix, and_true, eq_comm (a := c)]

theorem replicate_prefix_tail {q c : Char} {left : Nat} {rest : List Char} (hleft : 1 < left)
    (h : List.replicate left q <+: c :: rest) :
    0 < left - 1 ∧ List.replicate (left - 1) q <+: rest := by
  obtain ⟨left, rfl⟩ : ∃ n, left = n + 1 := ⟨left - 1, by omega⟩
  rw [List.replicate_succ, List.cons_prefix_cons] at h
  exact ⟨by omega, h.2⟩

theorem Reader.Fits.step {r : Reader} {c : Char} {rest : List Char} (h : r.Fits (c :: rest)) :
    (r.step c rest).1.Fits rest := by
  obtain ⟨mode, depth⟩ := r
  cases mode with
  | code =>
    simp only [Reader.step]
    split
    · next hquote =>
      by_cases htripled : tripled c rest = true
      · simpa [Reader.Fits, htripled] using ⟨hquote, tripled_iff.1 htripled⟩
      · simpa [Reader.Fits, htripled] using hquote
    · split
      · trivial
      · split <;> trivial
  | single q =>
    simp only [Reader.step]
    split
    · exact h
    · split
      · trivial
      · exact h
  | escaped q => exact h
  | opening q left =>
    obtain ⟨hquote, -, hmarks⟩ := h
    simp only [Reader.step]
    split
    · exact hquote
    · exact ⟨hquote, replicate_prefix_tail (by omega) hmarks⟩
  | triple q =>
    have hquote : isQuote q = true := h
    simp only [Reader.step]
    split
    · next hclose =>
      rw [Bool.and_eq_true, beq_iff_eq] at hclose
      exact ⟨q, hquote, by decide, hclose.1 ▸ tripled_iff.1 hclose.2⟩
    · exact hquote
  | closing left =>
    obtain ⟨q, hquote, -, hmarks⟩ := h
    simp only [Reader.step]
    split
    · trivial
    · exact ⟨q, hquote, replicate_prefix_tail (by omega) hmarks⟩

/-- The reader looks ahead at quotation marks only. -/
theorem Reader.Fits.step_congr {r : Reader} {c : Char} {rest rest' : List Char}
    (h : r.Fits (c :: rest)) (hmarks : isQuote c = true → tripled c rest' = tripled c rest) :
    r.step c rest' = r.step c rest := by
  obtain ⟨mode, depth⟩ := r
  cases mode with
  | code =>
    by_cases hquote : isQuote c = true
    · simp only [Reader.step, hmarks hquote]
    · simp [Reader.step, hquote]
  | triple q =>
    by_cases hc : c = q
    · have hquote : isQuote c = true := hc ▸ h
      simp only [Reader.step, hmarks hquote]
    · simp [Reader.step, hc]
  | single q | escaped q | opening q left | closing left => rfl

/-! ## One text after the other -/

section Append

variable {b : List Char} (hb : ∀ c ∈ b.head?, isQuote c = false)
include hb

theorem tripled_append {c : Char} (hc : isQuote c = true) (rest : List Char) :
    tripled c (rest ++ b) = tripled c rest := by
  have hhead : (b.head? == some c) = false := by
    rw [beq_eq_false_iff_ne]
    intro hhead
    rw [hb c hhead] at hc
    cases hc
  match rest with
  | [] =>
    cases b with
    | nil => rfl
    | cons d more =>
      have hd : (d == c) = false := by simpa using hhead
      rw [List.nil_append, tripled_cons, hd]
      rfl
  | [d] => rw [List.singleton_append, tripled_cons, tripled_cons, hhead]; rfl
  | d :: e :: more => rfl

theorem Reader.after_append {r : Reader} {a : List Char} (h : r.Fits a) :
    r.after (a ++ b) = (r.after a).after b := by
  induction a generalizing r with
  | nil => rfl
  | cons c rest ih =>
    rw [List.cons_append, Reader.after, h.step_congr fun hc => tripled_append hb hc rest, ih h.step]
    rfl

theorem Reader.admits_append {p : Char → Place → Bool} {r : Reader} {a : List Char}
    (h : r.Fits a) :
    r.admits p (a ++ b) = (r.admits p a && (r.after a).admits p b) := by
  induction a generalizing r with
  | nil => rfl
  | cons c rest ih =>
    rw [List.cons_append, Reader.admits, h.step_congr fun hc => tripled_append hb hc rest,
      ih h.step, ← Bool.and_assoc]
    rfl

end Append

/-! ## Tabs -/

theorem tripled_expandTabsFrom {c : Char} (hc : isQuote c = true) (column : Nat)
    (text : List Char) : tripled c (expandTabsFrom 4 column text) = tripled c text := by
  have hne (d : Char) (hd : isQuote d = false) : c ≠ d := by
    rintro rfl
    rw [hc] at hd
    cases hd
  have hwide (column : Nat) (text : List Char) :=
    head?_expandTabsFrom (hne ' ' (by decide)) (hne '\t' (by decide)) column text
  have hhead (text : List Char) (h : (text.head? == some c) = false) : tripled c text = false := by
    cases text with
    | nil => rfl
    | cons d rest =>
      rw [List.head?_cons, Option.some_beq_some] at h
      rw [tripled_cons, h]
      rfl
  cases text with
  | nil => rfl
  | cons d rest =>
    by_cases htab : d = '\t'
    · have htext : ((d :: rest).head? == some c) = false := by
        rw [beq_eq_false_iff_ne, htab]
        exact fun heq => hne '\t' (by decide) (Option.some.inj heq).symm
      rw [hhead _ htext, hhead _ (by rw [hwide, htext])]
    · obtain ⟨after, hcons⟩ := expandTabsFrom_cons htab column
      rw [hcons, tripled_cons, tripled_cons, hwide]

/-- The state after a blank: the character after a backslash is read. -/
def Reader.settled (r : Reader) : Reader :=
  match r.mode with
  | .escaped q => { r with mode := .single q }
  | _ => r

theorem Reader.settled_settled (r : Reader) : r.settled.settled = r.settled := by
  obtain ⟨mode, depth⟩ := r
  cases mode <;> rfl

section Blank

variable {r : Reader} {c : Char} {rest : List Char} (h : r.Fits (c :: rest))
include h

/-- A reader that may read another character than a mark expects no mark. -/
theorem Reader.Fits.of_unquoted (hc : isQuote c = false) (text : List Char) :
    r.Fits text ∧ r.settled.Fits text := by
  obtain ⟨mode, depth⟩ := r
  have hmark {q : Char} {left : Nat} (hq : isQuote q = true) (hleft : 0 < left)
      (hmarks : List.replicate left q <+: c :: rest) : False := by
    obtain ⟨left, rfl⟩ : ∃ n, left = n + 1 := ⟨left - 1, by omega⟩
    rw [List.replicate_succ, List.cons_prefix_cons] at hmarks
    rw [← hmarks.1, hq] at hc
    cases hc
  cases mode with
  | code => exact ⟨trivial, trivial⟩
  | single q | escaped q | triple q => exact ⟨h, h⟩
  | opening q left => exact (hmark h.1 h.2.1 h.2.2).elim
  | closing left =>
    obtain ⟨q, hq, hleft, hmarks⟩ := h
    exact (hmark hq hleft hmarks).elim

theorem Reader.Fits.step_blank (hc : isBlank c = true) : (r.step c rest).1 = r.settled := by
  have hplain := Rendering.isPlain_of_isBlank hc
  have hslash : (c == '\\') = false := beq_false_of_ne (Rendering.ne_of_isBlank hc (by decide))
  simp only [Rendering.isPlain, Bool.and_eq_true, Bool.not_eq_true'] at hplain
  obtain ⟨⟨hquote, hcloser⟩, hopener⟩ := hplain
  have hne {q : Char} (hq : isQuote q = true) : (c == q) = false := by
    rw [beq_eq_false_iff_ne]
    rintro rfl
    rw [hq] at hquote
    cases hquote
  have hnone := (h.of_unquoted hquote []).1
  obtain ⟨mode, depth⟩ := r
  cases mode with
  | code => simp [Reader.step, hquote, hcloser, hopener, Reader.settled]
  | single q => simp [Reader.step, hslash, hne h, Reader.settled]
  | escaped q => rfl
  | triple q => simp [Reader.step, hne h, Reader.settled]
  | opening q left =>
    obtain ⟨-, hleft, hmarks⟩ := hnone
    rw [List.prefix_nil, List.replicate_eq_nil_iff] at hmarks
    omega
  | closing left =>
    obtain ⟨q, -, hleft, hmarks⟩ := hnone
    rw [List.prefix_nil, List.replicate_eq_nil_iff] at hmarks
    omega

end Blank

/-- The reader passes over spaces, the first of which may follow a backslash. -/
theorem Reader.after_spaces {r : Reader} (h : ∀ text, r.Fits text ∧ r.settled.Fits text) (n : Nat)
    (text : List Char) :
    r.after (List.replicate (n + 1) ' ' ++ text) = r.settled.after text := by
  induction n generalizing r with
  | zero => exact congrArg (Reader.after · text) ((h _).1.step_blank rfl)
  | succ n ih =>
    rw [List.replicate_succ, List.cons_append, Reader.after, (h _).1.step_blank rfl, ih,
      settled_settled]
    intro text
    rw [settled_settled]
    exact ⟨(h text).2, (h text).2⟩

theorem Reader.admits_spaces {p : Char → Place → Bool} (hp : ∀ place, p ' ' place = true)
    {r : Reader} (h : ∀ text, r.Fits text ∧ r.settled.Fits text) (n : Nat) (text : List Char) :
    r.admits p (List.replicate (n + 1) ' ' ++ text) = r.settled.admits p text := by
  induction n generalizing r with
  | zero =>
    rw [List.replicate_one, List.singleton_append, Reader.admits, hp,
      (h _).1.step_blank rfl, Bool.true_and]
  | succ n ih =>
    rw [List.replicate_succ, List.cons_append, Reader.admits, hp, (h _).1.step_blank rfl, ih,
      settled_settled, Bool.true_and]
    intro text
    rw [settled_settled]
    exact ⟨(h text).2, (h text).2⟩

theorem Reader.after_expandTabsFrom {r : Reader} {text : List Char} (h : r.Fits text)
    (column : Nat) : r.after (expandTabsFrom 4 column text) = r.after text := by
  induction text generalizing r column with
  | nil => rfl
  | cons c rest ih =>
    by_cases htab : c = '\t'
    · subst htab
      obtain ⟨n, after, hcons⟩ := expandTabsFrom_tab column
      have hfits := h.of_unquoted rfl
      rw [hcons, after_spaces hfits, ih (hfits rest).2, Reader.after, h.step_blank rfl]
    · obtain ⟨after, hcons⟩ := expandTabsFrom_cons htab column
      rw [hcons, Reader.after, h.step_congr fun hc => tripled_expandTabsFrom hc after rest,
        ih h.step]
      rfl

/-- Expanding tabs does not bring in a character that is not admitted. -/
theorem Reader.admits_expandTabsFrom {p : Char → Place → Bool} (hp : ∀ place, p ' ' place = true)
    {r : Reader} {text : List Char} (h : r.Fits text) (hadmits : r.admits p text = true)
    (column : Nat) : r.admits p (expandTabsFrom 4 column text) = true := by
  induction text generalizing r column with
  | nil => rfl
  | cons c rest ih =>
    rw [Reader.admits, Bool.and_eq_true] at hadmits
    by_cases htab : c = '\t'
    · subst htab
      obtain ⟨n, after, hcons⟩ := expandTabsFrom_tab column
      have hfits := h.of_unquoted rfl
      rw [h.step_blank rfl] at hadmits
      rw [hcons, admits_spaces hp hfits, ih (hfits rest).2 hadmits.2]
    · obtain ⟨after, hcons⟩ := expandTabsFrom_cons htab column
      rw [hcons, Reader.admits, h.step_congr fun hc => tripled_expandTabsFrom hc after rest,
        hadmits.1, ih h.step hadmits.2]
      rfl

/-! ## What a line holds -/

/-- Where no comment starts, the count of open brackets goes on. -/
theorem Reader.comment_eq_false {r : Reader} {c : Char} {rest : List Char}
    (h : noComment c (r.step c rest).2 = true) : (r.mode == .code && c == '#') = false := by
  rw [Bool.and_eq_false_imp, beq_iff_eq]
  intro hmode
  rw [beq_eq_false_iff_ne]
  rintro rfl
  have hplace : (r.step '#' rest).2 = .code r.depth := by
    simp [Reader.step, hmode, isQuote, isCloser, isOpener]
  rw [hplace] at h
  exact absurd h (by simp [noComment])

theorem balanceFrom_eq {r : Reader} {text : List Char} (h : r.admits noComment text = true) :
    balanceFrom r text =
      ⟨(r.after text).depth, match (r.after text).mode with | .triple _ => true | _ => false⟩ := by
  induction text generalizing r with
  | nil => rfl
  | cons c rest ih =>
    rw [Reader.admits, Bool.and_eq_true] at h
    rw [balanceFrom, Reader.comment_eq_false h.1, if_neg (by decide), ih h.2]
    rfl

/-- A text that closes all it opens and does not end in a backslash is complete. -/
theorem isOpen_eq_false {text : List Char} (hcomment : Reader.admits noComment {} text = true)
    (hclosed : Reader.after {} text = {}) (hslash : text.getLast? ≠ some '\\') :
    isOpen text = false := by
  simp [isOpen, balance, balanceFrom_eq hcomment, hclosed, hslash]

theorem find?_comment_eq_none {r : Reader} {text : List Char}
    (h : r.admits noComment text = true) (i : Nat) :
    (scanFrom r i text).find? (fun m => m.char == '#') = none := by
  induction text generalizing r i with
  | nil => rfl
  | cons c rest ih =>
    rw [Reader.admits, Bool.and_eq_true] at h
    have hrest := ih h.2 (i + 1)
    rw [scanFrom]
    generalize r.step c rest = s at h hrest
    obtain ⟨r', place⟩ := s
    cases place with
    | quoted => exact hrest
    | code d =>
      have hc : (c == '#') = false := by simpa [noComment] using h.1
      rw [List.find?_cons, hc]
      exact hrest

theorem stripComment_eq_self {text : List Char} (h : Reader.admits noComment {} text = true) :
    stripComment text = text := by
  rw [stripComment, scan, find?_comment_eq_none h]

section Cut

variable {b : List Char} (hb : ∀ c ∈ b.head?, isQuote c = false)
include hb

/-- A text without the separator at depth zero is passed over. -/
theorem cutTopLevelFrom_append {sep : Char} {r : Reader} {a : List Char} (hfits : r.Fits a)
    (h : r.admits (lacks sep) a = true) (piece : List Char) :
    cutTopLevelFrom sep r piece (a ++ b) =
      cutTopLevelFrom sep (r.after a) (a.reverse ++ piece) b := by
  induction a generalizing r piece with
  | nil => rfl
  | cons c rest ih =>
    rw [Reader.admits, Bool.and_eq_true] at h
    have hplace : (r.step c rest).2 ≠ .code 0 ∨ c ≠ sep := by
      simpa [lacks] using h.1
    have hstep : r.step c (rest ++ b) = ((r.step c rest).1, (r.step c rest).2) :=
      hfits.step_congr fun hc => tripled_append hb hc rest
    rw [List.cons_append, Rendering.cutTopLevelFrom_cons hstep hplace, ih hfits.step h.2,
      List.reverse_cons, List.append_assoc]
    rfl

end Cut

/-- The open piece goes on in the first piece of the text. -/
theorem exists_cutTopLevelFrom (sep : Char) (r : Reader) (piece text : List Char) :
    ∃ front more, cutTopLevelFrom sep r piece text = (piece.reverse ++ front) :: more := by
  induction text generalizing r piece with
  | nil => exact ⟨[], [], by simp [cutTopLevelFrom]⟩
  | cons c rest ih =>
    simp only [cutTopLevelFrom]
    split
    · exact ⟨[], cutTopLevelFrom sep (r.step c rest).1 [] rest, by simp⟩
    · obtain ⟨front, more, hcut⟩ := ih (r.step c rest).1 (c :: piece)
      exact ⟨c :: front, more, by simp [hcut]⟩

/-- A text without the separator at depth zero is not cut. -/
theorem cutTopLevel_eq_singleton {sep : Char} {text : List Char}
    (h : Reader.admits (lacks sep) {} text = true) (hblank : ¬∀ c ∈ text, isBlank c = true) :
    cutTopLevel sep text = [trim text] := by
  have hfits : Reader.Fits {} text := trivial
  have hcut := cutTopLevelFrom_append (b := []) (by simp) hfits h []
  rw [List.append_nil] at hcut
  rw [cutTopLevel, if_neg (by simpa using hblank), hcut]
  simp [cutTopLevelFrom]

/-- Blanks in front of a text are trimmed off its first piece. -/
theorem map_trim_cutTopLevelFrom {sep : Char} {r : Reader} {piece blanks : List Char}
    (h : ∀ c ∈ blanks, isBlank c = true) (text : List Char) :
    (cutTopLevelFrom sep r (piece ++ blanks) text).map trim =
      (cutTopLevelFrom sep r piece text).map trim := by
  have hpiece (piece : List Char) : trim (piece ++ blanks).reverse = trim piece.reverse := by
    have hreverse : ∀ c ∈ blanks.reverse, isBlank c = true := fun c hc => h c (List.mem_reverse.1 hc)
    rw [List.reverse_append, trim_append_left hreverse]
  induction text generalizing r piece with
  | nil => exact congrArg (fun p => [p]) (hpiece piece)
  | cons c rest ih =>
    simp only [cutTopLevelFrom]
    split
    · rw [List.map_cons, List.map_cons, hpiece]
    · rw [← List.cons_append, ih]

/-- Blanks behind a text without literals are trimmed off its last piece. -/
theorem map_trim_cutTopLevelFrom_append {sep : Char} (hsep : isBlank sep = false)
    {text blanks : List Char} (htext : ∀ c ∈ text, isQuote c = false)
    (h : ∀ c ∈ blanks, isBlank c = true) (depth : Nat) (piece : List Char) :
    (cutTopLevelFrom sep ⟨.code, depth⟩ piece (text ++ blanks)).map trim =
      (cutTopLevelFrom sep ⟨.code, depth⟩ piece text).map trim := by
  induction text generalizing depth piece with
  | nil =>
    have hplain : ∀ c ∈ blanks, Rendering.isPlain c = true ∧ c ≠ sep := fun c hc =>
      ⟨Rendering.isPlain_of_isBlank (h c hc), Rendering.ne_of_isBlank (h c hc) hsep⟩
    have hcut := Rendering.cutTopLevelFrom_plain hplain depth piece []
    rw [List.append_nil] at hcut
    have htrim : trim (piece.reverse ++ blanks) = trim piece.reverse :=
      trim_congr (trimEnd_append_blank _ h)
    rw [List.nil_append, hcut]
    simp [cutTopLevelFrom, htrim]
  | cons c rest ih =>
    obtain ⟨d, place, hstep⟩ := Reader.step_unquoted (htext c List.mem_cons_self) depth
    have hrest := ih fun e he => htext e (List.mem_cons_of_mem c he)
    simp only [List.cons_append, cutTopLevelFrom, hstep]
    split
    · rw [List.map_cons, List.map_cons, hrest]
    · exact hrest d _

/-- A text without literals may be trimmed before it is cut. -/
theorem cutTopLevel_trim {sep : Char} (hsep : isBlank sep = false) {text : List Char}
    (h : ∀ c ∈ text, isQuote c = false) : cutTopLevel sep (trim text) = cutTopLevel sep text := by
  obtain ⟨back, hback, hend⟩ := exists_trimEnd (trimStart text)
  have hstart : text = text.takeWhile isBlank ++ trimStart text :=
    List.takeWhile_append_dropWhile.symm
  have hfront : ∀ c ∈ text.takeWhile isBlank, isBlank c = true := fun c hc =>
    List.mem_takeWhile_imp hc
  have hall : (trim text).all isBlank = text.all isBlank := by
    conv_rhs => rw [hstart, hend]
    rw [List.all_append, List.all_append, List.all_eq_true.2 hfront, List.all_eq_true.2 hback,
      Bool.true_and, Bool.and_true]
    rfl
  have hplain : ∀ c ∈ text.takeWhile isBlank, Rendering.isPlain c = true ∧ c ≠ sep := fun c hc =>
    ⟨Rendering.isPlain_of_isBlank (hfront c hc), Rendering.ne_of_isBlank (hfront c hc) hsep⟩
  have htrim : ∀ c ∈ trim text, isQuote c = false := fun c hc => h c (mem_of_mem_trim hc)
  have hcut : (cutTopLevelFrom sep {} [] text).map trim =
      (cutTopLevelFrom sep {} [] (trim text)).map trim := by
    have hblanks : ∀ c ∈ (text.takeWhile isBlank).reverse, isBlank c = true := fun c hc =>
      hfront c (List.mem_reverse.1 hc)
    conv_lhs => rw [hstart, Rendering.cutTopLevelFrom_plain hplain, hend]
    rw [← trim, map_trim_cutTopLevelFrom_append hsep htrim hback, List.append_nil]
    have hdrop : (cutTopLevelFrom sep {} ([] ++ (text.takeWhile isBlank).reverse) (trim text)).map
        trim = (cutTopLevelFrom sep {} [] (trim text)).map trim :=
      map_trim_cutTopLevelFrom hblanks (trim text)
    exact hdrop
  rw [cutTopLevel, cutTopLevel, hall, hcut]

/-! ## The header colon -/

theorem Symbol.colon_not_mem_tail (s : Symbol) : ':' ∉ s.chars.tail := by
  cases s <;> decide

theorem Symbol.at?_prefix {text : List Char} {s : Symbol} (h : Symbol.at? text = some s) :
    s.chars <+: text := by
  unfold Symbol.at? at h
  split at h
  · have hstart := List.find?_some h
    exact List.isPrefixOf_iff_prefix.1 hstart
  · cases h

section Colon

variable {b : List Char} (hb : ∀ c ∈ b.head?, c = ':')
include hb

/-- A symbol that starts before a colon ends before it. -/
theorem Symbol.length_le_of_at? {c : Char} {rest : List Char} {s : Symbol}
    (h : Symbol.at? (c :: (rest ++ b)) = some s) : s.length - 1 ≤ rest.length := by
  by_contra hlong
  have htail : s.chars.tail <+: rest ++ b := by
    have hprefix := Symbol.at?_prefix h
    cases hchars : s.chars with
    | nil => exact List.nil_prefix
    | cons d tail =>
      rw [hchars, List.cons_prefix_cons] at hprefix
      exact hprefix.2
  have hlength : s.chars.tail.length = s.length - 1 := List.length_tail
  obtain ⟨more, hmore⟩ :=
    List.prefix_of_prefix_length_le (List.prefix_append rest b) htail (by omega)
  rw [← hmore, List.prefix_append_right_inj] at htail
  rw [← hmore, List.length_append] at hlength
  obtain ⟨d, more, rfl⟩ := List.exists_cons_of_ne_nil (l := more) (by
    rintro rfl
    rw [List.length_nil] at hlength
    omega)
  obtain ⟨last, rfl⟩ := htail
  refine s.colon_not_mem_tail ?_
  rw [← hmore, ← hb d rfl]
  exact List.mem_append_right rest List.mem_cons_self

/-- No colon is found in a text that has none at depth zero. -/
theorem find?_colon_append {r : Reader} {a : List Char} (hfits : r.Fits a)
    (h : r.admits (lacks ':') a = true) (i : Nat) {skip : Nat} (hskip : skip ≤ a.length) :
    (tokensFrom r i skip (a ++ b)).find? (fun t => t.symbol == .colon) =
      (tokensFrom (r.after a) (i + a.length) 0 b).find? fun t => t.symbol == .colon := by
  have hquote : ∀ c ∈ b.head?, isQuote c = false := by
    intro c hc
    rw [hb c hc]
    rfl
  induction a generalizing r i skip with
  | nil =>
    rw [Nat.le_zero.1 hskip]
    rfl
  | cons c rest ih =>
    rw [Reader.admits, Bool.and_eq_true] at h
    have hstep := hfits.step_congr fun hc => tripled_append hquote hc rest
    have hrest {skip : Nat} (hskip : skip ≤ rest.length) :
        (tokensFrom (r.step c rest).1 (i + 1) skip (rest ++ b)).find?
            (fun t => t.symbol == .colon) =
          (tokensFrom (r.after (c :: rest)) (i + (c :: rest).length) 0 b).find?
            fun t => t.symbol == .colon := by
      rw [ih hfits.step h.2 (i + 1) hskip, List.length_cons, Nat.add_assoc, Nat.add_comm 1]
      rfl
    simp only [List.cons_append, tokensFrom, hstep]
    split
    · exact hrest (by rw [List.length_cons] at hskip; omega)
    · split
      · next s hs =>
        split at hs
        · next hplace =>
          -- the symbol is not a colon, and it is read whole before `b` begins
          have hcolon : (s == .colon) = false := by
            rw [beq_eq_false_iff_ne]
            rintro rfl
            obtain rfl : ':' = c := (List.cons_prefix_cons.1 (Symbol.at?_prefix hs)).1
            rw [beq_iff_eq] at hplace
            rw [hplace] at h
            exact absurd h.1 (by decide)
          rw [List.find?_cons, hcolon]
          exact hrest (Symbol.length_le_of_at? hb hs)
        · cases hs
      · exact hrest (Nat.zero_le _)

end Colon

theorem Reader.fits_code (depth : Nat) (text : List Char) : Reader.Fits ⟨.code, depth⟩ text :=
  trivial

/-- The header colon of a text that has no other colon at depth zero and closes all it opens. -/
theorem headerColon?_append {text : List Char} (h : Reader.admits (lacks ':') {} text = true)
    (hclosed : Reader.after {} text = {}) : headerColon? (text ++ [':']) = some text.length := by
  have hfind := find?_colon_append (b := [':']) (by simp) (Reader.fits_code 0 text) h 0
    (Nat.zero_le _)
  rw [headerColon?, tokens, hfind, hclosed, Nat.zero_add]
  rfl

/-! ## Plain text in front -/

theorem Reader.after_plain {w : List Char} (hw : ∀ c ∈ w, Rendering.isPlain c = true) (depth : Nat)
    (text : List Char) :
    Reader.after ⟨.code, depth⟩ (w ++ text) = Reader.after ⟨.code, depth⟩ text := by
  induction w with
  | nil => rfl
  | cons c w ih =>
    rw [List.cons_append, Reader.after, Rendering.step_plain (hw c List.mem_cons_self)]
    exact ih fun d hd => hw d (List.mem_cons_of_mem c hd)

theorem Reader.admits_plain {p : Char → Place → Bool} {w : List Char}
    (hw : ∀ c ∈ w, Rendering.isPlain c = true ∧ ∀ place, p c place = true) (depth : Nat)
    (text : List Char) :
    Reader.admits p ⟨.code, depth⟩ (w ++ text) = Reader.admits p ⟨.code, depth⟩ text := by
  induction w with
  | nil => rfl
  | cons c w ih =>
    obtain ⟨hplain, hp⟩ := hw c List.mem_cons_self
    rw [List.cons_append, Reader.admits, Rendering.step_plain hplain, hp, Bool.true_and]
    exact ih fun d hd => hw d (List.mem_cons_of_mem c hd)

/-! ## Blanks at the ends -/

theorem isQuote_head?_blanks {blanks : List Char} (h : ∀ c ∈ blanks, isBlank c = true) :
    ∀ c ∈ blanks.head?, isQuote c = false := fun c hc =>
  Rendering.isQuote_of_isPlain (Rendering.isPlain_of_isBlank (h c (List.mem_of_mem_head? hc)))

section Blanks

variable {p : Char → Place → Bool} (hp : ∀ c, isBlank c = true → ∀ place, p c place = true)
include hp

/-- Blanks at the end are no reason not to admit a text. -/
theorem Reader.admits_trimEnd {r : Reader} {text : List Char} (h : r.Fits (trimEnd text)) :
    r.admits p (trimEnd text) = r.admits p text := by
  obtain ⟨blanks, hblanks, htext⟩ := exists_trimEnd text
  conv_rhs => rw [htext, Reader.admits_append (isQuote_head?_blanks hblanks) h,
    Reader.admits_of_forall fun c hc => hp c (hblanks c hc), Bool.and_true]

theorem Reader.admits_trim (text : List Char) :
    Reader.admits p {} (trim text) = Reader.admits p {} text := by
  have hfront : ∀ c ∈ text.takeWhile isBlank,
      Rendering.isPlain c = true ∧ ∀ place, p c place = true := fun c hc =>
    ⟨Rendering.isPlain_of_isBlank (List.mem_takeWhile_imp hc), hp c (List.mem_takeWhile_imp hc)⟩
  rw [trim, Reader.admits_trimEnd hp (Reader.fits_code 0 _)]
  conv_rhs => rw [← List.takeWhile_append_dropWhile (p := isBlank) (l := text),
    Reader.admits_plain hfront]
  rfl

end Blanks

/-! ## Names -/

theorem isWord_of_isName {text : List Char} (h : isName text = true) {c : Char} (hc : c ∈ text) :
    isWord c = true := by
  cases text with
  | nil => cases hc
  | cons d rest =>
    rw [isName, Bool.and_eq_true, List.all_eq_true] at h
    obtain rfl | hc := List.mem_cons.1 hc
    · exact Rendering.isWord_of_isNameStart h.1
    · exact h.2 c hc

theorem trim_of_isName {text : List Char} (h : isName text = true) : trim text = text := by
  have hblank {c : Char} (hc : c ∈ text) : isBlank c = false :=
    Rendering.isBlank_eq_false_of_isWord (isWord_of_isName h hc)
  rw [trim_eq_self_iff]
  exact ⟨fun c hc => hblank (List.mem_of_mem_head? hc),
    fun c hc => hblank (List.mem_of_mem_getLast? hc)⟩

end SnippetGrader.Source
