import SnippetGrader.Proofs.Layout.Pieces
import SnippetGrader.Proofs.Written.Content
import SnippetGrader.Proofs.Written.Quoted

/-!
# Scanning a written content

The reader of source text passes over a written content and comes back to code at the depth at which
it started (`Passes`). On its way it meets characters of texts, whatever they are, only as quoted
ones; in code it meets few characters, and commas only inside brackets. So a written list is
closed by its last bracket, is no comprehension, and is cut into the writings of its items.
-/

namespace SnippetGrader.Written

open Text Source Rendering Layout Expression

/-- A character that a content is written with outside of texts. -/
def isCodeChar (c : Char) : Bool := c.isDigit || "NoneTrueFalse-[], ".toList.contains c

/-- Admits what stands in a list whose items have bracket depth `depth`. -/
def inside (depth : Nat) (c : Char) : Place → Bool
  | .quoted => true
  | .code d => isCodeChar c && depth ≤ d

/-- Admits what a content is written with that starts at bracket depth `depth`. -/
def compact (depth : Nat) (c : Char) : Place → Bool
  | .quoted => true
  | .code d => isCodeChar c && depth ≤ d && (depth != d || (c != ',' && c != ' '))

theorem inside_of_compact {depth : Nat} {c : Char} {place : Place}
    (h : compact depth c place = true) : inside depth c place = true := by
  cases place with
  | quoted => rfl
  | code d =>
    rw [compact, Bool.and_eq_true] at h
    exact h.1

theorem compact_of_inside {depth : Nat} {c : Char} {place : Place}
    (h : inside (depth + 1) c place = true) : compact depth c place = true := by
  cases place with
  | quoted => rfl
  | code d =>
    simp only [inside, compact, Bool.and_eq_true, decide_eq_true_eq, Bool.or_eq_true, bne_iff_ne] at h ⊢
    exact ⟨⟨h.1, by omega⟩, .inl (by omega)⟩

theorem lacks_of_compact {c : Char} {place : Place} (h : compact 0 c place = true) :
    lacks ',' c place = true := by
  cases place with
  | quoted => rfl
  | code d =>
    simp only [compact, Bool.and_eq_true, Bool.or_eq_true, bne_iff_ne] at h
    simp only [lacks, Bool.or_eq_true, bne_iff_ne]
    refine h.2.imp (fun hdeep heq => hdeep ?_) And.left
    cases heq
    rfl

theorem lacks_of_inside {depth : Nat} {c : Char} {place : Place}
    (h : inside depth c place = true) : lacks 'f' c place = true := by
  cases place with
  | quoted => rfl
  | code d =>
    have hne : c ≠ 'f' := by
      rintro rfl
      simp [inside, isCodeChar] at h
    simp [lacks, hne]

/-! ## Texts that the reader passes over -/

/-- The reader that reads a text in code at depth `depth` ends there as well, and `p` admits what it
reads. -/
structure Passes (p : Char → Place → Bool) (depth : Nat) (a : List Char) : Prop where
  after : Reader.after ⟨.code, depth⟩ a = ⟨.code, depth⟩
  admits : Reader.admits p ⟨.code, depth⟩ a = true

namespace Passes

variable {p q : Char → Place → Bool} {depth : Nat} {a b : List Char}

theorem mono (h : Passes p depth a) (hpq : ∀ c place, p c place = true → q c place = true) :
    Passes q depth a :=
  ⟨h.after, Reader.admits_mono hpq h.admits⟩

theorem append (ha : Passes p depth a) (hb : Passes p depth b)
    (hhead : ∀ c ∈ b.head?, isQuote c = false) : Passes p depth (a ++ b) := by
  have hfits := Reader.fits_code depth a
  constructor
  · rw [Reader.after_append hhead hfits, ha.after, hb.after]
  · rw [Reader.admits_append hhead hfits, ha.admits, ha.after, hb.admits]
    rfl

theorem cons {c : Char} (hc : isPlain c = true) (hp : p c (.code depth) = true)
    (h : Passes p depth a) : Passes p depth (c :: a) := by
  constructor
  · rw [Reader.after, step_plain hc, h.after]
  · rw [Reader.admits, step_plain hc, hp, h.admits]
    rfl

theorem plain (h : ∀ c ∈ a, isPlain c = true ∧ p c (.code depth) = true) : Passes p depth a := by
  induction a with
  | nil => exact ⟨rfl, rfl⟩
  | cons c a ih =>
    obtain ⟨hplain, hp⟩ := h c List.mem_cons_self
    exact cons hplain hp (ih fun d hd => h d (List.mem_cons_of_mem c hd))

theorem bracket (k : Bracket) (h : Passes p (depth + 1) a) (hopen : p k.opener (.code depth) = true)
    (hclose : p k.closer (.code depth) = true) :
    Passes p depth (k.opener :: (a ++ [k.closer])) := by
  have hfits := Reader.fits_code (depth + 1) a
  have hhead : ∀ c ∈ [k.closer].head?, isQuote c = false := by
    rintro c ⟨⟩
    cases k <;> rfl
  constructor
  · rw [Reader.after, step_opener, Reader.after_append hhead hfits, h.after, Reader.after,
      step_closer]
    rfl
  · rw [Reader.admits, step_opener, hopen, Reader.admits_append hhead hfits, h.admits, h.after,
      Reader.admits, step_closer, hclose]
    rfl

theorem joinBy {sep : Char} (hsep : isPlain sep = true) (hp : p sep (.code depth) = true)
    (hspace : p ' ' (.code depth) = true) {parts : List (List Char)}
    (h : ∀ a ∈ parts, Passes p depth a) : Passes p depth (joinBy sep parts) := by
  induction parts with
  | nil => exact ⟨rfl, rfl⟩
  | cons a parts ih =>
    have ha := h a List.mem_cons_self
    cases parts with
    | nil => rwa [joinBy_singleton]
    | cons b parts =>
      have hquote : isQuote sep = false := isQuote_of_isPlain hsep
      rw [joinBy_cons_cons]
      exact ha.append (.cons hsep hp (.cons (by decide) hspace
        (ih fun c hc => h c (List.mem_cons_of_mem a hc)))) (by simpa using hquote)

theorem marked (hp : ∀ c, p c .quoted = true) {mark : Char} (hmark : isQuote mark = true)
    {body : List Char} (hbody : LiteralBody mark body) : Passes p depth (marked mark body) := by
  have hslash := (mark_facts hmark).2.2.2.2
  have hopen := hbody.step_marked hmark depth
  have hclose : Reader.step ⟨.single mark, depth⟩ mark [] = (⟨.code, depth⟩, .quoted) := by
    simp [Reader.step, hslash]
  rw [Written.marked]
  constructor
  · rw [Reader.after, hopen, hbody.after_append, Reader.after, hclose]
    rfl
  · rw [Reader.admits, hopen, hp, hbody.admits_append hp, Reader.admits, hclose, hp]
    rfl

theorem quote (hp : ∀ c, p c .quoted = true) (text : List Char) : Passes p depth (quote text) := by
  rw [quote_eq]
  exact marked hp (isQuote_quoteMark text) (literalBody_quote text)

end Passes

/-! ## What is found on the way -/

section Found

variable {a b : List Char} {r : Reader}

/-- No phrase is found in a text that lacks its first character at depth zero. -/
theorem findKeywordFrom_eq_nil {word : String} (next : List String) {first : Char}
    (hword : first ∈ word.toList.head?) (h : r.admits (lacks first) a = true) (i : Nat)
    (before : Option Char) : findKeywordFrom (word :: next) r i before a = [] := by
  induction a generalizing r i before with
  | nil => rfl
  | cons c rest ih =>
    rw [Reader.admits, Bool.and_eq_true] at h
    have hplace : (r.step c rest).2 ≠ .code 0 ∨
        phraseAt? (word :: next) i before (c :: rest) = none := by
      have hlacks : (r.step c rest).2 ≠ .code 0 ∨ c ≠ first := by
        simpa [lacks] using h.1
      refine hlacks.imp_right fun hne => ?_
      have hdrop : dropFront? word.toList (c :: rest) = none := by
        obtain ⟨more, hmore⟩ := List.head?_eq_some_iff.1 hword
        rw [hmore, dropFront?, if_neg (by simpa using hne.symm)]
      cases next <;> simp [phraseAt?, dropPhrase?, hdrop]
    have hstep : r.step c rest = ((r.step c rest).1, (r.step c rest).2) := rfl
    rw [findKeywordFrom_cons hstep hplace, ih h.2]

/-- Admits all characters but closing brackets at depth zero. -/
def noCloser (c : Char) (place : Place) : Bool := place != .code 0 || !isCloser c

theorem noCloser_of_inside {depth : Nat} {c : Char} {place : Place}
    (h : inside (depth + 1) c place = true) : noCloser c place = true := by
  cases place with
  | quoted => rfl
  | code d =>
    have hdeep : d ≠ 0 := by
      simp only [inside, Bool.and_eq_true, decide_eq_true_eq] at h
      omega
    simp [noCloser, hdeep]

theorem find?_closer_append (hb : ∀ c ∈ b.head?, isQuote c = false) (hfits : r.Fits a)
    (h : r.admits noCloser a = true) (i : Nat) :
    (scanFrom r i (a ++ b)).find? (fun m => m.depth == 0 && isCloser m.char) =
      (scanFrom (r.after a) (i + a.length) b).find? fun m => m.depth == 0 && isCloser m.char := by
  induction a generalizing r i with
  | nil => rfl
  | cons c rest ih =>
    rw [Reader.admits, Bool.and_eq_true] at h
    -- the reader looks ahead for marks only, and none of them stands at the start of `b`
    have hrest := ih hfits.step h.2 (i + 1)
    have hstep := hfits.step_congr fun hc => tripled_append hb hc rest
    rw [List.cons_append, scanFrom, hstep, Reader.after, List.length_cons,
      show i + (rest.length + 1) = i + 1 + rest.length by omega, ← hrest]
    have hplace := h.1
    generalize r.step c rest = s at hplace
    obtain ⟨r', place⟩ := s
    cases place with
    | quoted => rfl
    | code d =>
      have hnone : (d == 0 && isCloser c) = false := by
        simpa [noCloser, ← not_or, or_iff_not_imp_left] using hplace
      rw [List.find?_cons]
      simp only [hnone]

end Found

/-! ## Writings -/

def isBareChar (c : Char) : Bool := isPlain c && isCodeChar c && c != ',' && c != ' '

theorem isBareChar_of_isDigit {c : Char} (h : c.isDigit = true) : isBareChar c = true := by
  have hplain := isPlain_of_isWord (isWord_of_isDigit h)
  have hne {d : Char} (hd : d.isDigit = false) : c ≠ d := by
    rintro rfl
    rw [hd] at h
    cases h
  simp [isBareChar, hplain, isCodeChar, h, hne (show ','.isDigit = false from rfl),
    hne (show ' '.isDigit = false from rfl)]

theorem passes_bare {depth : Nat} {a : List Char} (h : a.all isBareChar = true) :
    Passes (compact depth) depth a := by
  refine .plain fun c hc => ?_
  have hbare := List.all_eq_true.1 h c hc
  simp only [isBareChar, Bool.and_eq_true, bne_iff_ne] at hbare
  obtain ⟨⟨⟨hplain, hcode⟩, hcomma⟩, hspace⟩ := hbare
  exact ⟨hplain, by simp [compact, hcode, hcomma, hspace]⟩

namespace Content

theorem text_ne_nil (t : Content) : t.text ≠ [] := by
  cases t with
  | none => decide
  | bool b => cases b <;> decide
  | int n short =>
    rw [text]
    exact List.append_ne_nil_of_right_ne_nil _ Nat.toDigits_ne_nil
  | str s =>
    rw [text, quote_eq]
    exact List.cons_ne_nil _ _
  | list items =>
    rw [text]
    exact List.cons_ne_nil _ _

theorem mem_text_int {n : Int} {short : n.natAbs < Number.tenPow Number.maxDigits} {c : Char}
    (h : c ∈ (int n short).text) : c = '-' ∨ c.isDigit = true := by
  rw [text, List.mem_append] at h
  obtain h | h := h
  · split at h
    · exact .inl (List.mem_singleton.1 h)
    · cases h
  · exact .inr (Nat.isDigit_of_mem_toDigits (by decide) (by decide) h)

/-- The writings of some contents with commas between them. -/
def joined (items : List Content) : List Char := [',', ' '].intercalate (items.map text)

theorem text_list (items : List Content) : (list items).text = '[' :: (joined items ++ [']']) := by
  rw [text, joined, texts_eq_map]

theorem passes_joined {items : List Content} {depth : Nat}
    (h : ∀ t ∈ items, Passes (compact depth) depth t.text) :
    Passes (inside depth) depth (joined items) := by
  refine .joinBy (by decide) (by simp [inside, isCodeChar]) (by simp [inside, isCodeChar]) ?_
  intro a ha
  obtain ⟨t, ht, rfl⟩ := List.mem_map.1 ha
  exact (h t ht).mono fun _ _ => inside_of_compact

/-- **The reader passes over a written content.** -/
theorem passes_text (t : Content) (depth : Nat) : Passes (compact depth) depth t.text := by
  induction t generalizing depth with
  | none => exact passes_bare (by decide)
  | bool b =>
    cases b
    · exact passes_bare (by decide)
    · exact passes_bare (by decide)
  | int n short =>
    refine passes_bare (List.all_eq_true.2 fun c hc => ?_)
    obtain rfl | hdigit := mem_text_int hc
    · decide
    · exact isBareChar_of_isDigit hdigit
  | str s =>
    rw [text]
    exact .quote (fun c => rfl) _
  | list items ih =>
    have hinner := passes_joined fun t ht => ih t ht (depth + 1)
    rw [text_list]
    refine (hinner.mono fun c place => compact_of_inside).bracket .square ?_ ?_
    · simp [compact, isCodeChar, Bracket.opener]
    · simp [compact, isCodeChar, Bracket.closer]

/-! ## Ends -/

theorem ends_of_any {a : List Char} (h : a.any isBlank = false) :
    (∀ c ∈ a.head?, isBlank c = false) ∧ ∀ c ∈ a.getLast?, isBlank c = false := by
  have hall : ∀ c ∈ a, isBlank c = false := by simpa using h
  exact ⟨fun c hc => hall c (List.mem_of_mem_head? hc),
    fun c hc => hall c (List.mem_of_mem_getLast? hc)⟩

theorem ends_enclosed {c : Char} (hc : isBlank c = false) {d : Char} (hd : isBlank d = false)
    (a : List Char) : (∀ x ∈ (c :: (a ++ [d])).head?, isBlank x = false) ∧
      ∀ x ∈ (c :: (a ++ [d])).getLast?, isBlank x = false := by
  constructor
  · rintro x ⟨⟩
    exact hc
  · intro x hx
    rw [← List.cons_append, List.getLast?_concat, Option.mem_some_iff] at hx
    rwa [← hx]

theorem ends_text (t : Content) :
    (∀ c ∈ t.text.head?, isBlank c = false) ∧ ∀ c ∈ t.text.getLast?, isBlank c = false := by
  cases t with
  | none => exact ends_of_any (by decide)
  | bool b =>
    cases b
    · exact ends_of_any (by decide)
    · exact ends_of_any (by decide)
  | int n short =>
    refine ends_of_any (List.any_eq_false.2 fun c hc => ?_)
    obtain rfl | hdigit := mem_text_int hc
    · decide
    · simp [isBlank_eq_false_of_isWord (isWord_of_isDigit hdigit)]
  | str s =>
    have hmark := (quoteMark_facts s.toList).2.2.2.1
    rw [text, quote_eq]
    exact ends_enclosed hmark hmark _
  | list items =>
    rw [text_list]
    exact ends_enclosed (by decide) (by decide) _

theorem trim_text (t : Content) : trim t.text = t.text :=
  trim_eq_self_iff.2 t.ends_text

theorem isPiece_text (t : Content) : IsPiece ',' t.text where
  closed := (t.passes_text 0).after
  lacks := Reader.admits_mono (fun _ _ => lacks_of_compact) (t.passes_text 0).admits
  trimmed := t.trim_text
  ne_nil := t.text_ne_nil

theorem isPiece_map_text (items : List Content) : ∀ a ∈ items.map text, IsPiece ',' a := by
  intro a ha
  obtain ⟨t, -, rfl⟩ := List.mem_map.1 ha
  exact t.isPiece_text

theorem trim_joined (items : List Content) : trim (joined items) = joined items :=
  trim_joinBy (isPiece_map_text items)

/-! ## Lists -/

/-- **A written list is cut into the writings of its items.** -/
theorem cutTopLevel_joined (items : List Content) :
    cutTopLevel ',' (joined items) = items.map text :=
  cutTopLevel_joinBy (isPiece_map_text items) (by decide) (by decide)

/-- **A written list is closed by its last bracket.** -/
theorem isEnclosed_list (items : List Content) : isEnclosed (list items).text = true := by
  have hpasses := passes_joined fun t (_ : t ∈ items) => t.passes_text 1
  have hclosers : Reader.admits noCloser ⟨.code, 1⟩ (joined items) = true :=
    Reader.admits_mono (fun c place => noCloser_of_inside) hpasses.admits
  have hfind := find?_closer_append (b := [']']) (by rintro c ⟨⟩; rfl)
    (Reader.fits_code 1 (joined items)) hclosers 1
  have hscan : (scan (list items).text).tail.find? (fun m => m.depth == 0 && isCloser m.char) =
      some ⟨1 + (joined items).length, ']', 0⟩ := by
    have hopen (rest : List Char) : Reader.step {} '[' rest = (⟨.code, 1⟩, .code 0) := rfl
    have hclose : Reader.step ⟨.code, 1⟩ ']' [] = ({}, .code 0) := rfl
    rw [text_list, scan, scanFrom, hopen]
    simp only [List.tail_cons]
    rw [hfind, hpasses.after, scanFrom, hclose]
    rfl
  rw [isEnclosed, matchingClose, List.drop_zero]
  rw [text_list] at hscan ⊢
  simp [hscan, closerOf?, Nat.add_comm]

/-- **A written list is no comprehension.** -/
theorem comprehension?_joined (items : List Content) : comprehension? (joined items) = .none := by
  have hpasses := passes_joined fun t (_ : t ∈ items) => t.passes_text 0
  -- none of the constants holds the letter that `for` starts with
  have hlacks : Reader.admits (lacks 'f') {} (joined items) = true :=
    Reader.admits_mono (fun c place => lacks_of_inside) hpasses.admits
  have hnone : findKeyword ["for"] (joined items) = [] :=
    findKeywordFrom_eq_nil [] rfl hlacks 0 .none
  rw [comprehension?, hnone]
  rfl

end Content

end SnippetGrader.Written
