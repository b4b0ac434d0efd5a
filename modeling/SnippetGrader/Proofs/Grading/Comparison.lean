import SnippetGrader.Grading.Match
import SnippetGrader.Proofs.Layout.Physical

/-!
# What a matching output has in common with the answer

Whichever way an output is compared, all that a comparison keeps of a text are its words: trimming
and squeezing leave them alone, and the words of a text are the words of its lines. So a match means
equal words, except for the quotation marks of an answer in brackets; and where the words alone are
compared, equal words are a match.
-/

namespace SnippetGrader.Text

open Layout

/-- A text without its blanks. -/
def withoutBlanks (text : List Char) : List Char := text.filter fun c => !isBlank c

/-! ## Words -/

theorem wordsAfter_nil {word : List Char} (h : word ≠ []) : wordsAfter word [] = [word.reverse] := by
  rw [wordsAfter, if_neg (by simpa using h)]

theorem wordsAfter_letter {c : Char} (hc : isBlank c = false) (word rest : List Char) :
    wordsAfter word (c :: rest) = wordsAfter (c :: word) rest := by
  rw [wordsAfter, if_neg (by rw [hc]; exact Bool.false_ne_true)]

/-- **Words are cut at a blank.** All that is used of words follows from this equation. -/
theorem wordsAfter_append_blank {c : Char} (hc : isBlank c = true) (word a b : List Char) :
    wordsAfter word (a ++ c :: b) = wordsAfter word a ++ words b := by
  induction a generalizing word with
  | nil =>
    rw [List.nil_append, wordsAfter, wordsAfter, if_pos hc, words]
    split <;> rfl
  | cons d a ih =>
    rw [List.cons_append, wordsAfter, ih, ih, wordsAfter]
    split
    · split <;> rfl
    · rfl

theorem words_append_blank {c : Char} (hc : isBlank c = true) (a b : List Char) :
    words (a ++ c :: b) = words a ++ words b := wordsAfter_append_blank hc [] a b

theorem words_cons_blank {c : Char} (hc : isBlank c = true) (text : List Char) :
    words (c :: text) = words text := words_append_blank hc [] text

theorem words_append_left {blanks : List Char} (h : ∀ c ∈ blanks, isBlank c = true)
    (text : List Char) : words (blanks ++ text) = words text := by
  induction blanks with
  | nil => rfl
  | cons c blanks ih =>
    rw [List.forall_mem_cons] at h
    rw [List.cons_append, words_cons_blank h.1, ih h.2]

theorem words_append_right {blanks : List Char} (h : ∀ c ∈ blanks, isBlank c = true)
    (text : List Char) : words (text ++ blanks) = words text := by
  cases blanks with
  | nil => rw [List.append_nil]
  | cons c blanks =>
    rw [List.forall_mem_cons] at h
    have hblanks : words blanks = [] := by
      rw [← List.append_nil blanks, words_append_left h.2]
      rfl
    rw [words_append_blank h.1, hblanks, List.append_nil]

theorem words_trim (text : List Char) : words (trim text) = words text := by
  obtain ⟨front, back, hfront, hback, htext⟩ := exists_trim text
  conv_rhs => rw [htext, words_append_left hfront, words_append_right hback]

/-- The words of a text, written one after the other, are all of it that is not blank. -/
theorem flatten_wordsAfter (word text : List Char) :
    (wordsAfter word text).flatten = word.reverse ++ withoutBlanks text := by
  induction text generalizing word with
  | nil => cases word <;> simp [wordsAfter, withoutBlanks]
  | cons c rest ih =>
    by_cases hc : isBlank c = true
    · have hcut := wordsAfter_append_blank hc word [] rest
      rw [List.nil_append] at hcut
      rw [hcut, List.flatten_append, words, ih]
      cases word <;> simp [wordsAfter, withoutBlanks, hc]
    · rw [Bool.not_eq_true] at hc
      rw [wordsAfter_letter hc, ih]
      simp [withoutBlanks, hc]

theorem flatten_words (text : List Char) : (words text).flatten = withoutBlanks text :=
  flatten_wordsAfter [] text

theorem withoutBlanks_trim (text : List Char) : withoutBlanks (trim text) = withoutBlanks text := by
  rw [← flatten_words, words_trim, flatten_words]

/-! ## Squeezed texts -/

theorem squeezeFrom_blank {c : Char} (hc : isBlank c = true) (rest : List Char) :
    squeezeFrom false (c :: rest) = ' ' :: squeezeFrom true rest ∧
      squeezeFrom true (c :: rest) = squeezeFrom true rest := by
  simp [squeezeFrom, hc]

theorem squeezeFrom_letter {c : Char} (hc : isBlank c = false) (inRun : Bool) (rest : List Char) :
    squeezeFrom inRun (c :: rest) = c :: squeezeFrom false rest := by
  simp [squeezeFrom, hc]

theorem wordsAfter_squeezeFrom (text : List Char) :
    (∀ word, wordsAfter word (squeezeFrom false text) = wordsAfter word text) ∧
      words (squeezeFrom true text) = words text := by
  induction text with
  | nil => exact ⟨fun _ => rfl, rfl⟩
  | cons c rest ih =>
    by_cases hc : isBlank c = true
    · obtain ⟨houtside, hinside⟩ := squeezeFrom_blank hc rest
      refine ⟨fun word => ?_, by rw [hinside, ih.2, words_cons_blank hc]⟩
      have hspace := wordsAfter_append_blank (c := ' ') rfl word [] (squeezeFrom true rest)
      have hblank := wordsAfter_append_blank hc word [] rest
      rw [List.nil_append] at hspace hblank
      rw [houtside, hspace, hblank, ih.2]
    · rw [Bool.not_eq_true] at hc
      refine ⟨fun word => ?_, ?_⟩
      · rw [squeezeFrom_letter hc, wordsAfter_letter hc, wordsAfter_letter hc, ih.1]
      · rw [squeezeFrom_letter hc, words, wordsAfter_letter hc, ih.1, words, wordsAfter_letter hc]

theorem words_squeeze (text : List Char) : words (squeeze text) = words text :=
  (wordsAfter_squeezeFrom text).1 []

theorem words_ne_nil {text : List Char} (hne : text ≠ [])
    (hlast : ∀ c ∈ text.getLast?, isBlank c = false) : words text ≠ [] := by
  intro hnil
  have hend : text.getLast hne ∈ withoutBlanks text :=
    List.mem_filter.2 ⟨List.getLast_mem hne, by
      rw [hlast _ (List.getLast?_eq_some_getLast hne)]
      rfl⟩
  rw [← flatten_words, hnil] at hend
  cases hend

/-- What does not end with a blank is squeezed to its words with one space between them. -/
theorem squeezeFrom_eq {text : List Char} (hlast : ∀ c ∈ text.getLast?, isBlank c = false) :
    (∀ word, word ≠ [] →
      word.reverse ++ squeezeFrom false text = [' '].intercalate (wordsAfter word text)) ∧
    squeezeFrom true text = [' '].intercalate (words text) := by
  induction text with
  | nil =>
    refine ⟨fun word hword => ?_, rfl⟩
    rw [wordsAfter_nil hword, List.intercalate_singleton]
    exact List.append_nil _
  | cons c rest ih =>
    by_cases hc : isBlank c = true
    · -- something follows the blank
      have hne : rest ≠ [] := by
        rintro rfl
        rw [hlast c rfl] at hc
        cases hc
      rw [List.getLast?_cons_of_ne_nil hne] at hlast
      obtain ⟨houtside, hinside⟩ := squeezeFrom_blank hc rest
      refine ⟨fun word hword => ?_, by rw [hinside, (ih hlast).2, words_cons_blank hc]⟩
      have hblank := wordsAfter_append_blank hc word [] rest
      rw [List.nil_append, wordsAfter_nil hword, List.singleton_append] at hblank
      rw [houtside, (ih hlast).2, hblank, List.intercalate_cons_of_ne_nil (words_ne_nil hne hlast),
        List.append_assoc]
      rfl
    · rw [Bool.not_eq_true] at hc
      have hrest : ∀ d ∈ rest.getLast?, isBlank d = false := by
        intro d hd
        refine hlast d ?_
        rw [List.getLast?_cons, Option.mem_def.1 hd]
        rfl
      refine ⟨fun word _ => ?_, ?_⟩
      · rw [squeezeFrom_letter hc, wordsAfter_letter hc, ← (ih hrest).1 _ (List.cons_ne_nil c word)]
        simp
      · rw [squeezeFrom_letter hc, words, wordsAfter_letter hc,
          ← (ih hrest).1 _ (List.cons_ne_nil c [])]
        rfl

theorem squeeze_trim (text : List Char) : squeeze (trim text) = [' '].intercalate (words text) := by
  obtain ⟨hhead, hlast⟩ := trim_eq_self_iff.1 (trim_trim text)
  have hopen : squeezeFrom false (trim text) = squeezeFrom true (trim text) := by
    cases htrim : trim text with
    | nil => rfl
    | cons c rest =>
      have hc : isBlank c = false := hhead c (by rw [htrim]; rfl)
      rw [squeezeFrom_letter hc, squeezeFrom_letter hc]
  rw [squeeze, hopen, (squeezeFrom_eq hlast).2, words_trim]

theorem squeeze_trim_eq_iff {a b : List Char} :
    squeeze (trim a) = squeeze (trim b) ↔ words a = words b := by
  refine ⟨fun h => ?_, fun h => by rw [squeeze_trim, squeeze_trim, h]⟩
  rw [← words_trim a, ← words_squeeze, h, words_squeeze, words_trim]

/-! ## Lines -/

theorem isBlank_of_isLineEnd {c : Char} (h : isLineEnd c = true) : isBlank c = true := by
  simp only [isLineEnd, isBlank, Bool.or_eq_true, Bool.and_eq_true, decide_eq_true_eq,
    beq_iff_eq] at h ⊢
  omega

/-- No word goes over the end of a line. -/
theorem flatMap_words_linesAfter (line text : List Char) :
    (linesAfter line text).flatMap words = words (line.reverse ++ text) := by
  fun_induction linesAfter line text with
  | case1 line hline =>
    rw [List.isEmpty_iff] at hline
    rw [hline]
    rfl
  | case2 line hline => simp
  | case3 line rest ih =>
    have hreturn : isBlank '\r' = true := rfl
    have hfeed : isBlank '\n' = true := rfl
    rw [List.flatMap_cons, ih, words_append_blank hreturn, words_cons_blank hfeed]
    rfl
  | case4 line c rest _ hc ih =>
    rw [List.flatMap_cons, ih, words_append_blank (isBlank_of_isLineEnd hc)]
    rfl
  | case5 line c rest _ hc ih =>
    rw [ih, List.reverse_cons, List.append_assoc]
    rfl

theorem flatMap_words_lines (text : List Char) : (lines text).flatMap words = words text :=
  flatMap_words_linesAfter [] text

end SnippetGrader.Text

namespace SnippetGrader.Grading

open Text Layout

theorem flatMap_words_solidLines (text : List Char) :
    (solidLines text).flatMap words = words text := by
  rw [← flatMap_words_lines text, solidLines]
  induction lines text with
  | nil => rfl
  | cons line more ih =>
    rw [List.map_cons, List.flatMap_cons, ← words_trim line, ← ih]
    by_cases hline : trim line = []
    · rw [hline]
      rfl
    · rw [List.filter_cons_of_pos (by simpa using hline), List.flatMap_cons]

theorem withoutBlanks_unifyQuotes (text : List Char) :
    withoutBlanks (unifyQuotes text) = unifyQuotes (withoutBlanks text) := by
  have hkeeps (c : Char) : isBlank (if c == '\'' then '"' else c) = isBlank c := by
    split
    · next hc =>
      rw [beq_iff_eq.1 hc]
      rfl
    · rfl
  have hsame : ((fun c => !isBlank c) ∘ fun c => if c == '\'' then '"' else c) =
      fun c => !isBlank c := funext fun c => congrArg (!·) (hkeeps c)
  rw [unifyQuotes, withoutBlanks, List.filter_map, hsame, unifyQuotes, withoutBlanks]

theorem trim_surrounded {front back : List Char} (hfront : ∀ c ∈ front, isBlank c = true)
    (hback : ∀ c ∈ back, isBlank c = true) (text : List Char) :
    trim (front ++ (text ++ back)) = trim text := by
  rw [trim_append_left hfront]
  exact trim_congr (trimEnd_append_blank text hback)

section Match

variable {actual expected : List Char}

theorem words_eq_of_outputMatches (hplain : isBracketed (trim expected) = false)
    (h : outputMatches actual expected = true) : words actual = words expected := by
  simp only [outputMatches, hplain, Bool.false_eq_true, if_false] at h
  split at h
  · rw [← words_trim actual, ← flatMap_words_solidLines, beq_iff_eq.1 h, flatMap_words_solidLines,
      words_trim]
  · exact squeeze_trim_eq_iff.1 (beq_iff_eq.1 h)

theorem unifyQuotes_eq_of_outputMatches (h : outputMatches actual expected = true) :
    unifyQuotes (withoutBlanks actual) = unifyQuotes (withoutBlanks expected) := by
  cases hplain : isBracketed (trim expected) with
  | false => rw [← flatten_words, words_eq_of_outputMatches hplain h, flatten_words]
  | true =>
    simp only [outputMatches, hplain, if_true] at h
    rw [← withoutBlanks_trim, ← withoutBlanks_unifyQuotes, beq_iff_eq.1 h, withoutBlanks_unifyQuotes,
      withoutBlanks_trim]

theorem outputMatches_of_words_eq (hplain : isBracketed (trim expected) = false)
    (hline : '\n' ∉ trim expected) (h : words actual = words expected) :
    outputMatches actual expected = true := by
  simp only [outputMatches, hplain, Bool.false_eq_true, if_false]
  rw [if_neg (by simpa using hline)]
  exact beq_iff_eq.2 (squeeze_trim_eq_iff.2 h)

end Match

/-- **What a match means.** Texts that match are the same without their blanks, up to the kind of
quotation marks, and have the same words unless the answer stands in brackets. An answer of one line
that does not stand in brackets is matched by every text with the same words. Blanks around either
text play no part. -/
theorem outputMatches_soundness (actual expected : List Char) :
    (outputMatches actual expected = true →
      unifyQuotes (withoutBlanks actual) = unifyQuotes (withoutBlanks expected) ∧
      (isBracketed (trim expected) = false → words actual = words expected)) ∧
    (isBracketed (trim expected) = false → '\n' ∉ trim expected → words actual = words expected →
      outputMatches actual expected = true) ∧
    ∀ a b c d : List Char, (∀ x ∈ a, isBlank x = true) → (∀ x ∈ b, isBlank x = true) →
      (∀ x ∈ c, isBlank x = true) → (∀ x ∈ d, isBlank x = true) →
        outputMatches (a ++ (actual ++ b)) (c ++ (expected ++ d)) = outputMatches actual expected := by
  refine ⟨fun h => ⟨unifyQuotes_eq_of_outputMatches h, fun hplain =>
    words_eq_of_outputMatches hplain h⟩, outputMatches_of_words_eq, fun a b c d ha hb hc hd => ?_⟩
  rw [outputMatches, trim_surrounded ha hb, trim_surrounded hc hd]
  rfl

/-- The words of an answer in brackets may differ from those of a matching output. -/
example : outputMatches "['a', 'b']".toList "[\"a\", \"b\"]".toList = true ∧
    words "['a', 'b']".toList ≠ words "[\"a\", \"b\"]".toList := by decide +kernel

end SnippetGrader.Grading
