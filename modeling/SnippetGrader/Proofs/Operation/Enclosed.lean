import SnippetGrader.Proofs.Operation.Form

/-!
# A name plus a group

The text `x + (e)`: a name, a plus, and any expression in parentheses that closes what it opens. All
of the expression is hidden from the scanning functions by its parentheses, so the plus is the only
symbol, and both operands are evaluated as they are written (`evaluate_sum`).
-/

namespace SnippetGrader.Operation

open Text Source Expression Rendering
open Written (Passes)

/-! ## Groups -/

/-- Admits nothing in code at depth zero. -/
def hidden (_ : Char) (place : Place) : Bool := place != .code 0

def enclosed (e : List Char) : List Char := '(' :: (e ++ [')'])

/-- Hidden text holds no symbols. -/
theorem tokensFrom_hidden {r : Reader} {a b : List Char} (hb : ∀ c ∈ b.head?, isQuote c = false)
    (hfits : r.Fits a) (h : r.admits hidden a = true) (i : Nat) :
    tokensFrom r i 0 (a ++ b) = tokensFrom (r.after a) (i + a.length) 0 b := by
  induction a generalizing r i with
  | nil => rfl
  | cons c rest ih =>
    rw [Reader.admits, Bool.and_eq_true] at h
    have hplace : (r.step c rest).2 ≠ .code 0 := by simpa [hidden] using h.1
    have hstep : r.step c (rest ++ b) = ((r.step c rest).1, (r.step c rest).2) :=
      hfits.step_congr fun hc => tripled_append hb hc rest
    have hrest := ih hfits.step h.2 (i + 1)
    rw [List.cons_append, tokensFrom_cons hstep (.inl hplace), hrest, List.length_cons]
    congr 1
    omega

theorem noCloser_of_hidden {c : Char} {place : Place} (h : hidden c place = true) :
    Written.noCloser c place = true := by
  rw [hidden] at h
  rw [Written.noCloser, h, Bool.true_or]

section Enclosed

variable {e : List Char} (he : Passes hidden 1 e)
include he

theorem passes_enclosed {p : Char → Place → Bool}
    (hhidden : ∀ c place, hidden c place = true → p c place = true)
    (hopen : p '(' (.code 0) = true) (hclose : p ')' (.code 0) = true) :
    Passes p 0 (enclosed e) :=
  (he.mono hhidden).bracket .round hopen hclose

theorem tokensFrom_enclosed (i : Nat) : tokensFrom {} i 0 (enclosed e) = [] := by
  have hhead : ∀ c ∈ [')'].head?, isQuote c = false := by
    rintro c ⟨⟩
    rfl
  have hopen : tokensFrom {} i 0 (enclosed e) = tokensFrom ⟨.code, 1⟩ (i + 1) 0 (e ++ [')']) :=
    tokensFrom_cons (step_opener .round 0 _) (.inr rfl) i
  rw [hopen, tokensFrom_hidden hhead (Reader.fits_code 1 e) he.admits, he.after]
  rfl

theorem matchingClose_enclosed : matchingClose (enclosed e) 0 = some (e.length + 1) := by
  have hhead : ∀ c ∈ [')'].head?, isQuote c = false := by
    rintro c ⟨⟩
    rfl
  have hopen : scan (enclosed e) = ⟨0, '(', 0⟩ :: scanFrom ⟨.code, 1⟩ 1 (e ++ [')']) := rfl
  have hinner := Written.find?_closer_append hhead (Reader.fits_code 1 e)
    (Reader.admits_mono (fun c place => noCloser_of_hidden) he.admits) 1
  have hfind : (scan (enclosed e)).tail.find? (fun m => m.depth == 0 && isCloser m.char) =
      some ⟨1 + e.length, ')', 0⟩ := by
    rw [hopen, List.tail_cons, hinner, he.after]
    rfl
  have hclose : matchingClose (enclosed e) 0 =
      ((scan (enclosed e)).tail.find? fun m => m.depth == 0 && isCloser m.char).bind
        fun m => if m.char == ')' then some (0 + m.index) else none := rfl
  rw [hclose, hfind, Option.bind_some, Nat.zero_add, Nat.add_comm]
  rfl

theorem chain?_enclosed : chain? (enclosed e) = some ⟨.group (enclosed e), []⟩ := by
  have hname : splitName (enclosed e) = ([], enclosed e) := splitName_other (by decide) _
  have hlength : (enclosed e).length = e.length + 1 + 1 := by simp [enclosed]
  have hhead : splitHead? (enclosed e) = some (.group (enclosed e), []) := by
    have hopening : Literal.opening? (enclosed e) = none := rfl
    unfold splitHead?
    rw [hopening]
    simp only [hname, matchingClose_enclosed he, Option.map_some, ← hlength, List.take_length,
      List.drop_length]
    rfl
  rw [chain?, hhead]
  rfl

/-- A group has the value of what stands in it, also after blanks. -/
theorem evaluate_enclosed (E : Engine) (scope : Nat) {blanks : List Char}
    (hblanks : ∀ c ∈ blanks, isBlank c = true) :
    Expression.evaluate E scope (blanks ++ enclosed e) = E.eval scope e := by
  have htrim : trim (enclosed e) = enclosed e :=
    Layout.trim_eq_self_iff.2 (Written.Content.ends_enclosed (by decide) (by decide) e)
  have hspaced : Expression.evaluate E scope (blanks ++ enclosed e) =
      Expression.evaluate E scope (enclosed e) :=
    evaluate_congr (Layout.trim_append_left hblanks _) E scope
  have hwords : String.ofList (enclosed e) ∉ ["None", "True", "False"] :=
    not_constant ⟨'(', List.mem_cons_self, by decide⟩
  have hvalue : Literal.numberValue? (enclosed e) = none := by
    have hnumber : Literal.isNumber (enclosed e) = false := by
      refine isNumber_eq_false_of_head ?_
      rintro c ⟨⟩
      decide
    rw [Literal.numberValue?, hnumber]
    rfl
  have hliteral : literal? E scope (enclosed e) = pure none := by
    rw [literal?_of_opening hwords rfl, hvalue]
    rfl
  have hchain : chainValue? E scope (enclosed e) = some <$> E.eval scope e := by
    have hinner : (enclosed e).tail.dropLast = e := List.dropLast_concat
    rw [chainValue?, chain?_enclosed he]
    simp only [hinner]
  have hne : (enclosed e).isEmpty = false := rfl
  rw [hspaced]
  unfold Expression.evaluate
  simp only [htrim, hne, hliteral, hchain, pure_bind, map_eq_pure_bind, bind_assoc, bind_pure]
  rfl

end Enclosed

/-! ## Texts that start with a name -/

section Name

variable (x : Identifier) {rest : List Char} (hrest : ∀ c ∈ rest.head?, isWord c = false)

theorem isWord_text {c : Char} (hc : c ∈ x.text) : isWord c = true :=
  isWord_of_isName x.isName_text hc

include hrest

theorem splitName_text : splitName (x.text ++ rest) = (x.text, rest) := by
  obtain ⟨c, more, hx, hstart, -⟩ := x.exists_head
  rw [hx]
  exact splitName_word (hx ▸ fun d hd => isWord_text x hd) hstart hrest

theorem dropFront?_text {w : String} (hw : w ∈ reservedWords) {r : List Char}
    (h : dropFront? w.toList (x.text ++ rest) = some r) : r.head?.any isWord = true := by
  have hall : ∀ c ∈ w.toList, isWord c = true := by
    have hwords : reservedWords.all (fun w => w.toList.all isWord) = true := by decide
    exact List.all_eq_true.1 (List.all_eq_true.1 hwords w hw)
  by_contra hstop
  have hr : ∀ c ∈ r.head?, isWord c = false := by
    intro c hc
    rw [Option.mem_def.1 hc] at hstop
    simpa using hstop
  obtain ⟨hname, -⟩ :=
    word_append_inj (fun c => isWord_text x) hall hrest hr (dropFront?_eq_some.1 h)
  refine x.not_reserved ?_
  rwa [hname, String.ofList_toList]

theorem startsWithWord_text {w : String} (hw : w ∈ reservedWords) :
    startsWithWord (x.text ++ rest) w = false := by
  rw [startsWithWord]
  split
  · next c r hdrop =>
    have hword := dropFront?_text x hrest hw hdrop
    simpa using hword
  · next hdrop => exact absurd (dropFront?_text x hrest hw hdrop) (by simp)
  · rfl

/-- No phrase of reserved words starts in a name. -/
theorem findKeyword_text {word : String} (next : List String) (hword : word ∈ reservedWords) :
    ∃ before, findKeyword (word :: next) (x.text ++ rest) =
      findKeywordFrom (word :: next) {} x.text.length before rest := by
  obtain ⟨c, more, hx, -, -⟩ := x.exists_head
  have hc : isWord c = true := isWord_text x (hx ▸ List.mem_cons_self)
  have hmore : ∀ d ∈ more, isWord d = true :=
    fun d hd => isWord_text x (hx ▸ List.mem_cons_of_mem c hd)
  have hnone : phraseAt? (word :: next) 0 none (x.text ++ rest) = none := by
    have hdrop (r : List Char) (h : dropFront? word.toList (x.text ++ rest) = some r) :
        r.head?.any isWord = true :=
      dropFront?_text x hrest hword h
    unfold phraseAt?
    rw [Option.any_none, if_neg Bool.false_ne_true]
    cases next with
    | nil =>
      rw [dropPhrase?]
      cases h : dropFront? word.toList (x.text ++ rest) with
      | none => rfl
      | some r => simp only [hdrop r h, if_true]
    | cons v next =>
      rw [dropPhrase?_eq]
      cases h : dropFront? word.toList (x.text ++ rest) with
      | none => rfl
      | some r =>
        cases r with
        | nil => rfl
        | cons d r =>
          have hd : isWord d = true := by simpa using hdrop _ h
          simp only [isBlank_eq_false_of_isWord hd, Bool.false_eq_true, if_false]
  refine ⟨some (more.getLast?.getD c), ?_⟩
  rw [hx, List.cons_append] at hnone
  rw [findKeyword, hx, List.cons_append,
    findKeywordFrom_cons (step_plain (isPlain_of_isWord hc) 0 _) (.inr hnone),
    findKeywordFrom_inside _ hmore _ hc, List.length_cons]
  congr 1
  omega

end Name

/-- A word before a character that starts no string literal starts none. -/
theorem opening?_word {w : List Char} (hw : ∀ c ∈ w, isWord c = true) {c : Char}
    (hc : isQuote c = false) (hletter : Literal.isOpeningLetter c = false) (rest : List Char) :
    Literal.opening? (w ++ c :: rest) = none := by
  have hfront : ∃ d more, (w ++ c :: rest).dropWhile Literal.isOpeningLetter = d :: more ∧
      isQuote d = false := by
    induction w with
    | nil => exact ⟨c, rest, List.dropWhile_cons_of_neg (by simp [hletter]), hc⟩
    | cons d w ih =>
      by_cases hd : Literal.isOpeningLetter d = true
      · rw [List.cons_append, List.dropWhile_cons_of_pos hd]
        exact ih fun b hb => hw b (List.mem_cons_of_mem d hb)
      · have hquote := isQuote_of_isPlain (isPlain_of_isWord (hw d List.mem_cons_self))
        exact ⟨d, w ++ c :: rest, List.dropWhile_cons_of_neg hd, hquote⟩
  obtain ⟨d, more, hdrop, hd⟩ := hfront
  have hsplit := List.takeWhile_append_dropWhile (p := Literal.isOpeningLetter) (l := w ++ c :: rest)
  have hlength : (w ++ c :: rest).drop
      ((w ++ c :: rest).takeWhile Literal.isOpeningLetter).length = d :: more := by
    rw [← hdrop]
    conv_lhs => arg 2; rw [← hsplit]
    exact List.drop_left
  simp only [Literal.opening?, hlength, hd, Bool.and_false, Bool.false_eq_true, if_false]

/-! ## The sum -/

def sum (x : Identifier) (e : List Char) : List Char := x.text ++ ' ' :: '+' :: ' ' :: enclosed e

section Sum

variable (x : Identifier) {e : List Char} (he : Passes hidden 1 e)
include he

/-- After the name there are only blanks, the plus and parentheses that are not hidden. -/
theorem passes_after_name {p : Char → Place → Bool}
    (hhidden : ∀ c place, hidden c place = true → p c place = true)
    (hp : ∀ c ∈ [' ', '+', '(', ')'], p c (.code 0) = true) :
    Passes p 0 (' ' :: '+' :: ' ' :: enclosed e) := by
  have hgroup : Passes p 0 (enclosed e) :=
    passes_enclosed he hhidden (hp _ (by simp)) (hp _ (by simp))
  exact .cons (by decide) (hp _ (by simp)) (.cons (by decide) (hp _ (by simp))
    (.cons (by decide) (hp _ (by simp)) hgroup))

theorem passes_sum_comma : Passes (lacks ',') 0 (sum x e) := by
  have hname : Passes (lacks ',') 0 x.text := .plain fun c hc => by
    have hne : c ≠ ',' := ne_of_isWord (isWord_text x hc) (by decide)
    exact ⟨isPlain_of_isWord (isWord_text x hc), by simp [lacks, hne]⟩
  have hrest : Passes (lacks ',') 0 (' ' :: '+' :: ' ' :: enclosed e) :=
    passes_after_name he (fun c place h => by rw [hidden] at h; rw [lacks, h, Bool.true_or])
      (List.all_eq_true.1 (by decide))
  refine hname.append hrest ?_
  rintro c ⟨⟩
  rfl

theorem plain_sum : Plain (sum x e) where
  trim_eq := by
    obtain ⟨c, more, hx, hstart, -⟩ := x.exists_head
    refine Layout.trim_eq_self_iff.2 ⟨fun d hd => ?_, fun d hd => ?_⟩
    · rw [sum, hx] at hd
      cases hd
      exact isBlank_eq_false_of_isWord (isWord_of_isNameStart hstart)
    · have hlast : (sum x e).getLast? = some ')' := by
        simp [sum, enclosed, List.getLast?_append, List.getLast?_cons]
      rw [hlast] at hd
      cases hd
      decide
  space_mem := by simp [sum]
  opening := opening?_word (fun c => isWord_text x) (by decide) (by decide) _
  not_list := by
    obtain ⟨c, more, hx, hstart, -⟩ := x.exists_head
    have hne : c ≠ '[' := ne_of_isWord (isWord_of_isNameStart hstart) (by decide)
    simp [sum, hx, hne]
  not_chain := by
    obtain ⟨c, more, hx, -, -⟩ := x.exists_head
    have hname : splitName (sum x e) = (x.text, ' ' :: '+' :: ' ' :: enclosed e) := by
      refine splitName_text x ?_
      rintro c ⟨⟩
      decide
    have hhead : splitHead? (sum x e) = some (.name x.text, ' ' :: '+' :: ' ' :: enclosed e) := by
      have hopening : Literal.opening? (sum x e) = none :=
        opening?_word (fun c => isWord_text x) (by decide) (by decide) _
      have hne : x.text.isEmpty = false := by rw [hx]; rfl
      unfold splitHead?
      rw [hopening]
      simp only [hname, hne, Bool.not_false, if_true]
    rw [chain?, hhead]
    rfl
  lacks_comma := (passes_sum_comma x he).admits

theorem wordless_sum : Wordless (sum x e) where
  uncut := by
    have hreserved : cuttingPhrases.all (fun phrase => match phrase with
        | word :: _ => reservedWords.contains word && word.toList.head?.any isWord
        | [] => false) = true := by
      decide
    intro phrase hphrase
    have hfirst := List.all_eq_true.1 hreserved phrase hphrase
    match phrase, hfirst with
    | word :: next, hfirst =>
      simp only [Bool.and_eq_true, List.contains_iff_mem, Option.any_eq_true] at hfirst
      obtain ⟨hword, first, hhead, hletter⟩ := hfirst
      have hblank : ∀ c ∈ (' ' :: '+' :: ' ' :: enclosed e).head?, isWord c = false := by
        rintro c ⟨⟩
        decide
      obtain ⟨before, hfind⟩ := findKeyword_text x hblank next hword
      have hlacks : Passes (lacks first) 0 (' ' :: '+' :: ' ' :: enclosed e) := by
        have hothers : [' ', '+', '(', ')'].all (fun c => !isWord c) = true := by decide
        refine passes_after_name he (fun c place h => ?_) fun c hc => ?_
        · rw [hidden] at h
          rw [lacks, h, Bool.true_or]
        · have hother : isWord c = false := by simpa using List.all_eq_true.1 hothers c hc
          have hne : c ≠ first := (ne_of_isWord hletter hother).symm
          simp [lacks, hne]
      rw [sum, hfind, Written.findKeywordFrom_eq_nil next hhead hlacks.admits]
  not_lambda := startsWithWord_text x (by rintro c ⟨⟩; decide) (by decide)
  not_negation := startsWithWord_text x (by rintro c ⟨⟩; decide) (by decide)

theorem tokensFrom_sum (i : Nat) :
    tokensFrom {} i 0 (sum x e) = [⟨i + x.text.length + 1, .add⟩] := by
  have hname : ∀ c ∈ x.text ++ [' '], isPlain c = true ∧ Symbol.isSymbolChar c = false := by
    intro c hc
    rw [List.mem_append, List.mem_singleton] at hc
    obtain hc | rfl := hc
    · exact ⟨isPlain_of_isWord (isWord_text x hc), isSymbolChar_eq_false_of_isWord (isWord_text x hc)⟩
    · decide
  have htext : sum x e = (x.text ++ [' ']) ++ (Symbol.add.chars ++ ([' '] ++ enclosed e)) := by
    simp [sum, Symbol.chars]
  have hblank : ∀ c ∈ [' '], isPlain c = true ∧ Symbol.isSymbolChar c = false :=
    List.forall_mem_singleton.2 (by decide)
  rw [htext, tokensFrom_plain hname, tokensFrom_operator rfl, tokensFrom_plain hblank,
    tokensFrom_enclosed he, List.length_append, List.length_singleton, Nat.add_assoc]
  rintro c ⟨⟩
  decide

theorem form?_sum :
    form? (sum x e) = some (.binary .add (x.text ++ [' ']) (' ' :: enclosed e)) := by
  have htokens : tokens (sum x e) = [⟨x.text.length + 1, .add⟩] := by
    rw [tokens, tokensFrom_sum x he, Nat.zero_add]
  have htext : sum x e = (x.text ++ [' ']) ++ '+' :: ' ' :: enclosed e := by simp [sum]
  have hlength : (x.text ++ [' ']).length = x.text.length + 1 := by simp
  have hleft : (sum x e).take (x.text.length + 1) = x.text ++ [' '] := by
    rw [htext]
    exact List.take_left' hlength
  have hright : (sum x e).drop (x.text.length + 1 + 1) = ' ' :: enclosed e := by
    rw [← List.drop_drop, htext, List.drop_left' hlength]
    rfl
  have hjoins : joinsOperands (x.text ++ [' ']) = true := by
    have hlegible : Legible [.name x, .space] := by simp [Legible, Lexeme.Meets, Lexeme.word?]
    have hwriting : writing [.name x, .space] = x.text ++ [' '] := by simp [Lexeme.chars]
    rw [← hwriting, joinsOperands_writing hlegible]
    rfl
  have hblank : (' ' :: enclosed e).all isBlank = false := by
    rw [List.all_eq_false]
    exact ⟨'(', by simp [enclosed], by decide⟩
  have hcut : binaryAt? [.add, .sub] (sum x e) ⟨x.text.length + 1, .add⟩ =
      some (.binary .add (x.text ++ [' ']) (' ' :: enclosed e)) := by
    have hstop : (⟨x.text.length + 1, .add⟩ : Token).stop = x.text.length + 1 + 1 := rfl
    have hop : operatorOf? (⟨x.text.length + 1, .add⟩ : Token).symbol = some .add := rfl
    unfold binaryAt?
    rw [hop, Option.bind_eq_bind, Option.bind_some, hstop, hleft, hright, hjoins, hblank]
    simp
  have hsum : lastBinary? [.add, .sub] (sum x e) =
      some (.binary .add (x.text ++ [' ']) (' ' :: enclosed e)) := by
    rw [lastBinary?, htokens, List.reverse_singleton, List.findSome?_singleton, hcut]
  have hsymbols : ∀ t ∈ tokens (sum x e), comparisonOf? t.symbol = none := by
    rw [htokens]
    simp [comparisonOf?]
  rw [(wordless_sum x he).form?_eq hsymbols, hsum]
  rfl

/-- The sum of a name and a group is the sum of what the two are evaluated to. -/
theorem evaluate_sum (E : Engine) (scope : Nat) :
    Expression.evaluate E.next scope (sum x e) = (do
      let v ← Expression.evaluate E scope x.text
      let w ← E.eval scope e
      Run.operate .add v w) := by
  have hname : E.next.eval scope (x.text ++ [' ']) = Expression.evaluate E scope x.text := by
    refine evaluate_congr ?_ E scope
    rw [Layout.trim_eq, trimEnd_append_space, ← Layout.trim_eq]
  have hgroup : E.next.eval scope (' ' :: enclosed e) = E.eval scope e :=
    evaluate_enclosed he E scope isBlank_space
  rw [(plain_sum x he).evaluate_eq E.next scope (form?_sum x he), formValue, hname, hgroup]

end Sum

end SnippetGrader.Operation
