import SnippetGrader.Proofs.Layout.Physical
import SnippetGrader.Proofs.Rendering.Evaluation

/-!
# Reading a comprehension

A comprehension whose element and whose condition are written trees is cut at its own `for`, `in` and
`if`, also where the trees hold these words themselves: no tree holds `for`, the words in the element
stand before it, and the condition is what follows the first `if` after the source.
-/

namespace SnippetGrader

open Text Source Expression

namespace Rendering

/-! ## A row with other text behind it -/

theorem start_lt_of_mem_phraseSpans {phrase : List String} {i : Nat} {ps : List Lexeme} {s : Span}
    (h : s ∈ phraseSpans phrase i ps) : s.start < i + (writing ps).length := by
  induction ps generalizing i with
  | nil => cases h
  | cons p ps ih =>
    have hlength : (writing (p :: ps)).length = p.chars.length + (writing ps).length := by simp
    have hpos : 0 < p.chars.length := List.length_pos_iff.2 p.chars_ne_nil
    rw [phraseSpans, List.mem_append, Option.mem_toList] at h
    obtain h | h := h
    · obtain ⟨rest, -, rfl⟩ := Option.mem_map.1 h
      dsimp only
      omega
    · have hrest := ih h
      omega

section Word

variable {w : String} (hw : IsPhrase [w])
include hw

/-- A word that stands alone is the word that is looked for, or none. -/
theorem phraseAt?_word {v tail : List Char} (hv : ∀ c ∈ v, isWord c = true)
    (htail : ∀ c ∈ tail.head?, isWord c = false) (i : Nat) {before : Option Char}
    (hbefore : (before.any fun c => isWord c || c == '.') = false) :
    phraseAt? [w] i before (v ++ tail) =
      if v = w.toList then some ⟨i, i + v.length⟩ else none := by
  obtain ⟨-, hall⟩ := hw.2 w List.mem_cons_self
  have hdrop : dropPhrase? [w] (v ++ tail) = dropFront? w.toList (v ++ tail) := rfl
  rw [phraseAt?, hbefore, if_neg Bool.false_ne_true, hdrop]
  by_cases hvw : v = w.toList
  · have hstop := (stops_iff tail).2 htail
    rw [Bool.not_eq_true'] at hstop
    rw [← hvw, dropFront?_eq_some.2 rfl, if_pos rfl]
    simp [hstop]
  · rw [if_neg hvw]
    cases hfound : dropFront? w.toList (v ++ tail) with
    | none => rfl
    | some rest =>
      have hgoes : rest.head?.any isWord = true := by
        by_contra hstop
        have hstop : ∀ c ∈ rest.head?, isWord c = false := (stops_iff rest).1 (by simpa using hstop)
        exact hvw (word_append_inj hv hall htail hstop (dropFront?_eq_some.1 hfound)).1
      simp only [hgoes, if_true]

/-- A search for a word passes over another word. -/
theorem findKeywordFrom_word {v tail : List Char} (hne : v ≠ []) (hv : ∀ c ∈ v, isWord c = true)
    (htail : ∀ c ∈ tail.head?, isWord c = false) (i : Nat) {before : Option Char}
    (hbefore : (before.any fun c => isWord c || c == '.') = false) :
    ∃ before', findKeywordFrom [w] {} i before (v ++ tail) =
      (if v = w.toList then [⟨i, i + v.length⟩] else []) ++
        findKeywordFrom [w] {} (i + v.length) before' tail := by
  obtain ⟨c, more, rfl⟩ := List.exists_cons_of_ne_nil hne
  have hc := hv c List.mem_cons_self
  have hat := phraseAt?_word hw hv htail i hbefore
  have hinside := findKeywordFrom_inside [w] (fun d hd => hv d (List.mem_cons_of_mem c hd)) (i + 1)
    hc tail
  have hlength : i + 1 + more.length = i + (c :: more).length := by
    rw [List.length_cons]
    omega
  refine ⟨some (more.getLast?.getD c), ?_⟩
  rw [← hlength, ← hinside, List.cons_append, findKeywordFrom, step_plain (isPlain_of_isWord hc) 0]
  rw [List.cons_append] at hat
  by_cases hvw : c :: more = w.toList
  · rw [if_pos hvw] at hat ⊢
    simp only [hat, hlength]
    exact rfl
  · rw [if_neg hvw] at hat ⊢
    simp only [hat]
    exact rfl

/-- The spans of a word in a row before a space, and those in the text after it. -/
theorem findKeywordFrom_row {ps : List Lexeme} (h : Legible ps) (rest : List Char) (i : Nat)
    (before : Option Char) (hbefore : ∀ p ∈ ps.head?, p.word? ≠ none →
      (before.any fun c => isWord c || c == '.') = false) :
    findKeywordFrom [w] {} i before (writing ps ++ ' ' :: rest) =
      phraseSpans [w] i ps ++
        findKeywordFrom [w] {} (i + (writing ps).length + 1) (some ' ') rest := by
  induction ps generalizing i before with
  | nil =>
    exact findKeywordFrom_cons (step_plain (by decide) 0 rest)
      (.inr (phraseAt?_eq_none hw (by decide) i before rest))
  | cons p ps ih =>
    have hlength : i + (writing (p :: ps)).length = i + p.chars.length + (writing ps).length := by
      simp
      omega
    rw [writing_cons, List.append_assoc, phraseSpans, ← writing_cons, hlength, List.append_assoc]
    cases hword : p.word? with
    | some v =>
      obtain ⟨hchars, c, more, hv, hall⟩ := Lexeme.word?_eq_some hword
      have htail : ∀ d ∈ (writing ps ++ ' ' :: rest).head?, isWord d = false := by
        intro d hd
        cases ps with
        | nil =>
          cases hd
          decide
        | cons q qs =>
          have hq := h.head?_writing hword (c := d)
          rw [List.head?_append_of_ne_nil _ (writing_ne_nil (List.cons_ne_nil q qs))] at hd
          exact hq hd
      obtain ⟨before', hpassed⟩ := findKeywordFrom_word hw
        (hv ▸ List.cons_ne_nil c more) hall htail i (hbefore p rfl (by simp [hword]))
      have hnext : ∀ q ∈ ps.head?, q.word? ≠ none →
          (before'.any fun c => isWord c || c == '.') = false :=
        fun q hq hne => absurd (h.word?_eq_none hword hq) hne
      rw [hchars, hpassed, ih h.tail _ _ hnext]
      congr 1
      rw [dropWords, hword]
      by_cases hvw : v = w.toList
      · simp [hvw, writing_cons, hchars]
      · simp [hvw]
    | none =>
      obtain ⟨d, hd, hdot, hpassed⟩ := findKeywordFrom_lexeme hw hword i before
        (writing ps ++ ' ' :: rest)
      have hnext : ((some d).any fun c => isWord c || c == '.') = false := by simp [hd, hdot]
      rw [hpassed, ih h.tail _ _ fun _ _ _ => hnext,
        dropWords_eq_none hw.1 (by simp [hword])]
      exact rfl

/-- The spans of a word in two rows with `for` between them. -/
theorem findKeyword_loop {ps qs : List Lexeme} (hps : Legible ps) (hqs : Legible qs) :
    findKeyword [w] (writing ps ++ " for ".toList ++ writing qs) =
      phraseSpans [w] 0 ps ++ ((if "for".toList = w.toList then
        [⟨(writing ps).length + 1, (writing ps).length + 4⟩] else []) ++
          phraseSpans [w] ((writing ps).length + 5) qs) := by
  have hword : ∀ c ∈ "for".toList, isWord c = true := List.all_eq_true.1 (by decide)
  have htail : ∀ c ∈ (' ' :: writing qs).head?, isWord c = false := by
    rintro c ⟨⟩
    decide
  have hrow := findKeywordFrom_row hw hps ("for".toList ++ ' ' :: writing qs) 0 none
    fun _ _ _ => rfl
  have hspace : ((some ' ').any fun c => isWord c || c == '.') = false := by decide
  obtain ⟨before', hfor⟩ := findKeywordFrom_word hw (by decide) hword htail
    ((writing ps).length + 1) hspace
  have hgap : findKeywordFrom [w] {} ((writing ps).length + 4) before' (' ' :: writing qs) =
      findKeywordFrom [w] {} ((writing ps).length + 5) (some ' ') (writing qs) :=
    findKeywordFrom_cons (step_plain (by decide) 0 _)
      (.inr (phraseAt?_eq_none hw (by decide) _ before' _))
  have hclause := findKeywordFrom_writing hw hqs ((writing ps).length + 5) (some ' ')
    fun _ _ _ => by decide
  rw [Nat.zero_add] at hrow
  rw [findKeyword, List.append_assoc]
  refine hrow.trans (congrArg _ (hfor.trans ?_))
  rw [← hclause, ← hgap]
  exact rfl

end Word

end Rendering

open Rendering

theorem Rendering.Tree.writing_regroup (t : Tree) : writing t.regroup.lexemes = t.render :=
  t.regroup.writing_lexemes

/-! ## Comprehensions of trees -/

/-- An element for every item of a list that meets a condition. -/
structure Selection where
  element : Tree
  item : Identifier
  source : Identifier
  condition : Tree

namespace Selection

variable (s : Selection)

def inner : List Char :=
  s.element.render ++ " for ".toList ++
    (s.item.text ++ " in ".toList ++ s.source.text ++ " if ".toList ++ s.condition.render)

/-- The comprehension. -/
def comprehension : List Char := '[' :: (s.inner ++ [']'])

def parts : Comprehension where
  element := s.element.render ++ [' ']
  target := ' ' :: (s.item.text ++ [' '])
  source := ' ' :: (s.source.text ++ [' '])
  condition := some (' ' :: s.condition.render)

/-- The row behind `in`. -/
def tail : List Lexeme :=
  joined [.space, .name s.source] [.keyword .condition] s.condition.regroup.lexemes

def clause : List Lexeme := .name s.item :: .space :: .keyword .member :: s.tail

theorem shape_element : Shape 0 s.element.regroup.lexemes :=
  (Tree.shape _ s.element.grouped_regroup).mono (Nat.zero_le _)

theorem shape_condition : Shape 0 s.condition.regroup.lexemes :=
  (Tree.shape _ s.condition.grouped_regroup).mono (Nat.zero_le _)

theorem shape_clause : Shape 0 s.clause := by
  have hname (x : Identifier) : Shape 0 [.name x] := (Shape.single rfl).mono (Nat.zero_le _)
  have hsource : Shape 0
      (joined [.name s.source] [.keyword .condition] s.condition.regroup.lexemes) :=
    (hname s.source).joined (.keyword _) s.shape_condition (fun _ _ => Nat.zero_le _)
      fun h => absurd h (by omega)
  exact (hname s.item).joined (.keyword _) hsource (fun _ _ => Nat.zero_le _)
    fun h => absurd h (by omega)

theorem inner_eq : s.inner =
    writing s.element.regroup.lexemes ++ " for ".toList ++ writing s.clause := by
  rw [inner, s.element.writing_regroup, clause, tail]
  simp [writing_joined, Lexeme.chars, Keyword.text, s.condition.writing_regroup]

theorem lacks_reserved {w : String} (hw : w ∈ reservedWords) {ps : List Lexeme}
    (hps : ∀ p ∈ ps, ∀ k, p ≠ .keyword k) : Lacks w ps := by
  intro p hp hword
  obtain ⟨k, hk, -⟩ := Lexeme.word?_reserved hw hword
  exact hps p hp k hk

/-- The words in the element stand before the first `for`. -/
theorem findKeyword_for : ∃ spans, findKeyword ["for"] s.inner =
    ⟨s.element.render.length + 1, s.element.render.length + 4⟩ :: spans := by
  have hfor : IsPhrase ["for"] := isPhrase_reserved (by simp) (by decide)
  have hspans := findKeyword_loop hfor s.shape_element.legible s.shape_clause.legible
  rw [phraseSpans_eq_nil (Tree.lacks_for _), s.element.writing_regroup] at hspans
  rw [s.inner_eq, s.element.writing_regroup, hspans]
  exact ⟨_, rfl⟩

/-- The first `in` after `for` stands behind the item. -/
theorem findKeyword_in : ((findKeyword ["in"] s.inner).find? fun span =>
      span.start > s.element.render.length + 4) =
    some ⟨s.element.render.length + 6 + s.item.text.length,
      s.element.render.length + 6 + s.item.text.length + 2⟩ := by
  have hin : IsPhrase ["in"] := isPhrase_reserved (by simp) (by decide)
  have hspans := findKeyword_loop hin s.shape_element.legible s.shape_clause.legible
  have hfront : ((phraseSpans ["in"] 0 s.element.regroup.lexemes).find? fun span =>
      span.start > s.element.render.length + 4) = none := by
    rw [List.find?_eq_none]
    intro span hspan
    have hstart := start_lt_of_mem_phraseSpans hspan
    rw [s.element.writing_regroup] at hstart
    simp only [decide_eq_true_eq]
    omega
  have hname : Lacks "in" [.name s.item, .space] := lacks_reserved (by decide) (by simp)
  have hclause : phraseSpans ["in"] (s.element.render.length + 5) s.clause =
      ⟨s.element.render.length + 6 + s.item.text.length,
        s.element.render.length + 6 + s.item.text.length + 2⟩ ::
          phraseSpans ["in"] (s.element.render.length + 6 + s.item.text.length + 2) s.tail := by
    have hspans : phraseSpans ["in"] (s.element.render.length + 5) s.clause = _ :=
      phraseSpans_append hname (s.element.render.length + 5) (.keyword .member :: s.tail)
    have hstart : s.element.render.length + 5 + (writing [.name s.item, .space]).length =
        s.element.render.length + 6 + s.item.text.length := by
      simp [Lexeme.chars]
      omega
    rw [hstart] at hspans
    exact hspans.trans (phraseSpans_keyword .member _ _)
  have hno : ¬ "for".toList = "in".toList := by decide
  rw [s.element.writing_regroup, if_neg hno, List.nil_append, hclause] at hspans
  rw [s.inner_eq, s.element.writing_regroup, hspans, List.find?_append, hfront, Option.none_or,
    List.find?_cons_of_pos]
  simp only [decide_eq_true_eq]
  omega

/-- The first `if` behind `in` stands behind the source. -/
theorem findKeyword_if : ∃ spans, findKeyword ["if"] (writing s.tail) =
    ⟨s.source.text.length + 2, s.source.text.length + 4⟩ :: spans := by
  have hlegible : Legible s.tail := s.shape_clause.legible.tail.tail.tail
  obtain ⟨spans, hspans⟩ := findKeyword_joined (k := .condition) hlegible
    (lacks_reserved (by decide) (by simp))
  have hlength : (writing [.space, .name s.source]).length = s.source.text.length + 1 := by
    simp [Lexeme.chars]
  rw [hlength] at hspans
  exact ⟨spans, hspans⟩

theorem inner_eq_append : s.inner =
    (s.element.render ++ [' ']) ++
      ("for".toList ++ s.parts.target ++ "in".toList ++ writing s.tail) := by
  rw [s.inner_eq, s.element.writing_regroup, clause, parts]
  simp [Lexeme.chars, Keyword.text]

/-- **Reading a comprehension.** -/
theorem comprehension?_inner : comprehension? s.inner = some s.parts := by
  obtain ⟨spans, hfor⟩ := s.findKeyword_for
  obtain ⟨spans', hif⟩ := s.findKeyword_if
  have htext := s.inner_eq_append
  have htarget : s.parts.target.length = s.item.text.length + 2 := by simp [parts]
  have helement : s.inner.take (s.element.render.length + 1) = s.parts.element := by
    rw [htext]
    exact List.take_left' (by simp)
  have hitem : (s.inner.take (s.element.render.length + 6 + s.item.text.length)).drop
      (s.element.render.length + 4) = s.parts.target := by
    have hfront : s.inner = (s.element.render ++ [' '] ++ "for".toList ++ s.parts.target) ++
        ("in".toList ++ writing s.tail) := by
      rw [htext]
      simp only [List.append_assoc]
    rw [hfront, List.take_left' (by simp [htarget]; omega)]
    exact List.drop_left' (by simp)
  have hrest : s.inner.drop (s.element.render.length + 6 + s.item.text.length + 2) =
      writing s.tail := by
    have hfront : s.inner = (s.element.render ++ [' '] ++ "for".toList ++ s.parts.target ++
        "in".toList) ++ writing s.tail := by
      rw [htext]
      simp only [List.append_assoc]
    rw [hfront]
    exact List.drop_left' (by simp [htarget]; omega)
  have hsource : (writing s.tail).take (s.source.text.length + 2) = s.parts.source := by
    have htake := take_joined [.space, .name s.source] [.keyword .condition]
      s.condition.regroup.lexemes
    simpa [Lexeme.chars, tail, parts] using htake
  have hcondition : (writing s.tail).drop (s.source.text.length + 4) =
      ' ' :: s.condition.render := by
    have hdrop := drop_joined [.space, .name s.source] [.keyword .condition]
      s.condition.regroup.lexemes
    simpa [Lexeme.chars, Keyword.text, tail, s.condition.writing_regroup] using hdrop
  rw [comprehension?, hfor]
  simp only [List.head?_cons, Option.bind_eq_bind, Option.bind_some, s.findKeyword_in, hrest, hif,
    helement, hitem, hsource, hcondition]
  exact rfl

theorem balanced_inner : Rendering.Balanced s.inner := by
  have hfor : Rendering.Balanced " for ".toList := .of_plain (List.all_eq_true.1 (by decide))
  rw [s.inner_eq]
  exact ((Balanced.writing _).append hfor).append (Balanced.writing _)

theorem trim_inner : trim s.inner = s.inner := by
  obtain ⟨hhead, -⟩ := Layout.trim_eq_self_iff.1 s.shape_element.trim_writing
  obtain ⟨-, hlast⟩ := Layout.trim_eq_self_iff.1 s.shape_clause.trim_writing
  rw [Layout.trim_eq_self_iff, s.inner_eq]
  constructor
  · rwa [List.append_assoc, List.head?_append_of_ne_nil _ s.shape_element.writing_ne_nil]
  · rwa [List.getLast?_append_of_ne_nil _ s.shape_clause.writing_ne_nil]

theorem evaluate_comprehension (e : Engine) (scope : Nat) :
    Expression.evaluate e scope s.comprehension = comprehend e scope s.parts := by
  rw [comprehension, evaluate_brackets s.balanced_inner, s.trim_inner, listValue,
    s.comprehension?_inner]

end Selection

end SnippetGrader
