import SnippetGrader.Proofs.Rendering.Items
import SnippetGrader.Proofs.Termination

/-!
# Evaluating a written tree

A tree that is written with the parentheses it needs is evaluated to what it stands for. The engine
is asked about operands only, which are less deep than the tree; `Tree.evaluate_lexemes` takes one
level of nesting, and induction on the levels of the engine gives the whole evaluation.
-/

namespace SnippetGrader.Rendering

open Text Source Expression

/-! ## Texts -/

theorem evaluate_congr {x y : List Char} (h : trim x = trim y) (e : Engine) (scope : Nat) :
    Expression.evaluate e scope x = Expression.evaluate e scope y := by
  unfold Expression.evaluate
  rw [h]

theorem tupleValue?_eq_none {ps : List Lexeme} (h : .comma ∉ ps) (e : Engine) (scope : Nat) :
    tupleValue? e scope (writing ps) = pure none := by
  have hcut := cutTopLevelFrom_writing h [] []
  rw [List.append_nil, List.append_nil] at hcut
  unfold tupleValue? cutTopLevel
  split
  · next hparts =>
    rw [hcut] at hparts
    split at hparts
    · cases hparts
    · cases hparts
  · rfl

/-- A text with an operator is evaluated by its form. -/
theorem evaluate_compound {k : Nat} {ps : List Lexeme} (h : Shape k ps) (hps : Compound ps)
    (hnumber : Literal.isNumber (writing ps) = false) {f : Form} (hf : form? (writing ps) = some f)
    (e : Engine) (scope : Nat) :
    Expression.evaluate e scope (writing ps) = formValue e scope (writing ps) f := by
  have hword := hps.exists_not_isWord
  have hliteral := literal?_eq_none (not_constant hword)
    (fun c hc => (Balanced.writing ps).not_isQuote hc) hnumber hps.not_list e scope
  have hchain : chainValue? e scope (writing ps) = pure none := by
    rw [chainValue?, hps.chain?_eq_none h.legible]
  have hname : nameValue? scope (writing ps) = pure none := by
    rw [nameValue?, isName_eq_false hword]
    rfl
  have htuple := tupleValue?_eq_none h.comma e scope
  unfold Expression.evaluate
  simp only [h.trim_writing, List.isEmpty_eq_false_iff.2 h.writing_ne_nil, hliteral, hchain, hname,
    htuple, pure_bind, hf]
  rfl

/-! ## Connectives -/

namespace Tree

mutual

/-- How many levels of nesting the evaluation of a tree takes at most. -/
def depth : Tree → Nat
  | number _ | name _ => 0
  | list items => depthAll items + 1
  | group t | minus t | negation t => depth t + 1
  | arithmetic _ l r | comparison _ l r => max (depth l) (depth r) + 1
  -- a chain of connectives is evaluated from its first operand on, one level for each
  | junction _ l r => depth l + depth r + 1
  | conditional condition yes no => max (depth condition) (max (depth yes) (depth no)) + 1

/-- How many levels the evaluation of some trees takes at most. -/
def depthAll : List Tree → Nat
  | [] => 0
  | t :: ts => max (depth t) (depthAll ts)

end

theorem truthy_bind {α : Type} (v : Value) (f : Bool → Run α) (m : Machine) :
    (Run.truthy v >>= f) m = f (v.truthy m.store) m := rfl

/-- It does not matter how a chain of one connective is nested. -/
theorem denote_junction_assoc (scope : Nat) (c : Connective) (a b r : Tree) :
    (junction c (junction c a b) r).denote scope = (junction c a (junction c b r)).denote scope := by
  cases c with
  | both =>
    simp only [denote, bind_assoc]
    refine bind_congr fun v => ?_
    funext m
    rw [truthy_bind, truthy_bind]
    cases hv : v.truthy m.store with
    | true => rfl
    | false =>
      simp only [Bool.false_eq_true, if_false, pure_bind]
      rw [truthy_bind, hv]
      rfl
  | either =>
    simp only [denote, bind_assoc]
    refine bind_congr fun v => ?_
    funext m
    rw [truthy_bind, truthy_bind]
    cases hv : v.truthy m.store with
    | false => rfl
    | true =>
      simp only [if_true, pure_bind]
      rw [truthy_bind, hv]
      rfl

theorem eq_junction {c : Connective} {t : Tree} (h : t.level = c.level) :
    ∃ l r, t = junction c l r := by
  cases t with
  | junction c' l r =>
    obtain rfl : c' = c := by
      revert h
      cases c <;> cases c' <;> simp [level, Connective.level]
    exact ⟨l, r, rfl⟩
  | arithmetic op l r =>
    exact absurd h (by cases op <;> cases c <;> simp [level, Connective.level, ArithmeticOp.level])
  | _ => exact absurd h (by cases c <;> simp [level, Connective.level])

theorem denote_junction_congr {scope : Nat} {c : Connective} {l l' : Tree}
    (h : l.denote scope = l'.denote scope) (r : Tree) :
    (junction c l r).denote scope = (junction c l' r).denote scope := by
  cases c with
  | both | either => rw [denote, denote, h]

/-- A chain of one connective as one whose first operand binds tighter. -/
theorem exists_first (scope : Nat) {c : Connective} {l r : Tree} (h : (junction c l r).Grouped) :
    ∃ a b : Tree, (junction c a b).Grouped ∧ c.level < a.level ∧
      (junction c l r).lexemes = (junction c a b).lexemes ∧
      (junction c l r).denote scope = (junction c a b).denote scope ∧
      a.depth < (junction c l r).depth ∧ b.depth < (junction c l r).depth := by
  induction hn : l.depth using Nat.strong_induction_on generalizing l r with
  | _ n ih =>
    by_cases hl : c.level < l.level
    · refine ⟨l, r, h, hl, rfl, rfl, ?_, ?_⟩
      · rw [depth]
        omega
      · rw [depth]
        omega
    · -- the left operand is a chain of its own, and its first operand is the first of all
      simp only [Grouped] at h
      obtain ⟨hleft, hright, hgrouped, hr⟩ := h
      obtain ⟨l₁, l₂, rfl⟩ := eq_junction (show l.level = c.level by omega)
      have hless : l₁.depth < n := by
        rw [← hn, depth]
        omega
      obtain ⟨a, b, hab, ha, hlexemes, hdenote, hda, hdb⟩ := ih l₁.depth hless hgrouped rfl
      simp only [Grouped] at hab
      obtain ⟨hal, hbl, haGrouped, hbGrouped⟩ := hab
      refine ⟨a, junction c b r, ?_, ha, ?_, ?_, ?_, ?_⟩
      · simp only [Grouped]
        exact ⟨hal, Nat.le_refl _, haGrouped, hbl, hright, hbGrouped, hr⟩
      · rw [lexemes, hlexemes]
        simp only [lexemes]
        rw [joined_joined]
      · rw [denote_junction_congr hdenote, denote_junction_assoc]
      · rw [depth]
        omega
      · rw [depth, depth]
        omega

end Tree

/-! ## One level of nesting -/

/-- A relation between computations that respects their composition. -/
structure Congruence where
  rel : {α : Type} → Run α → Run α → Prop
  refl : {α : Type} → (x : Run α) → rel x x
  bind : {α β : Type} → {x y : Run α} → {f g : α → Run β} → rel x y → (∀ a, rel (f a) (g a)) →
    rel (x >>= f) (y >>= g)

namespace Congruence

def equality : Congruence where
  rel x y := x = y
  refl _ := rfl
  bind {_ _ x y f g} hxy hfg := by
    have hfg : f = g := funext hfg
    rw [hxy, hfg]

/-- The first computation does what the second does, unless there are not enough levels for it. -/
def unlessExhausted : Congruence where
  rel x y := ∀ m, x m = y m ∨ ∃ m', x m = .error (.exhausted .evaluation) m'
  refl _ _ := .inl rfl
  bind {_ _ x y f g} hxy hfg m := by
    rw [Run.bind_eq, Run.bind_eq]
    obtain hx | ⟨m', hx⟩ := hxy m
    · rw [hx]
      cases y m with
      | ok a m' => exact hfg a m'
      | error stop m' => exact .inl rfl
    · rw [hx]
      exact .inr ⟨m', rfl⟩

end Congruence

/-- An engine that evaluates trees of less than a depth, also with blanks around them. -/
def Reads (R : Congruence) (e : Engine) (scope d : Nat) : Prop :=
  ∀ t : Tree, t.Grouped → t.depth < d → ∀ a b : List Char, (∀ c ∈ a, isBlank c = true) →
    (∀ c ∈ b, isBlank c = true) →
      R.rel (e.eval scope (a ++ writing t.lexemes ++ b)) (t.denote scope)

section Reading

variable {R : Congruence} {e : Engine} {scope d : Nat} (he : Reads R e scope d) {t : Tree}
  (h : t.Grouped) (ht : t.depth < d)
include he h ht

theorem Reads.plain : R.rel (e.eval scope (writing t.lexemes)) (t.denote scope) := by
  have hread := he t h ht [] [] (by simp) (by simp)
  rwa [List.nil_append, List.append_nil] at hread

theorem Reads.before : R.rel (e.eval scope (writing t.lexemes ++ [' '])) (t.denote scope) :=
  he t h ht [] [' '] (by simp) isBlank_space

theorem Reads.after : R.rel (e.eval scope (' ' :: writing t.lexemes)) (t.denote scope) := by
  have hread := he t h ht [' '] [] isBlank_space (by simp)
  rwa [List.append_nil] at hread

theorem Reads.between : R.rel (e.eval scope (' ' :: (writing t.lexemes ++ [' '])))
    (t.denote scope) :=
  he t h ht [' '] [' '] isBlank_space isBlank_space

end Reading

theorem evaluate_of_literal {text : List Char} (htrim : trim text = text) (hne : text ≠ [])
    {e : Engine} {scope : Nat} {x : Run Value} (hx : literal? e scope text = some <$> x) :
    Expression.evaluate e scope text = x := by
  unfold Expression.evaluate
  simp only [htrim, List.isEmpty_eq_false_iff.2 hne, hx, map_eq_pure_bind, bind_assoc, pure_bind,
    bind_pure]
  rfl

theorem evaluate_literal {k : Nat} {ps : List Lexeme} (h : Shape k ps) {e : Engine} {scope : Nat}
    {x : Run Value} (hx : literal? e scope (writing ps) = some <$> x) :
    Expression.evaluate e scope (writing ps) = x :=
  evaluate_of_literal h.trim_writing h.writing_ne_nil hx

/-- A text between square brackets is a list, or a comprehension. -/
theorem evaluate_brackets {inner : List Char} (h : Balanced inner) (e : Engine) (scope : Nat) :
    Expression.evaluate e scope ('[' :: (inner ++ [']'])) = listValue e scope (trim inner) := by
  have hbalanced : Balanced ('[' :: (inner ++ [']'])) := .bracket .square h .nil
  have hlast : ∀ c ∈ ('[' :: (inner ++ [']'])).getLast?, isBlank c = false := by
    intro c hc
    rw [← List.cons_append, List.getLast?_concat] at hc
    cases hc
    decide
  have htrim := trim_append (a := []) (b := []) (by simp) (by simp)
    (t := '[' :: (inner ++ [']'])) (by rintro c ⟨⟩; decide) hlast (List.cons_ne_nil _ _)
  rw [List.nil_append, List.append_nil] at htrim
  have hwords : String.ofList ('[' :: (inner ++ [']'])) ∉ ["None", "True", "False"] :=
    not_constant ⟨'[', List.mem_cons_self, by decide⟩
  have hvalue : Literal.numberValue? ('[' :: (inner ++ [']'])) = none := by
    have hnumber : Literal.isNumber ('[' :: (inner ++ [']'])) = false :=
      isNumber_eq_false_of_head (by rintro c ⟨⟩; decide)
    rw [Literal.numberValue?, hnumber]
    exact rfl
  have henclosed : isEnclosed ('[' :: (inner ++ [']'])) = true := by
    have hclose : matchingClose ('[' :: (inner ++ [']'])) 0 = some (inner.length + 1) :=
      h.matchingClose_append [] .square
    rw [isEnclosed, hclose]
    simp
  have hinner : ('[' :: (inner ++ [']'])).tail.dropLast = inner := by
    rw [List.tail_cons, List.dropLast_concat]
  refine evaluate_of_literal htrim (List.cons_ne_nil _ _) ?_
  rw [literal?_eq hwords (fun c hc => hbalanced.not_isQuote hc), hvalue, henclosed, hinner]
  exact rfl

theorem not_isNumber {ps : List Lexeme} (h : .space ∈ ps) :
    Literal.isNumber (writing ps) = false := by
  obtain ⟨front, back, rfl⟩ := List.append_of_mem h
  exact isNumber_eq_false_of_space (by simp [Lexeme.chars])

theorem space_mem_joined (ps mid qs : List Lexeme) : .space ∈ joined ps mid qs := by simp [joined]

namespace Tree

variable (e : Engine) (scope : Nat)

theorem evaluate_number (n : DecimalNumber) :
    Expression.evaluate e scope (writing (number n).lexemes) = (number n).denote scope := by
  have hshape := shape (number n) trivial
  have hwriting : writing (number n).lexemes = n.text := by simp [lexemes, Lexeme.chars]
  have hwords : String.ofList n.text ∉ ["None", "True", "False"] :=
    not_constant_of_digit
      ⟨n.first, List.mem_cons_self, isDecimalDigit_of_isDigit n.first_isDigit⟩
  refine evaluate_literal hshape ?_
  have hquote : ∀ c ∈ n.text, isQuote c = false := fun c hc =>
    (Balanced.writing _).not_isQuote (hwriting ▸ hc)
  have hvalue := n.numberValue?_text false
  simp only [Bool.false_eq_true, if_false, id_map] at hvalue
  rw [hwriting, literal?_eq hwords hquote, hvalue, denote]
  cases n.value <;> rfl

/-- A number with a sign is read as a literal, and has the value of the number with the sign. -/
theorem evaluate_minus_number (n : DecimalNumber) :
    Expression.evaluate e scope (writing (minus (number n)).lexemes) =
      (minus (number n)).denote scope := by
  have hgrouped : (minus (number n)).Grouped := by
    simp [Grouped, level]
  have hshape := shape _ hgrouped
  have hwriting : writing (minus (number n)).lexemes = '-' :: n.text := by
    simp [lexemes, Lexeme.chars, sign, Symbol.chars]
  have hwords := not_constant ⟨'-', List.mem_cons_self (l := n.text), by decide⟩
  refine evaluate_literal hshape ?_
  have hquote : ∀ c ∈ '-' :: n.text, isQuote c = false := fun c hc =>
    (Balanced.writing _).not_isQuote (hwriting ▸ hc)
  have hvalue := n.numberValue?_text true
  simp only [if_true] at hvalue
  rw [hwriting, literal?_eq hwords hquote, hvalue]
  simp only [denote]
  cases n.value <;> rfl

theorem evaluate_name (x : Identifier) :
    Expression.evaluate e scope (writing (name x).lexemes) = (name x).denote scope := by
  have hshape := shape (name x) trivial
  have hform := form?_name x
  have htuple := tupleValue?_eq_none hshape.comma e scope
  have htrim := hshape.trim_writing
  have hne := hshape.writing_ne_nil
  have hsplit := splitHead?_writing hshape.legible
  have hwriting : writing [.name x] = x.text := List.append_nil _
  have hwords : String.ofList x.text ∉ ["None", "True", "False"] := by
    have hreserved : ∀ w ∈ ["None", "True", "False"], w ∈ reservedWords := by decide
    exact fun hmem => x.not_reserved (hreserved _ hmem)
  have hquote : ∀ c ∈ x.text, isQuote c = false := fun c hc =>
    (Balanced.writing [.name x]).not_isQuote (hwriting ▸ hc)
  have hnumber : Literal.isNumber x.text = false := by
    have hnone := (Lexeme.not_isNumber (show (Lexeme.name x).isOperand = true from rfl)
      (fun n h => by cases h) []).1
    rwa [List.append_nil] at hnone
  have hlist : (x.text.head? == some '[' && isEnclosed x.text) = false := by
    obtain ⟨c, more, hx, hstart, -⟩ := x.exists_head
    have hbracket : c ≠ '[' := ne_of_isWord (isWord_of_isNameStart hstart) (by decide)
    simp [hx, hbracket]
  have hliteral := literal?_eq_none hwords hquote hnumber hlist e scope
  have hchain : chainValue? e scope x.text = pure none := by
    have hread : chain? x.text = some ⟨.name x.text, []⟩ := by
      rw [hwriting] at hsplit
      rw [chain?, hsplit]
      rfl
    rw [chainValue?, hread]
  simp only [lexemes] at hform htuple htrim hne ⊢
  rw [hwriting] at hform htuple htrim hne ⊢
  unfold Expression.evaluate
  simp only [htrim, List.isEmpty_eq_false_iff.2 hne, hliteral, hchain, htuple, pure_bind, hform,
    nameValue?, x.isName_text, denote, Identifier.denote, if_true, bind_assoc, Bool.false_eq_true,
    if_false]
  refine bind_congr fun found => ?_
  cases found with
  | some v => rfl
  | none => cases Builtin.ofName? (String.ofList x.text) <;> rfl

theorem evaluate_identifier (x : Identifier) :
    Expression.evaluate e scope x.text = x.denote scope := by
  have hname := evaluate_name e scope x
  have hwriting : writing (name x).lexemes = x.text := List.append_nil _
  rwa [hwriting, denote] at hname

theorem evaluate_group {t : Tree} (h : (group t).Grouped) :
    Expression.evaluate e scope (writing (group t).lexemes) = e.eval scope (writing t.lexemes) := by
  have hshape := shape _ h
  have hwriting : writing (group t).lexemes = '(' :: (writing t.lexemes ++ [')']) := by
    simp [lexemes, Lexeme.chars, Bracket.opener, Bracket.closer]
  have hwords : String.ofList (writing (group t).lexemes) ∉ ["None", "True", "False"] :=
    not_constant ⟨'(', hwriting ▸ List.mem_cons_self, by decide⟩
  have hnumber : Literal.isNumber (writing (group t).lexemes) = false := by
    simp only [lexemes]
    exact (Lexeme.not_isNumber rfl (fun n h => by cases h) []).1
  have hlist : ((writing (group t).lexemes).head? == some '[' &&
      isEnclosed (writing (group t).lexemes)) = false := by
    rw [hwriting]
    rfl
  have hliteral := literal?_eq_none hwords
    (fun c hc => (Balanced.writing _).not_isQuote hc) hnumber hlist e scope
  have hchain : chain? (writing (group t).lexemes) =
      some ⟨.group ('(' :: (writing t.lexemes ++ [')'])), []⟩ := by
    simp only [lexemes] at hshape ⊢
    rw [chain?, splitHead?_writing hshape.legible]
    rfl
  have hinner : ('(' :: (writing t.lexemes ++ [')'])).tail.dropLast = writing t.lexemes := by
    rw [List.tail_cons, List.dropLast_concat]
  unfold Expression.evaluate
  simp only [hshape.trim_writing, List.isEmpty_eq_false_iff.2 hshape.writing_ne_nil, hliteral,
    chainValue?, hchain, hinner, pure_bind, map_eq_pure_bind, bind_assoc, bind_pure]
  rfl

theorem lacks_for (ps : List Lexeme) : Lacks "for" ps := by
  intro p _ hword
  obtain ⟨k, -, hk⟩ := Lexeme.word?_reserved (by decide) hword
  revert hk
  cases k <;> decide

theorem shapes : (items : List Tree) → GroupedAll items → ∀ ps ∈ lexemesAll items, Shape 0 ps
  | [], _ => by simp [lexemesAll]
  | t :: ts, h => by
    simp only [GroupedAll] at h
    intro ps hps
    rw [lexemesAll, List.mem_cons] at hps
    obtain rfl | hps := hps
    · exact (shape t h.1).mono (Nat.zero_le _)
    · exact shapes ts h.2 ps hps

/-- No item is blank. -/
theorem filter_writings {rows : List (List Lexeme)} (h : ∀ ps ∈ rows, Shape 0 ps) :
    (rows.map writing).filter (fun p => !p.isEmpty) = rows.map writing := by
  rw [List.filter_eq_self]
  intro text htext
  obtain ⟨qs, hqs, rfl⟩ := List.mem_map.1 htext
  simpa using (h qs hqs).writing_ne_nil

theorem listValue_items {items : List Tree} (h : GroupedAll items) :
    listValue e scope (trim (writing (separated (lexemesAll items)))) =
      ((lexemesAll items).map writing).mapM (e.eval scope) >>= fun vs => Run.newList vs.toArray := by
  have hshapes := shapes items h
  cases hrows : lexemesAll items with
  | nil => rfl
  | cons ps rows =>
    rw [hrows] at hshapes
    have hnone : comprehension? (writing (separated (ps :: rows))) = none := by
      rw [comprehension?, findKeyword_eq_nil (separated_ends hshapes).1 (by decide) (lacks_for _)]
      rfl
    rw [listValue, trim_separated hshapes, hnone]
    simp only [evaluateEach, cutTopLevel_separated hshapes, filter_writings hshapes]

theorem evaluate_list {items : List Tree} (h : (list items).Grouped) :
    Expression.evaluate e scope (writing (list items).lexemes) =
      ((lexemesAll items).map writing).mapM (e.eval scope) >>= fun vs => Run.newList vs.toArray := by
  have hwriting : writing (list items).lexemes =
      '[' :: (writing (separated (lexemesAll items)) ++ [']']) := by
    simp [lexemes, Lexeme.chars, Bracket.opener, Bracket.closer]
  simp only [Grouped] at h
  rw [hwriting, evaluate_brackets (Balanced.writing _), listValue_items e scope h]

/-- Several trees with commas between them are evaluated to a list of their values. -/
theorem evaluate_row {t u : Tree} {ts : List Tree} (h : GroupedAll (t :: u :: ts)) :
    Expression.evaluate e scope (writing (separated (lexemesAll (t :: u :: ts)))) =
      ((lexemesAll (t :: u :: ts)).map writing).mapM (e.eval scope) >>=
        fun vs => Run.newList vs.toArray := by
  have hshapes := shapes (t :: u :: ts) h
  have hfront := t.single_or_compound
  simp only [lexemesAll] at hshapes ⊢
  generalize t.lexemes = ps at hshapes hfront ⊢
  generalize u.lexemes = qs at hshapes ⊢
  generalize lexemesAll ts = rows at hshapes ⊢
  obtain ⟨hlegible, -, -⟩ := separated_ends hshapes
  have hcut := cutTopLevel_separated hshapes
  have htrim := trim_separated hshapes
  have hne : writing (separated (ps :: qs :: rows)) ≠ [] := by
    rw [separated_cons_cons]
    simp [Lexeme.chars]
  have hspace : .space ∈ separated (ps :: qs :: rows) := by simp [separated_cons_cons]
  have hword : ∃ c ∈ writing (separated (ps :: qs :: rows)), isWord c = false :=
    ⟨' ', List.mem_flatMap.2 ⟨.space, hspace, List.mem_cons_self⟩, by decide⟩
  -- the first tree is a single lexeme before a comma, or has an operator and hides the rest
  have hrow : chain? (writing (separated (ps :: qs :: rows))) = none ∧
      ((writing (separated (ps :: qs :: rows))).head? == some '[' &&
        isEnclosed (writing (separated (ps :: qs :: rows)))) = false := by
    rw [separated_cons_cons] at hlegible ⊢
    obtain ⟨p, rfl⟩ | hcompound := hfront
    · exact ⟨chain?_break (.inr rfl) hlegible, not_list_break (.inr rfl)⟩
    · have hcompound : Compound (ps ++ Lexeme.comma :: .space :: separated (qs :: rows)) := by
        obtain ⟨p, rest, rfl⟩ | ⟨rest, rfl⟩ := hcompound
        · exact .inl ⟨p, _, rfl⟩
        · exact .inr ⟨_, rfl⟩
      exact ⟨hcompound.chain?_eq_none hlegible, hcompound.not_list⟩
  have hliteral := literal?_eq_none (not_constant hword)
    (fun c hc => (Balanced.writing _).not_isQuote hc) (not_isNumber hspace) hrow.2 e scope
  have hparts : evaluateEach e scope ((ps :: qs :: rows).map writing) =
      ((ps :: qs :: rows).map writing).mapM (e.eval scope) := by
    rw [evaluateEach, filter_writings hshapes]
  unfold Expression.evaluate tupleValue?
  simp only [htrim, List.isEmpty_eq_false_iff.2 hne, hliteral, chainValue?, hrow.1, nameValue?,
    isName_eq_false hword, hcut, pure_bind, Bool.false_eq_true, if_false]
  simp only [List.map_cons] at hparts ⊢
  simp only [hparts, bind_assoc, pure_bind]
  rfl

theorem not_isNumber_minus {t : Tree} (h : ∀ n, t ≠ number n) :
    Literal.isNumber (writing (minus t).lexemes) = false := by
  have hoperand {p : Lexeme} (hp : p.isOperand = true) (hn : ∀ n, p ≠ .number n) :
      Literal.isNumber (writing (sign :: [p])) = false := (Lexeme.not_isNumber hp hn []).2
  cases t with
  | number n => exact absurd rfl (h n)
  | name x | list items | group t =>
    simp only [lexemes]
    exact hoperand rfl fun n hn => by cases hn
  | minus t =>
    simp only [lexemes]
    refine isNumber_eq_false_of_head fun c hc => ?_
    cases hc
    decide
  | arithmetic op l r | comparison op l r | junction c l r | conditional c l r =>
    simp only [lexemes]
    exact not_isNumber (List.mem_cons_of_mem _ (space_mem_joined _ _ _))
  | negation t =>
    simp only [lexemes]
    exact not_isNumber (by simp)

/-- A tree that is written with spaces is evaluated by the form that is found in it. -/
theorem evaluate_spaced {t : Tree} (h : t.Grouped) (hspace : .space ∈ t.lexemes) {f : Form}
    (hf : form? (writing t.lexemes) = some f) :
    Expression.evaluate e scope (writing t.lexemes) =
      formValue e scope (writing t.lexemes) f := by
  have hcompound : Compound t.lexemes := by
    obtain ⟨p, hp⟩ | hcompound := t.single_or_compound
    · obtain ⟨q, hq, hfront⟩ := (shape t h).front
      rw [hp] at hspace hq
      cases hq
      rw [← List.mem_singleton.1 hspace] at hfront
      cases hfront
    · exact hcompound
  exact evaluate_compound (shape t h) hcompound (not_isNumber hspace) hf e scope

variable {e scope} {R : Congruence}

theorem evaluate_minus {t : Tree} (h : (minus t).Grouped) (he : Reads R e scope (minus t).depth) :
    R.rel (Expression.evaluate e scope (writing (minus t).lexemes)) ((minus t).denote scope) := by
  by_cases hnumber : ∃ n, t = number n
  · obtain ⟨n, rfl⟩ := hnumber
    rw [evaluate_minus_number e scope n]
    exact R.refl _
  · have hnumber : ∀ n, t ≠ number n := fun n hn => hnumber ⟨n, hn⟩
    have hcompound : Compound (minus t).lexemes := .inr ⟨t.lexemes, by simp only [lexemes]⟩
    rw [evaluate_compound (shape _ h) hcompound (not_isNumber_minus hnumber) (form?_minus h)]
    simp only [Grouped] at h
    have hread := he.plain h.2 (by simp only [depth]; omega)
    simp only [formValue, denote]
    exact R.bind hread fun v => R.refl _

theorem evaluate_arithmetic {op : ArithmeticOp} {l r : Tree} (h : (arithmetic op l r).Grouped)
    (he : Reads R e scope (arithmetic op l r).depth) :
    R.rel (Expression.evaluate e scope (writing (arithmetic op l r).lexemes))
      ((arithmetic op l r).denote scope) := by
  rw [evaluate_spaced e scope h (by simp only [lexemes]; exact space_mem_joined _ _ _)
    (form?_arithmetic h)]
  simp only [Grouped] at h
  obtain ⟨-, -, hl, hr⟩ := h
  have hleft := he.before hl (by simp only [depth]; omega)
  have hright := he.after hr (by simp only [depth]; omega)
  simp only [formValue, denote]
  exact R.bind hleft fun v => R.bind hright fun w => R.refl _

theorem evaluate_comparison {op : ComparisonOp} {l r : Tree} (h : (comparison op l r).Grouped)
    (he : Reads R e scope (comparison op l r).depth) :
    R.rel (Expression.evaluate e scope (writing (comparison op l r).lexemes))
      ((comparison op l r).denote scope) := by
  rw [evaluate_spaced e scope h (by simp only [lexemes]; exact space_mem_joined _ _ _)
    (form?_comparison h)]
  simp only [Grouped] at h
  obtain ⟨-, -, hl, hr⟩ := h
  have hleft := he.before hl (by simp only [depth]; omega)
  have hright := he.after hr (by simp only [depth]; omega)
  simp only [formValue, denote]
  exact R.bind hleft fun v => R.bind hright fun w => R.refl _

theorem evaluate_negation {t : Tree} (h : (negation t).Grouped)
    (he : Reads R e scope (negation t).depth) :
    R.rel (Expression.evaluate e scope (writing (negation t).lexemes))
      ((negation t).denote scope) := by
  rw [evaluate_spaced e scope h (by simp [lexemes]) (form?_negation h)]
  simp only [Grouped] at h
  have hread := he.after h.2 (by simp only [depth]; omega)
  simp only [formValue, denote]
  exact R.bind hread fun v => R.refl _

theorem evaluate_junction {c : Connective} {l r : Tree} (h : (junction c l r).Grouped)
    (he : Reads R e scope (junction c l r).depth) :
    R.rel (Expression.evaluate e scope (writing (junction c l r).lexemes))
      ((junction c l r).denote scope) := by
  -- the text is cut at the first connective, so the tree is taken with its first operand in front
  obtain ⟨a, b, hab, ha, hlexemes, hdenote, hda, hdb⟩ := exists_first scope h
  rw [hlexemes, hdenote,
    evaluate_spaced e scope hab (by simp only [lexemes]; exact space_mem_joined _ _ _)
      (form?_junction hab ha)]
  simp only [Grouped] at hab
  obtain ⟨-, -, hga, hgb⟩ := hab
  have hleft := he.before hga hda
  have hright := he.after hgb hdb
  cases c with
  | both =>
    simp only [formValue, denote]
    refine R.bind hleft fun v => R.bind (R.refl _) fun truth => ?_
    cases truth with
    | true => exact hright
    | false => exact R.refl _
  | either =>
    simp only [formValue, denote]
    refine R.bind hleft fun v => R.bind (R.refl _) fun truth => ?_
    cases truth with
    | true => exact R.refl _
    | false => exact hright

theorem evaluate_conditional {condition yes no : Tree}
    (h : (conditional condition yes no).Grouped)
    (he : Reads R e scope (conditional condition yes no).depth) :
    R.rel (Expression.evaluate e scope (writing (conditional condition yes no).lexemes))
      ((conditional condition yes no).denote scope) := by
  rw [evaluate_spaced e scope h (by simp only [lexemes]; exact space_mem_joined _ _ _)
    (form?_conditional h)]
  simp only [Grouped] at h
  obtain ⟨-, -, hcondition, hyes, hno⟩ := h
  have hread := he.between hcondition (by simp only [depth]; omega)
  have hleft := he.before hyes (by simp only [depth]; omega)
  have hright := he.after hno (by simp only [depth]; omega)
  simp only [formValue, denote]
  refine R.bind hread fun v => R.bind (R.refl _) fun truth => ?_
  cases truth with
  | true => exact hleft
  | false => exact hright

theorem mapM_items {items : List Tree} (h : GroupedAll items)
    (he : Reads R e scope (depthAll items + 1)) :
    R.rel (((lexemesAll items).map writing).mapM (e.eval scope)) (denoteAll scope items) := by
  induction items with
  | nil => exact R.refl _
  | cons t ts ih =>
    simp only [GroupedAll] at h
    have hread := he.plain h.1 (by simp only [depthAll]; omega)
    have hrest := ih h.2 fun u hu hd => he u hu (by simp only [depthAll]; omega)
    simp only [lexemesAll, List.map_cons, List.mapM_cons, denoteAll]
    exact R.bind hread fun v => R.bind hrest fun vs => R.refl _

/-- A tree has its value on every engine that gives its operands theirs. -/
theorem evaluate_lexemes (t : Tree) (h : t.Grouped) (he : Reads R e scope t.depth) :
    R.rel (Expression.evaluate e scope (writing t.lexemes)) (t.denote scope) := by
  cases t with
  | number n =>
    rw [evaluate_number e scope n]
    exact R.refl _
  | name x =>
    rw [evaluate_name e scope x]
    exact R.refl _
  | list items =>
    rw [evaluate_list e scope h, denote]
    simp only [Grouped] at h
    simp only [depth] at he
    exact R.bind (mapM_items h he) fun vs => R.refl _
  | group t =>
    rw [evaluate_group e scope h, denote]
    simp only [Grouped] at h
    exact he.plain h (by simp only [depth]; omega)
  | minus t => exact evaluate_minus h he
  | arithmetic op l r => exact evaluate_arithmetic h he
  | comparison op l r => exact evaluate_comparison h he
  | negation t => exact evaluate_negation h he
  | junction c l r => exact evaluate_junction h he
  | conditional condition yes no => exact evaluate_conditional h he

end Tree

/-! ## All levels -/

theorem evaluate_spaces {t : Tree} (h : t.Grouped) (e : Engine) (scope : Nat) {a b : List Char}
    (ha : ∀ c ∈ a, isBlank c = true) (hb : ∀ c ∈ b, isBlank c = true) :
    Expression.evaluate e scope (a ++ writing t.lexemes ++ b) =
      Expression.evaluate e scope (writing t.lexemes) := by
  have htrim : trim (a ++ writing t.lexemes ++ b) = trim (writing t.lexemes) := by
    rw [(t.shape h).trim_spaced ha hb, (t.shape h).trim_writing]
  exact evaluate_congr htrim e scope

/-- An engine of `n` levels evaluates all trees of less than that depth. -/
theorem reads_over (bottom : Engine) (scope n : Nat) :
    Reads .equality (bottom.over n) scope n := by
  induction n with
  | zero =>
    intro t _ hd
    omega
  | succ n ih =>
    intro t ht hd a b ha hb
    have hoperands : Reads .equality (bottom.over n) scope t.depth :=
      fun u hu hud => ih u hu (by omega)
    exact (evaluate_spaces ht (bottom.over n) scope ha hb).trans (t.evaluate_lexemes ht hoperands)

/-- An engine with few levels evaluates a deep tree as well, or runs out of them. -/
theorem reads_level (scope n d : Nat) : Reads .unlessExhausted (Engine.level n) scope d := by
  induction n generalizing d with
  | zero =>
    intro t _ _ a b _ _ m
    exact .inr ⟨m, rfl⟩
  | succ n ih =>
    intro t ht _ a b ha hb
    have hvalue := t.evaluate_lexemes ht (ih t.depth)
    rw [← evaluate_spaces ht (Engine.level n) scope ha hb] at hvalue
    exact hvalue

/-- A written tree has its value on every engine that has enough levels. -/
theorem evaluate_over (t : Tree) (scope : Nat) (bottom : Engine) {n : Nat}
    (hn : t.regroup.depth ≤ n) :
    Expression.evaluate (bottom.over n) scope t.render = t.denote scope := by
  have hvalue := t.regroup.evaluate_lexemes t.grouped_regroup
    fun u hu hd => reads_over bottom scope n u hu (by omega)
  rw [t.regroup.writing_lexemes, t.denote_regroup] at hvalue
  exact hvalue

/-- **Rendering and evaluation.** A tree that is written with parentheses where an operand binds
looser than its operator demands is evaluated to what it stands for: on every engine that has enough
levels of nesting, and on every host unless the tree is too deep for its levels and evaluation runs
out of them. -/
theorem evaluate_render (t : Tree) (scope : Nat) :
    (∀ (bottom : Engine) (n : Nat), t.regroup.depth ≤ n →
        Expression.evaluate (bottom.over n) scope t.render = t.denote scope) ∧
      ∀ (host : Host) (m : Machine),
        evaluate scope (String.ofList t.render) host m = t.denote scope m ∨
          host.levels < t.regroup.depth ∧
            ∃ m', evaluate scope (String.ofList t.render) host m =
              .error (.exhausted .evaluation) m' := by
  refine ⟨fun bottom n hn => evaluate_over t scope bottom hn, fun host m => ?_⟩
  rw [evaluate, String.toList_ofList, Host.engine]
  by_cases hdepth : t.regroup.depth ≤ host.levels
  · rw [Engine.level_eq_over, evaluate_over t scope Engine.exhausted hdepth]
    exact .inl rfl
  · have hvalue := t.regroup.evaluate_lexemes t.grouped_regroup
      (reads_level scope host.levels t.regroup.depth)
    rw [t.regroup.writing_lexemes, t.denote_regroup] at hvalue
    obtain hsame | hexhausted := hvalue m
    · exact .inl hsame
    · exact .inr ⟨by omega, hexhausted⟩

end SnippetGrader.Rendering
