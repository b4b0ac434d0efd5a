import Mathlib.Data.List.Forall2
import SnippetGrader.Proofs.Composition.Bodies
import SnippetGrader.Proofs.Outcome

/-!
# Lines that are indented in the same order

Two lists of lines say the same if their texts are the same and the order of the indentations is.
Where line numbers count (`placed`), the numbers are the same, too. The lists are kept together as
one list of pairs, because a part of such a list is one again: a block, the lines under a header and the
bodies of clauses are parts. A body on the line of its header invents an indentation, the same for
all of its lines.

Everything that is read off one list is read off the other: the length of a block, a body, and a
compound statement with its clauses.
-/

namespace SnippetGrader.Indentation

open Source Statement

/-! ## Lines in pairs -/

/-- Pairs of lines that say the same, and among which the order of indentations is the same on both
sides. If line numbers count, these are the same. -/
structure Alike (placed : Prop) (ps : List (Line × Line)) : Prop where
  text : ∀ p ∈ ps, p.1.text = p.2.text
  number : placed → ∀ p ∈ ps, p.1.number = p.2.number
  order : ∀ p ∈ ps, ∀ q ∈ ps, p.1.indent ≤ q.1.indent ↔ p.2.indent ≤ q.2.indent

namespace Alike

variable {placed : Prop} {ps qs : List (Line × Line)} {p : Line × Line}

theorem of_subset (h : Alike placed ps) (hqs : qs ⊆ ps) : Alike placed qs where
  text q hq := h.text q (hqs hq)
  number hplaced q hq := h.number hplaced q (hqs hq)
  order q hq r hr := h.order q (hqs hq) r (hqs hr)

theorem diagonal (lines : List Line) : Alike placed (lines.map fun l => (l, l)) := by
  have hsame : ∀ p ∈ lines.map fun l => (l, l), p.1 = p.2 := by
    intro p hp
    obtain ⟨l, -, rfl⟩ := List.mem_map.1 hp
    rfl
  refine ⟨fun p hp => ?_, fun _ p hp => ?_, fun p hp q hq => ?_⟩
  · rw [hsame p hp]
  · rw [hsame p hp]
  · rw [hsame p hp, hsame q hq]

theorem eq_iff (h : Alike placed ps) {q : Line × Line} (hp : p ∈ ps) (hq : q ∈ ps) :
    p.1.indent = q.1.indent ↔ p.2.indent = q.2.indent := by
  have hpq := h.order p hp q hq
  have hqp := h.order q hq p hp
  omega

/-- The lines of a block, cut off where one is indented less than its first one. -/
theorem takeWhile_map {first : Line × Line} (h : Alike placed ps) (hfirst : first ∈ ps)
    (hqs : qs ⊆ ps) :
    ((qs.map Prod.fst).takeWhile fun l => first.1.indent ≤ l.indent).length =
      ((qs.map Prod.snd).takeWhile fun l => first.2.indent ≤ l.indent).length := by
  induction qs with
  | nil => rfl
  | cons q qs ih =>
    have hq := h.order first hfirst q (hqs List.mem_cons_self)
    have hrest := ih fun r hr => hqs (List.mem_cons_of_mem q hr)
    simp only [List.map_cons, List.takeWhile_cons]
    by_cases hle : first.1.indent ≤ q.1.indent
    · simp only [hle, hq.1 hle, decide_true, if_true, List.length_cons, hrest]
    · have hle' : ¬ first.2.indent ≤ q.2.indent := fun h' => hle (hq.2 h')
      simp only [hle, hle', decide_false, Bool.false_eq_true, if_false]

theorem blockLength_eq (h : Alike placed (p :: ps)) :
    blockLength p.1.indent (ps.map Prod.fst) = blockLength p.2.indent (ps.map Prod.snd) := by
  cases ps with
  | nil => rfl
  | cons first rest =>
    have hmem : first ∈ p :: first :: rest := List.mem_cons_of_mem p List.mem_cons_self
    have hfirst := h.order first hmem p List.mem_cons_self
    have hlength := h.takeWhile_map hmem (List.subset_cons_self p (first :: rest))
    simp only [List.map_cons] at hlength ⊢
    unfold blockLength
    dsimp only
    -- a block is empty if its first line is indented no more than its header
    by_cases hle : first.1.indent ≤ p.1.indent
    · rw [if_pos hle, if_pos (hfirst.1 hle)]
    · rw [if_neg hle, if_neg fun h' => hle (hfirst.2 h'), hlength]

end Alike

section Blocks

variable {placed : Prop}

/-- Two lists of lines that say the same and are indented in the same order. -/
def SameOrder (placed : Prop) (lines lines' : List Line) : Prop :=
  ∃ ps, Alike placed ps ∧ ps.map Prod.fst = lines ∧ ps.map Prod.snd = lines'

theorem SameOrder.refl (lines : List Line) : SameOrder placed lines lines := by
  refine ⟨_, .diagonal lines, ?_, ?_⟩ <;> exact (List.map_map ..).trans (List.map_id lines)

theorem sameOrder_flat {i j : Nat} {lines lines' : List Line}
    (htext : lines.map Line.text = lines'.map Line.text) (hi : ∀ l ∈ lines, l.indent = i)
    (hj : ∀ l ∈ lines', l.indent = j)
    (hnumber : placed → lines.map Line.number = lines'.map Line.number) :
    SameOrder placed lines lines' := by
  induction lines generalizing lines' with
  | nil =>
    obtain rfl := List.map_eq_nil_iff.1 htext.symm
    exact .refl []
  | cons l lines ih =>
    obtain ⟨l', more, rfl, htext', hmore⟩ := List.map_eq_cons_iff.1 htext.symm
    rw [List.forall_mem_cons] at hi hj
    obtain ⟨ps, hps, rfl, rfl⟩ := ih hmore.symm hi.2 hj.2 fun hplaced =>
      (List.cons.inj (hnumber hplaced)).2
    have hfirst {p : Line × Line} (hp : p ∈ ps) : p.1.indent = i ∧ p.2.indent = j :=
      ⟨hi.2 p.1 (List.mem_map_of_mem hp), hj.2 p.2 (List.mem_map_of_mem hp)⟩
    have hindent : ∀ p ∈ (l, l') :: ps, p.1.indent = i ∧ p.2.indent = j :=
      List.forall_mem_cons.2 ⟨⟨hi.1, hj.1⟩, fun p hp => hfirst hp⟩
    refine ⟨(l, l') :: ps, ⟨?_, fun hplaced => ?_, fun p hp q hq => ?_⟩, rfl, rfl⟩
    · exact List.forall_mem_cons.2 ⟨htext'.symm, hps.text⟩
    · exact List.forall_mem_cons.2 ⟨(List.cons.inj (hnumber hplaced)).1, hps.number hplaced⟩
    · rw [(hindent p hp).1, (hindent p hp).2, (hindent q hq).1, (hindent q hq).2]
      exact iff_of_true (Nat.le_refl i) (Nat.le_refl j)

/-- Lines that differ in their numbers alone. -/
theorem sameOrder_unnumbered {lines lines' : List Line}
    (h : lines.map Line.unnumbered = lines'.map Line.unnumbered)
    (hplaced : placed → lines = lines') : SameOrder placed lines lines' := by
  have hpair : ∀ p ∈ lines.zip lines', p.1.unnumbered = p.2.unnumbered := by
    intro p hp
    obtain ⟨i, hi⟩ := List.mem_iff_getElem?.1 hp
    obtain ⟨hleft, hright⟩ := List.getElem?_zip_eq_some.1 hi
    have hsame := congrArg (·[i]?) h
    simp only [List.getElem?_map, hleft, hright, Option.map_some, Option.some.injEq] at hsame
    exact hsame
  have hlength : lines.length = lines'.length := by simpa using congrArg List.length h
  have hindent (p : Line × Line) (hp : p ∈ lines.zip lines') : p.1.indent = p.2.indent := by
    have hsame : p.1.unnumbered.indent = p.2.unnumbered.indent := by rw [hpair p hp]
    exact hsame
  refine ⟨lines.zip lines', ⟨fun p hp => (congrArg Line.text (hpair p hp) :), fun h p hp => ?_,
    fun p hp q hq => ?_⟩, List.map_fst_zip (Nat.le_of_eq hlength),
    List.map_snd_zip (Nat.le_of_eq hlength.symm)⟩
  · obtain ⟨i, hi⟩ := List.mem_iff_getElem?.1 hp
    obtain ⟨hleft, hright⟩ := List.getElem?_zip_eq_some.1 hi
    rw [hplaced h, hright] at hleft
    rw [Option.some.inj hleft]
  · rw [hindent p hp, hindent q hq]

end Blocks

/-! ## Bodies and clauses -/

section Headers

variable {placed : Prop} {ps : List (Line × Line)} {p : Line × Line}

theorem body_sameOrder (h : Alike placed (p :: ps)) (inline : List Char) :
    SameOrder placed (body p.1 inline (ps.map Prod.fst)).lines
        (body p.2 inline (ps.map Prod.snd)).lines ∧
      (body p.1 inline (ps.map Prod.fst)).used = (body p.2 inline (ps.map Prod.snd)).used := by
  unfold body
  by_cases hinline : inline.isEmpty
  · simp only [hinline, if_true]
    rw [← h.blockLength_eq]
    have htaken : Alike placed (ps.take (blockLength p.1.indent (ps.map Prod.fst))) :=
      h.of_subset fun q hq => List.mem_cons_of_mem p (List.mem_of_mem_take hq)
    exact ⟨⟨_, htaken, List.map_take, List.map_take⟩, rfl⟩
  · simp only [hinline, Bool.false_eq_true, if_false]
    refine ⟨sameOrder_flat (i := p.1.indent + 1) (j := p.2.indent + 1) ?_ (fun l hl => ?_)
      (fun l hl => ?_) fun hplaced => ?_, trivial⟩
    · simp only [List.map_map, Function.comp_def]
    · obtain ⟨part, -, rfl⟩ := List.mem_map.1 hl
      exact rfl
    · obtain ⟨part, -, rfl⟩ := List.mem_map.1 hl
      exact rfl
    · simp only [List.map_map, Function.comp_def, h.number hplaced p List.mem_cons_self]

theorem header_eq (h : Alike placed (p :: ps)) (keyword : String) :
    header keyword p.1 = header keyword p.2 := by
  have htext := h.text p List.mem_cons_self
  unfold header
  rw [htext]

end Headers

/-- Both readings fail alike, or both succeed with results that are related. -/
inductive Both {α β : Type} (R : α → β → Prop) : Except Failure α → Except Failure β → Prop
  | ok {a : α} {b : β} (h : R a b) : Both R (.ok a) (.ok b)
  | error (f : Failure) : Both R (.error f) (.error f)

theorem Both.bind {α β γ δ : Type} {R : α → β → Prop} {S : γ → δ → Prop} {x : Except Failure α}
    {y : Except Failure β} {f : α → Except Failure γ} {g : β → Except Failure δ} (hx : Both R x y)
    (hf : ∀ a b, R a b → Both S (f a) (g b)) : Both S (x >>= f) (y >>= g) := by
  cases hx with
  | ok h => exact hf _ _ h
  | error f => exact .error f

theorem Both.imp {α β : Type} {R S : α → β → Prop} {x : Except Failure α} {y : Except Failure β}
    (h : Both R x y) (hRS : ∀ a b, R a b → S a b) : Both S x y := by
  cases h with
  | ok h => exact .ok (hRS _ _ h)
  | error f => exact .error f

theorem Both.of_eq {α : Type} {x y : Except Failure α} (h : x = y) : Both Eq x y := by
  subst h
  cases x with
  | ok a => exact .ok rfl
  | error f => exact .error f

/-- Two clauses with the same header whose bodies say the same. -/
structure ClauseAlike (placed : Prop) (c c' : Clause) : Prop where
  word : c.word = c'.word
  head : c.head = c'.head
  lines : SameOrder placed c.lines c'.lines

theorem clausesFrom_both {placed : Prop} {p : Line × Line} (words last : List String) (skip : Nat)
    (ps : List (Line × Line)) (h : Alike placed (p :: ps)) :
    Both (fun r r' => List.Forall₂ (ClauseAlike placed) r.1 r'.1 ∧ r.2 = r'.2)
      (clausesFrom p.1.indent words last skip (ps.map Prod.fst))
      (clausesFrom p.2.indent words last skip (ps.map Prod.snd)) := by
  induction ps generalizing skip with
  | nil => exact .ok ⟨.nil, rfl⟩
  | cons q ps ih =>
    have hmem : q ∈ p :: q :: ps := List.mem_cons_of_mem p List.mem_cons_self
    have hrest : Alike placed (p :: ps) :=
      h.of_subset (List.cons_subset_cons p (List.subset_cons_self q ps))
    have hq : Alike placed (q :: ps) := h.of_subset (List.subset_cons_self p (q :: ps))
    have htext := h.text q hmem
    have hindent : (q.1.indent == p.1.indent) = (q.2.indent == p.2.indent) := by
      have heq := h.eq_iff hmem List.mem_cons_self
      rw [Bool.eq_iff_iff, beq_iff_eq, beq_iff_eq]
      exact heq
    simp only [List.map_cons]
    unfold clausesFrom
    rw [hindent, htext]
    split
    · exact ih (skip - 1) hrest
    · dsimp only
      split
      · refine (Both.of_eq (header_eq hq _)).bind fun head _ hhead => ?_
        subst hhead
        obtain ⟨hlines, hused⟩ := body_sameOrder hq head.inline
        have hclause : ClauseAlike placed
            ⟨firstName q.2.text, head.head, (body q.1 head.inline (ps.map Prod.fst)).lines⟩
            ⟨firstName q.2.text, head.head, (body q.2 head.inline (ps.map Prod.snd)).lines⟩ :=
          ⟨rfl, rfl, hlines⟩
        split
        · exact .ok ⟨.cons hclause .nil, by rw [hused]⟩
        · rw [hused]
          refine (ih _ hrest).bind fun r r' hr => ?_
          obtain ⟨hclauses, hrused⟩ := hr
          exact .ok ⟨.cons hclause hclauses, by rw [hrused]⟩
      · exact .ok ⟨.nil, rfl⟩

/-- Two compound statements with the same headers whose bodies say the same. -/
structure CompoundAlike (placed : Prop) (c c' : Compound) : Prop where
  head : c.head = c'.head
  lines : SameOrder placed c.lines c'.lines
  clauses : List.Forall₂ (ClauseAlike placed) c.clauses c'.clauses

theorem compound_both {placed : Prop} {p : Line × Line} {ps : List (Line × Line)}
    (h : Alike placed (p :: ps)) (keyword : String) (words last : List String) :
    Both (fun c c' => CompoundAlike placed c c' ∧ c.used = c'.used)
      (compound keyword words last p.1 (ps.map Prod.fst))
      (compound keyword words last p.2 (ps.map Prod.snd)) := by
  unfold compound
  refine (Both.of_eq (header_eq h keyword)).bind fun head _ hhead => ?_
  subst hhead
  obtain ⟨hlines, hused⟩ := body_sameOrder h head.inline
  dsimp only
  rw [hused]
  refine (clausesFrom_both words last _ ps h).bind fun r r' hr => ?_
  obtain ⟨hclauses, hrused⟩ := hr
  exact .ok ⟨⟨rfl, hlines, hclauses⟩, by rw [hrused]⟩

/-! ## What is picked from the clauses -/

section Found

variable {α β γ δ : Type} {R : α → β → Prop} {S : γ → δ → Prop}

theorem rel_map {o : Option α} {o' : Option β} (h : Option.Rel R o o') {f : α → γ} {g : β → δ}
    (hf : ∀ a b, R a b → S (f a) (g b)) : Option.Rel S (o.map f) (o'.map g) := by
  cases h with
  | none => exact .none
  | some hab => exact .some (hf _ _ hab)

theorem rel_orElse {o p : Option α} {o' p' : Option β} (h : Option.Rel R o o')
    (hp : Option.Rel R p p') : Option.Rel R (o <|> p) (o' <|> p') := by
  cases h with
  | none => exact hp
  | some hab => exact .some hab

theorem rel_head? {as : List α} {bs : List β} (h : List.Forall₂ R as bs) :
    Option.Rel R as.head? bs.head? := by
  cases h with
  | nil => exact .none
  | cons hab _ => exact .some hab

end Found

section Picked

variable {placed : Prop}

theorem forall₂_filter {cs cs' : List Clause} (h : List.Forall₂ (ClauseAlike placed) cs cs')
    (word : String) : List.Forall₂ (ClauseAlike placed) (cs.filter fun cl => cl.word == word)
      (cs'.filter fun cl => cl.word == word) := by
  induction h with
  | nil => exact .nil
  | cons hc _ ih =>
    rw [List.filter_cons, List.filter_cons, hc.word]
    split
    · exact .cons hc ih
    · exact ih

theorem rel_clause? {c c' : Compound} (h : CompoundAlike placed c c') (word : String) :
    Option.Rel (SameOrder placed) (c.clause? word) (c'.clause? word) := by
  have hlast := rel_head? (List.rel_reverse (forall₂_filter h.clauses word))
  rw [List.head?_reverse, List.head?_reverse] at hlast
  exact rel_map hlast fun _ _ hc => hc.lines

theorem rel_handlerOf? {cs cs' : List Clause} (h : List.Forall₂ (ClauseAlike placed) cs cs')
    {f f' : Failure} (hkind : f.kind = f'.kind) :
    Option.Rel (ClauseAlike placed) (handlerOf? cs f) (handlerOf? cs' f') := by
  have hfind : Option.Rel (ClauseAlike placed) (cs.find? fun cl => catches cl.head f.kind)
      (cs'.find? fun cl => catches cl.head f'.kind) := by
    induction h with
    | nil => exact .none
    | cons hc _ ih =>
      rw [List.find?_cons, List.find?_cons, hc.head, hkind]
      rw [hkind] at ih
      split
      · exact .some hc
      · exact ih
  exact rel_orElse hfind (rel_head? h)

end Picked

end SnippetGrader.Indentation
