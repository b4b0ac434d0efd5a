import Mathlib.Algebra.Ring.Nat
import Mathlib.Data.List.TakeDrop
import Mathlib.Data.List.TakeWhile
import Mathlib.Data.Option.Basic
import SnippetGrader.Statement.Execute

/-!
# How long the parts of a text are

Nothing that is read off a text is longer than the text. The operands of an operator, the texts
inside a link of a chain and the expressions between commas are even shorter, and the lines of a
body weigh less than the statement to which the body belongs. Nested evaluation and nested blocks
come to an end because of this.
-/

namespace SnippetGrader

namespace Text

theorem length_dropEndWhile_le (p : Char → Bool) (text : List Char) :
    (dropEndWhile p text).length ≤ text.length := by
  have h := List.length_dropWhile_le p text.reverse
  simpa only [dropEndWhile, List.length_reverse] using h

theorem length_trimStart_le (text : List Char) : (trimStart text).length ≤ text.length :=
  List.length_dropWhile_le isBlank text

theorem length_trim_le (text : List Char) : (trim text).length ≤ text.length :=
  (length_dropEndWhile_le isBlank _).trans (length_trimStart_le text)

theorem cutAround?_length {text needle before after : List Char}
    (h : cutAround? text needle = some (before, after)) :
    after.length ≤ text.length - needle.length := by
  simp only [cutAround?, Option.map_eq_some_iff, Prod.mk.injEq] at h
  obtain ⟨i, -, rfl, rfl⟩ := h
  rw [List.length_drop]
  omega

end Text

namespace Source

open Text

/-! ## Pieces between separators -/

/-- What some pieces weigh: their characters, and one for each piece. -/
def weightOf (pieces : List (List Char)) : Nat := (pieces.map fun p => p.length + 1).sum

theorem length_add_length_le_weightOf {p : List Char} {pieces : List (List Char)}
    (h : p ∈ pieces) : p.length + pieces.length ≤ weightOf pieces := by
  have hlen (ps : List (List Char)) : ps.length ≤ weightOf ps := by
    induction ps with
    | nil => simp
    | cons q qs ih => simp [weightOf] at ih ⊢; omega
  induction pieces with
  | nil => simp at h
  | cons q qs ih =>
    have hqs := hlen qs
    simp only [weightOf, List.map_cons, List.sum_cons, List.length_cons] at ih hqs ⊢
    obtain rfl | h := List.mem_cons.1 h
    · omega
    · have := ih h
      omega

theorem weightOf_filter_le (p : List Char → Bool) (pieces : List (List Char)) :
    weightOf (pieces.filter p) ≤ weightOf pieces := by
  induction pieces with
  | nil => simp
  | cons q qs ih =>
    rw [List.filter_cons]
    split
    · simp only [weightOf, List.map_cons, List.sum_cons] at ih ⊢
      omega
    · simp only [weightOf, List.map_cons, List.sum_cons] at ih ⊢
      omega

theorem weightOf_trim_le (pieces : List (List Char)) :
    weightOf (pieces.map trim) ≤ weightOf pieces := by
  induction pieces with
  | nil => simp
  | cons q qs ih =>
    have hq := length_trim_le q
    simp only [weightOf, List.map_cons, List.sum_cons] at ih ⊢
    omega

/-- Every character is in one piece or is a separator. -/
theorem weightOf_cutTopLevelFrom (sep : Char) (r : Reader) (piece text : List Char) :
    weightOf (cutTopLevelFrom sep r piece text) = piece.length + text.length + 1 := by
  induction text generalizing r piece with
  | nil => simp [cutTopLevelFrom, weightOf]
  | cons c rest ih =>
    simp only [cutTopLevelFrom]
    split
    · have h := ih (r.step c rest).1 []
      simp only [weightOf, List.map_cons, List.sum_cons, List.length_reverse, List.length_cons,
        List.length_nil] at h ⊢
      omega
    · rw [ih, List.length_cons, List.length_cons]
      omega

theorem weightOf_cutTopLevel_le (sep : Char) (text : List Char) :
    weightOf (cutTopLevel sep text) ≤ text.length + 1 := by
  unfold cutTopLevel
  split
  · simp [weightOf]
  · have h := weightOf_cutTopLevelFrom sep {} [] text
    have h' := weightOf_trim_le (cutTopLevelFrom sep {} [] text)
    simp only [List.length_nil] at h
    omega

theorem length_add_length_cutTopLevel_le {sep : Char} {text part : List Char}
    (h : part ∈ cutTopLevel sep text) :
    part.length + (cutTopLevel sep text).length ≤ text.length + 1 :=
  (length_add_length_le_weightOf h).trans (weightOf_cutTopLevel_le sep text)

theorem length_le_of_mem_cutTopLevel {sep : Char} {text part : List Char}
    (h : part ∈ cutTopLevel sep text) : part.length ≤ text.length := by
  have hlen := List.length_pos_of_mem h
  have := length_add_length_cutTopLevel_le h
  omega

/-! ## Symbols and keywords -/

theorem Symbol.length_pos (s : Symbol) : 0 < s.length := by
  cases s <;> exact Nat.succ_pos _

theorem tokensFrom_pos {r : Reader} {i skip : Nat} {text : List Char} {t : Token}
    (h : t ∈ tokensFrom r i skip text) : t.pos < i + text.length := by
  induction text generalizing r i skip with
  | nil => simp [tokensFrom] at h
  | cons c rest ih =>
    simp only [tokensFrom, List.length_cons] at h ⊢
    split at h
    · have := ih h
      omega
    · split at h
      · obtain rfl | h := List.mem_cons.1 h
        · dsimp only
          omega
        · have := ih h
          omega
      · have := ih h
        omega

theorem tokens_pos {text : List Char} {t : Token} (h : t ∈ tokens text) :
    t.pos < text.length := by
  simpa using tokensFrom_pos h

theorem tokens_stop {text : List Char} {t : Token} (_ : t ∈ tokens text) : 0 < t.stop :=
  Nat.lt_of_lt_of_le t.symbol.length_pos (Nat.le_add_left _ _)

theorem headerColon?_lt {text : List Char} {i : Nat} (h : headerColon? text = some i) :
    i < text.length := by
  simp only [headerColon?, Option.map_eq_some_iff] at h
  obtain ⟨t, ht, rfl⟩ := h
  exact tokens_pos (List.mem_of_find?_eq_some ht)

theorem phraseAt?_span {phrase : List String} {i : Nat} {before : Option Char} {text : List Char}
    {s : Span} (h : phraseAt? phrase i before text = some s) : s.start = i ∧ s.start ≤ s.stop := by
  unfold phraseAt? at h
  split at h
  · cases h
  · split at h
    · cases h
    · split at h
      · cases h
      · cases h
        exact ⟨rfl, Nat.le_add_right _ _⟩

theorem findKeywordFrom_span {phrase : List String} {r : Reader} {i : Nat} {before : Option Char}
    {text : List Char} {s : Span} (h : s ∈ findKeywordFrom phrase r i before text) :
    s.start < i + text.length ∧ s.start ≤ s.stop := by
  induction text generalizing r i before with
  | nil => simp [findKeywordFrom] at h
  | cons c rest ih =>
    have later {r' : Reader} (h : s ∈ findKeywordFrom phrase r' (i + 1) (some c) rest) :
        s.start < i + (c :: rest).length ∧ s.start ≤ s.stop := by
      have := ih h
      rw [List.length_cons]
      omega
    simp only [findKeywordFrom] at h
    split at h
    · split at h
      case _ span hs =>
        obtain rfl | h := List.mem_cons.1 h
        · have := phraseAt?_span hs
          rw [List.length_cons]
          omega
        · exact later h
      case _ => exact later h
    · exact later h

theorem findKeyword_span {phrase : List String} {text : List Char} {s : Span}
    (h : s ∈ findKeyword phrase text) : s.start < text.length ∧ s.start ≤ s.stop := by
  simpa using findKeywordFrom_span h

/-! ## Phrases -/

theorem splitName_length (text : List Char) : (splitName text).2.length ≤ text.length := by
  unfold splitName
  split
  · split
    · rw [List.span_eq_takeWhile_dropWhile]
      exact List.length_dropWhile_le ..
    · exact Nat.le_refl _
  · exact Nat.le_refl _

theorem name?_length {text name rest : List Char} (h : name? text = some (name, rest)) :
    rest.length ≤ text.length := by
  have hs := splitName_length text
  unfold name? at h
  dsimp only at h
  split at h
  · cases h
  · cases h
    exact hs

theorem isNameStart_of_name? {text name rest : List Char} (h : name? text = some (name, rest)) :
    ∃ c more, name = c :: more ∧ isNameStart c = true := by
  cases text with
  | nil => cases h
  | cons c text =>
    rw [name?, splitName] at h
    by_cases hc : isNameStart c = true
    · rw [if_pos hc, List.span_eq_takeWhile_dropWhile] at h
      by_cases hword : isWord c = true
      · simp only [List.takeWhile_cons_of_pos hword] at h
        cases h
        exact ⟨c, _, rfl, hc⟩
      · simp only [List.takeWhile_cons_of_neg hword] at h
        cases h
    · rw [if_neg hc] at h
      cases h

theorem definitionHead?_name {text : List Char} {h : DefinitionHead}
    (hhead : definitionHead? text = some h) : String.ofList h.name ≠ "<lambda>" := by
  simp only [definitionHead?, bind, Option.bind_eq_some_iff] at hhead
  obtain ⟨tail, -, ⟨name, rest⟩, hname, hrest⟩ := hhead
  have hsame : h.name = name := by
    dsimp only at hrest
    split at hrest
    · obtain ⟨p, -, hp⟩ := Option.bind_eq_some_iff.1 hrest
      cases hp
      rfl
    · cases hrest
  obtain ⟨c, more, hcons, hstart⟩ := isNameStart_of_name? hname
  intro heq
  have hlist : h.name = "<lambda>".toList := by rw [← heq, String.toList_ofList]
  rw [hsame, hcons] at hlist
  obtain ⟨rfl, -⟩ := List.cons_eq_cons.1 hlist
  exact absurd hstart (by decide)

theorem keywordArgument?_length {text name value : List Char}
    (h : keywordArgument? text = some (name, value)) : value.length < text.length := by
  simp only [keywordArgument?, bind, Option.bind_eq_some_iff] at h
  obtain ⟨⟨n, rest⟩, hn, h⟩ := h
  have hrest := name?_length hn
  have htrim := length_trimStart_le rest
  dsimp only at h
  split at h
  · cases h
  · next heq =>
    cases h
    rw [heq, List.length_cons] at htrim
    omega
  · cases h

end Source

namespace Expression

open Text Source

/-! ## Chains -/

def Trailer.inner : Trailer → List Char
  | .attribute _ => []
  | .call text | .index text => text

theorem trailersFrom?_below {skip : Nat} {text : List Char} {trailers : List Trailer}
    (h : trailersFrom? skip text = some trailers) :
    ∀ t ∈ trailers, t.inner.length < text.length := by
  induction text generalizing skip trailers with
  | nil =>
    cases h
    simp
  | cons c rest ih =>
    have later {skip' : Nat} {more : List Trailer} (h : trailersFrom? skip' rest = some more)
        (t : Trailer) (ht : t ∈ more) : t.inner.length < (c :: rest).length :=
      Nat.lt_succ_of_lt (ih h t ht)
    simp only [trailersFrom?] at h
    split at h
    · exact later h
    · split at h
      · split at h
        · cases h
        · obtain ⟨more, hmore, rfl⟩ := Option.map_eq_some_iff.1 h
          intro t ht
          obtain rfl | ht := List.mem_cons.1 ht
          · exact Nat.succ_pos _
          · exact later hmore t ht
      · split at h
        · split at h
          · cases h
          · next k _ =>
            obtain ⟨more, hmore, rfl⟩ := Option.map_eq_some_iff.1 h
            have hinner : (rest.take (k - 1)).length < (c :: rest).length :=
              Nat.lt_succ_of_le (List.length_take_le' ..)
            intro t ht
            obtain rfl | ht := List.mem_cons.1 ht
            · split <;> exact hinner
            · exact later hmore t ht
        · cases h

/-- The text of a head. -/
def Head.text : Head → List Char
  | name text | literal text | group text => text

theorem splitHead?_append {text rest : List Char} {head : Head}
    (h : splitHead? text = some (head, rest)) : head.text ++ rest = text := by
  unfold splitHead? at h
  split at h
  · cases h
    exact List.take_append_drop ..
  · split at h
    next name rest' hname =>
    split at h
    · cases h
      have hs : (splitName text).1 ++ (splitName text).2 = text := by
        unfold splitName
        split
        · split
          · rw [List.span_eq_takeWhile_dropWhile]
            exact List.takeWhile_append_dropWhile
          · rfl
        · rfl
      rwa [hname] at hs
    · split at h
      · obtain ⟨k, -, hk⟩ := Option.map_eq_some_iff.1 h
        cases hk
        split <;> exact List.take_append_drop ..
      · cases h

theorem chain?_below {text : List Char} {head : Head} {trailers : List Trailer}
    (h : chain? text = some ⟨head, trailers⟩) :
    head.text.length ≤ text.length ∧ (trailers ≠ [] → head.text.length < text.length) ∧
      ∀ t ∈ trailers, t.inner.length < text.length := by
  simp only [chain?, bind, Option.bind_eq_some_iff] at h
  obtain ⟨⟨head', rest⟩, hsplit, trailers', htrailers, h⟩ := h
  cases h
  have happend := congrArg List.length (splitHead?_append hsplit)
  have hbelow := trailersFrom?_below htrailers
  rw [List.length_append] at happend
  dsimp only at hbelow ⊢
  refine ⟨by omega, fun hne => ?_, fun t ht => ?_⟩
  · cases rest with
    | nil => cases htrailers; exact absurd rfl hne
    | cons c rest => simp only [List.length_cons] at happend; omega
  · have := hbelow t ht
    omega

/-! ## Strings with filled-in values -/

theorem piecesFrom_field {open_ : List Char} {skip : Nat} {body cs : List Char}
    (h : .field cs ∈ piecesFrom open_ skip body) : cs.length < body.length := by
  induction body generalizing open_ skip with
  | nil => simp [piecesFrom] at h
  | cons c rest ih =>
    have later {open' : List Char} {skip' : Nat} (h : .field cs ∈ piecesFrom open' skip' rest) :
        cs.length < (c :: rest).length := Nat.lt_succ_of_lt (ih h)
    simp only [piecesFrom] at h
    split at h
    · exact later h
    · split at h
      · exact later h
      · split at h
        · split at h
          · simp at h
          · simp only [List.mem_cons, reduceCtorEq, Piece.field.injEq, false_or] at h
            obtain rfl | h := h
            · exact Nat.lt_succ_of_le (List.length_take_le' ..)
            · exact later h
        · exact later h

theorem Field.length_expression_le (text : List Char) :
    (Field.ofText text).expression.length ≤ text.length := by
  have hconv (t : List Char) : (splitConversion t).1.length ≤ t.length := by
    have htrim := length_trim_le t
    unfold splitConversion
    split
    · next heq =>
      have hlen := congrArg List.length heq
      simp only [List.length_reverse, List.length_cons] at hlen
      split
      · rw [List.length_reverse]
        omega
      · exact Nat.le_refl _
    · exact Nat.le_refl _
  simp only [Field.ofText]
  split
  · exact (hconv _).trans (List.length_take_le' ..)
  · exact hconv _

theorem length_between_le (o : Literal.Opening) (text : List Char) :
    (o.between text).length ≤ text.length := by
  simp only [Literal.Opening.between, List.length_drop, List.length_take]
  omega

/-! ## Comprehensions and targets -/

theorem comprehension?_length {text : List Char} {c : Comprehension}
    (h : comprehension? text = some c) :
    c.element.length ≤ text.length ∧ c.target.length ≤ text.length ∧
      c.source.length ≤ text.length ∧ ∀ t ∈ c.condition, t.length ≤ text.length := by
  simp only [comprehension?, bind, Option.bind_eq_some_iff] at h
  obtain ⟨f, -, h⟩ := h
  split at h
  · cases h
  · obtain ⟨i, -, h⟩ := Option.bind_eq_some_iff.1 h
    split at h <;> cases h
    all_goals
      simp only [List.length_take, List.length_drop, Option.mem_def, Option.some.injEq,
        reduceCtorEq, false_implies, implies_true, forall_eq', and_true]
      omega

/-- The texts inside a target are no longer than `n`. -/
inductive Target.Within (n : Nat) : Target → Prop
  | name (s : String) : Within n (.name s)
  | items (targets : List Target) (h : ∀ t ∈ targets, Within n t) : Within n (.items targets)
  | item (object index : List Char) (ho : object.length ≤ n) (hi : index.length ≤ n) :
      Within n (.item object index)
  | field (object : List Char) (name : String) (h : object.length ≤ n) :
      Within n (.field object name)
  | other (text : List Char) : Within n (.other text)

theorem Target.Within.mono {n m : Nat} {t : Target} (h : t.Within n) (hnm : n ≤ m) :
    t.Within m := by
  induction h with
  | name s => exact .name s
  | items targets _ ih => exact .items targets ih
  | item object index ho hi => exact .item object index (ho.trans hnm) (hi.trans hnm)
  | field object name h => exact .field object name (h.trans hnm)
  | other text => exact .other text

theorem itemTarget?_length {text object index : List Char}
    (h : itemTarget? text = some (object, index)) :
    object.length ≤ text.length ∧ index.length ≤ text.length := by
  unfold itemTarget? at h
  split at h
  · cases h
  · obtain ⟨i, -, hi⟩ := Option.map_eq_some_iff.1 h
    cases hi
    simp only [List.length_take, List.length_drop]
    omega

theorem fieldTarget?_length {text object : List Char} {name : String}
    (h : fieldTarget? text = some (object, name)) : object.length ≤ text.length := by
  simp only [fieldTarget?, bind, Option.bind_eq_some_iff] at h
  obtain ⟨dot, -, h⟩ := h
  split at h <;> cases h
  exact List.length_take_le' ..

theorem Target.ofTextWithin_within (fuel : Nat) (text : List Char) :
    (Target.ofTextWithin fuel text).Within text.length := by
  induction fuel generalizing text with
  | zero => exact .other _
  | succ fuel ih =>
    have htrim := length_trim_le text
    simp only [Target.ofTextWithin]
    generalize trim text = inside at htrim ⊢
    have hinner : inside.tail.dropLast.length ≤ text.length := by
      rw [List.length_dropLast, List.length_tail]
      omega
    split
    · exact .name _
    · split
      · exact .name _
      · generalize (_ && isEnclosed inside) = enclosed
        have hparts : ∀ part ∈ (if enclosed then cutTopLevel ',' inside.tail.dropLast
            else cutTopLevel ',' inside), part.length ≤ text.length := by
          intro part hpart
          split at hpart
          · exact (length_le_of_mem_cutTopLevel hpart).trans hinner
          · exact (length_le_of_mem_cutTopLevel hpart).trans htrim
        generalize (if enclosed then _ else _ : List (List Char)) = parts at hparts ⊢
        split
        · exact (ih _).mono hinner
        · split
          · refine .items _ fun t ht => ?_
            obtain ⟨part, hpart, rfl⟩ := List.mem_map.1 ht
            exact (ih part).mono (hparts part (List.mem_filter.1 hpart).1)
          · split
            · next h =>
              have := itemTarget?_length h
              exact .item _ _ (by omega) (by omega)
            · split
              · next h => exact .field _ _ ((fieldTarget?_length h).trans htrim)
              · exact .other _

theorem Target.ofText_within (text : List Char) : (Target.ofText text).Within text.length :=
  Target.ofTextWithin_within ..

/-! ## Operators -/

def Form.operands : Form → List (List Char)
  | lambda params body => [params, body]
  | conditional condition yes no => [condition, yes, no]
  | either left right | both left right | comparison _ left right | binary _ left right =>
    [left, right]
  | negation operand | signed _ operand => [operand]

theorem innerKeywords_span {phrase : List String} {text : List Char} {s : Span}
    (h : s ∈ innerKeywords phrase text) :
    s.start < text.length ∧ 0 < s.start ∧ s.start ≤ s.stop := by
  obtain ⟨hmem, hpos⟩ := List.mem_filter.1 h
  have := findKeyword_span hmem
  exact ⟨this.1, of_decide_eq_true hpos, this.2⟩

/-- Both parts around a span are shorter if it starts inside and does not end at the start. -/
theorem length_around {text : List Char} {start stop : Nat} (hstart : start < text.length)
    (hstop : 0 < stop) :
    (text.take start).length < text.length ∧ (text.drop stop).length < text.length := by
  rw [List.length_take, List.length_drop]
  omega

theorem cutAtKeyword?_length {word : String} {text left right : List Char}
    (h : cutAtKeyword? word text = some (left, right)) :
    left.length < text.length ∧ right.length < text.length := by
  obtain ⟨s, hs, heq⟩ := Option.map_eq_some_iff.1 h
  cases heq
  have := innerKeywords_span (List.mem_of_head? hs)
  exact length_around this.1 (by omega)

theorem conditional?_operands {text : List Char} {f : Form} (h : conditional? text = some f) :
    ∀ t ∈ f.operands, t.length < text.length := by
  simp only [conditional?, bind, Option.bind_eq_some_iff] at h
  obtain ⟨i, hi, e, he, h⟩ := h
  cases h
  have hi := innerKeywords_span (List.mem_of_head? hi)
  have hlt : e.start > i.stop := by simpa using List.find?_some he
  have he := findKeyword_span (List.mem_of_find?_eq_some he)
  simp only [Form.operands, List.mem_cons, List.not_mem_nil, or_false, forall_eq_or_imp, forall_eq,
    List.length_take, List.length_drop]
  omega

theorem comparisons_span {text : List Char} {x : Span × Value.Comparison}
    (h : x ∈ comparisons text) : x.1.start < text.length ∧ 0 < x.1.stop := by
  obtain h | h := List.mem_append.1 h
  · obtain ⟨t, ht, hx⟩ := List.mem_filterMap.1 h
    obtain ⟨c, -, rfl⟩ := Option.map_eq_some_iff.1 hx
    exact ⟨tokens_pos ht, tokens_stop ht⟩
  · obtain ⟨w, -, hw⟩ := List.mem_flatMap.1 h
    obtain ⟨s, hs, rfl⟩ := List.mem_map.1 hw
    have := innerKeywords_span hs
    exact ⟨this.1, by dsimp only; omega⟩

theorem comparison?_operands {text : List Char} {f : Form} (h : comparison? text = some f) :
    ∀ t ∈ f.operands, t.length < text.length := by
  -- the best of some comparisons is one of them
  have hbest (best : Span × Value.Comparison) (rest : List (Span × Value.Comparison)) :
      rest.foldl (fun best x => if precedes x.1 best.1 then x else best) best ∈ best :: rest := by
    induction rest generalizing best with
    | nil => simp
    | cons x rest ih =>
      rw [List.foldl_cons]
      split
      · exact List.mem_cons_of_mem _ (ih x)
      · have := ih best
        simp only [List.mem_cons] at this ⊢
        tauto
  unfold comparison? at h
  split at h
  · cases h
  · next first rest heq =>
    cases h
    have hspan := comparisons_span (heq ▸ hbest first rest)
    have := length_around hspan.1 hspan.2
    simpa [Form.operands] using this

theorem binaryAt?_operands {ops : List Operator} {text : List Char} {t : Token} {f : Form}
    (ht : t ∈ tokens text) (h : binaryAt? ops text t = some f) :
    ∀ t ∈ f.operands, t.length < text.length := by
  simp only [binaryAt?, bind, Option.bind_eq_some_iff] at h
  obtain ⟨op, -, h⟩ := h
  split at h <;> cases h
  have := length_around (tokens_pos ht) (tokens_stop ht)
  simpa [Form.operands] using this

theorem binary_operands {ops : List Operator} {text : List Char} {ts : List Token} {f : Form}
    (hts : ∀ t ∈ ts, t ∈ tokens text) (h : ts.findSome? (binaryAt? ops text) = some f) :
    ∀ t ∈ f.operands, t.length < text.length := by
  obtain ⟨t, ht, hf⟩ := List.exists_of_findSome?_eq_some h
  exact binaryAt?_operands (hts t ht) hf

theorem lambda?_operands {text : List Char} {f : Form} (h : lambda? text = some f) :
    ∀ t ∈ f.operands, t.length < text.length := by
  obtain ⟨i, hi, rfl⟩ := Option.map_eq_some_iff.1 h
  have := headerColon?_lt hi
  simp only [Form.operands, List.mem_cons, List.not_mem_nil, or_false, forall_eq_or_imp, forall_eq,
    List.length_take, List.length_drop]
  omega

theorem signed?_operands {text : List Char} {f : Form} (h : signed? text = some f) :
    ∀ t ∈ f.operands, t.length < text.length := by
  unfold signed? at h
  split at h <;> cases h <;> simp [Form.operands]

theorem form?_operands {text : List Char} (hne : text ≠ []) {f : Form} (h : form? text = some f) :
    ∀ t ∈ f.operands, t.length < text.length := by
  have hpos := List.length_pos_iff.2 hne
  have hpair {left right : List Char} (hlr : left.length < text.length ∧ right.length < text.length) :
      ∀ t ∈ [left, right], t.length < text.length := by simpa using hlr
  unfold form? at h
  split at h
  · exact lambda?_operands h
  · simp only [Option.orElse_eq_some] at h
    obtain h | ⟨-, h | ⟨-, h | ⟨-, h | ⟨-, h | ⟨-, h | ⟨-, h | ⟨-, h | ⟨-, h⟩⟩⟩⟩⟩⟩⟩⟩ := h
    · exact conditional?_operands h
    · obtain ⟨p, hp, rfl⟩ := Option.map_eq_some_iff.1 h
      exact hpair (cutAtKeyword?_length hp)
    · obtain ⟨p, hp, rfl⟩ := Option.map_eq_some_iff.1 h
      exact hpair (cutAtKeyword?_length hp)
    · split at h <;> cases h
      simp only [Form.operands, List.mem_singleton, forall_eq, List.length_drop]
      omega
    · exact comparison?_operands h
    · exact binary_operands (fun t ht => List.mem_reverse.1 ht) h
    · exact binary_operands (fun t ht => List.mem_reverse.1 ht) h
    · exact signed?_operands h
    · exact binary_operands (fun t ht => ht) h

end Expression

namespace Statement

open Text Source

/-! ## Bodies -/

/-- What some lines weigh: their characters, and one for each line. -/
def weight (lines : List Line) : Nat := weightOf (lines.map (·.text))

theorem weight_cons (line : Line) (rest : List Line) :
    weight (line :: rest) = line.text.length + 1 + weight rest := by
  simp [weight, weightOf]

theorem weight_take_le (n : Nat) (lines : List Line) : weight (lines.take n) ≤ weight lines := by
  induction lines generalizing n with
  | nil => simp
  | cons line rest ih =>
    cases n with
    | zero => simp [weight, weightOf]
    | succ n =>
      have := ih n
      rw [List.take_succ_cons, weight_cons, weight_cons]
      omega

theorem header_inline_lt {keyword : String} {line : Line} {h : Header}
    (hh : header keyword line = .ok h) : h.inline.length < line.text.length := by
  unfold header at hh
  split at hh
  · cases hh
  · next i hi =>
    cases hh
    have hlt := headerColon?_lt hi
    have htrim := length_trim_le (line.text.drop (i + 1))
    rw [List.length_drop] at htrim
    dsimp only
    omega

/-- Lines that come from inside others: they weigh less, and their numbers are numbers of the
others. -/
structure Inside (inner outer : List Line) : Prop where
  weight_lt : weight inner < weight outer
  numbers : ∀ l ∈ inner, l.number ∈ outer.map (·.number)

theorem Inside.cons {inner rest : List Line} (h : Inside inner rest) (line : Line) :
    Inside inner (line :: rest) where
  weight_lt := by
    have := h.weight_lt
    rw [weight_cons]
    omega
  numbers l hl := List.mem_cons_of_mem _ (h.numbers l hl)

/-- The lines of a body have the numbers of the lines that hold it. -/
theorem body_numbers (line : Line) (inline : List Char) (rest : List Line) :
    ∀ l ∈ (body line inline rest).lines, l.number ∈ (line :: rest).map (·.number) := by
  intro l hl
  unfold body at hl
  split at hl
  · exact List.mem_cons_of_mem _ (List.mem_map_of_mem (List.mem_of_mem_take hl))
  · obtain ⟨text, -, rfl⟩ := List.mem_map.1 hl
    exact List.mem_cons_self

theorem body_inside {line : Line} {inline : List Char} (h : inline.length < line.text.length)
    (rest : List Line) : Inside (body line inline rest).lines (line :: rest) := by
  refine ⟨?_, body_numbers line inline rest⟩
  rw [weight_cons]
  unfold body
  split
  · have := weight_take_le (blockLength line.indent rest) rest
    dsimp only
    omega
  · have hfilter := weightOf_filter_le (fun p => !p.isEmpty) (cutTopLevel ';' inline)
    have hcut := weightOf_cutTopLevel_le ';' inline
    simp only [weight, List.map_map, Function.comp_def, List.map_id']
    omega

theorem clausesFrom_inside {indent : Nat} {words last : List String} {skip used : Nat}
    {lines : List Line} {clauses : List Clause}
    (h : clausesFrom indent words last skip lines = .ok (clauses, used)) :
    ∀ c ∈ clauses, Inside c.lines lines := by
  induction lines generalizing skip clauses used with
  | nil =>
    cases h
    simp
  | cons line rest ih =>
    unfold clausesFrom at h
    split at h
    · exact fun c hc => (ih h c hc).cons line
    · dsimp only at h
      split at h
      · cases hh : header (firstName line.text) line with
        | error f => simp [hh, bind, Except.bind] at h
        | ok hd =>
          have hbody := body_inside (header_inline_lt hh) rest
          simp only [hh, bind, Except.bind] at h
          split at h
          · cases h
            simpa using hbody
          · split at h
            · cases h
            · next hmore =>
              cases h
              intro c hc
              obtain rfl | hc := List.mem_cons.1 hc
              · exact hbody
              · exact (ih hmore c hc).cons line
      · cases h
        simp

/-- The bodies of a compound statement come from inside its lines. -/
theorem compound_inside {keyword : String} {words last : List String} {line : Line}
    {rest : List Line} {c : Compound} (h : compound keyword words last line rest = .ok c) :
    Inside c.lines (line :: rest) ∧ ∀ cl ∈ c.clauses, Inside cl.lines (line :: rest) := by
  unfold compound at h
  cases hh : header keyword line with
  | error f => simp [hh, bind, Except.bind] at h
  | ok hd =>
    simp only [hh, bind, Except.bind] at h
    split at h
    · cases h
    · next hmore =>
      cases h
      exact ⟨body_inside (header_inline_lt hh) rest, fun cl hcl =>
        (clausesFrom_inside hmore cl hcl).cons line⟩

end Statement

end SnippetGrader
