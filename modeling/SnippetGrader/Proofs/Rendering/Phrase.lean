import SnippetGrader.Proofs.Rendering.Arithmetic

/-!
# Cutting a row at a phrase

Conditionals, connectives and comparisons are cut where their words or symbols first occur. The
operands before them lack these, so a search passes over them (`phraseSpans_append`) and stops
between the operands.
-/

namespace SnippetGrader.Rendering

open Text Source Expression

/-- No lexeme of a row is a word. -/
def Lacks (w : String) (ps : List Lexeme) : Prop := ∀ p ∈ ps, p.word? ≠ some w.toList

theorem Lexeme.word?_reserved {w : String} (hw : w ∈ reservedWords) {p : Lexeme}
    (hp : p.word? = some w.toList) : ∃ k, p = .keyword k ∧ k.text = w := by
  cases p with
  | number n =>
    have hletters : reservedWords.all (fun w => w.toList.all fun c => !c.isDigit) = true := by decide
    have hfirst : n.first ∈ w.toList := Option.some.inj hp ▸ List.mem_cons_self
    have hdigit := List.all_eq_true.1 (List.all_eq_true.1 hletters w hw) _ hfirst
    rw [n.first_isDigit] at hdigit
    cases hdigit
  | name x =>
    have htext : x.text = w.toList := Option.some.inj hp
    have hofList : String.ofList x.text = w := by rw [htext, String.ofList_toList]
    exact absurd (hofList ▸ hw) x.not_reserved
  | keyword k => exact ⟨k, rfl, String.ext (Option.some.inj hp)⟩
  | _ => cases hp

theorem lacks_of_rank {w : String} (hw : w ∈ reservedWords) {j : Nat}
    (hj : ∀ k : Keyword, k.text = w → (Lexeme.keyword k).rank < j) {ps : List Lexeme}
    (hps : ∀ p ∈ ps, j ≤ p.rank) : Lacks w ps := by
  intro p hp hword
  obtain ⟨k, rfl, hk⟩ := Lexeme.word?_reserved hw hword
  exact Nat.not_lt.2 (hps _ hp) (hj k hk)

theorem phraseSpans_append {w : String} {next : List String} {ps : List Lexeme} (h : Lacks w ps)
    (i : Nat) (qs : List Lexeme) :
    phraseSpans (w :: next) i (ps ++ qs) = phraseSpans (w :: next) (i + (writing ps).length) qs := by
  induction ps generalizing i with
  | nil => rfl
  | cons p ps ih =>
    have hp : ∀ v ∈ (w :: next).head?, p.word? ≠ some v.toList := by
      rintro v ⟨⟩
      exact h p List.mem_cons_self
    have hlength : (writing (p :: ps)).length = p.chars.length + (writing ps).length := by simp
    rw [List.cons_append, phraseSpans, dropWords_eq_none (List.cons_ne_nil _ _) hp,
      ih fun q hq => h q (List.mem_cons_of_mem p hq), hlength, Nat.add_assoc]
    rfl

theorem phraseSpans_eq_nil {w : String} {next : List String} {ps : List Lexeme} (h : Lacks w ps)
    (i : Nat) : phraseSpans (w :: next) i ps = [] := by
  rw [← List.append_nil ps, phraseSpans_append h]
  rfl

theorem phraseSpans_keyword (k : Keyword) (i : Nat) (ps : List Lexeme) :
    phraseSpans [k.text] i (.keyword k :: ps) =
      ⟨i, i + k.text.toList.length⟩ ::
        phraseSpans [k.text] (i + k.text.toList.length) ps := by
  have hdrop : dropWords [k.text] (.keyword k :: ps) = some ps := if_pos rfl
  rw [phraseSpans, hdrop]
  simp [Lexeme.chars]

theorem isPhrase_reserved {phrase : List String} (hne : phrase ≠ [])
    (h : ∀ w ∈ phrase, w ∈ reservedWords) : IsPhrase phrase := by
  have hnonempty : ∀ w ∈ reservedWords, w.toList ≠ [] := by decide
  have hwords : reservedWords.all (fun w => w.toList.all isWord) = true := by decide
  exact ⟨hne, fun w hw => ⟨hnonempty w (h w hw),
    List.all_eq_true.1 (List.all_eq_true.1 hwords w (h w hw))⟩⟩

theorem text_reserved (k : Keyword) : k.text ∈ reservedWords := by cases k <;> decide

theorem take_joined (ps mid qs : List Lexeme) :
    (writing (joined ps mid qs)).take ((writing ps).length + 1) = writing ps ++ [' '] := by
  have hsplit : writing (joined ps mid qs) =
      (writing ps ++ [' ']) ++ (writing mid ++ ' ' :: writing qs) := by
    simp [writing_joined]
  rw [hsplit]
  exact List.take_left' (by simp)

theorem drop_joined (ps mid qs : List Lexeme) :
    (writing (joined ps mid qs)).drop ((writing ps).length + 1 + (writing mid).length) =
      ' ' :: writing qs := by
  have hsplit : writing (joined ps mid qs) =
      (writing ps ++ ' ' :: writing mid) ++ ' ' :: writing qs := by
    simp [writing_joined]
  rw [hsplit]
  refine List.drop_left' ?_
  simp
  omega

section

variable {ps qs : List Lexeme} {k : Keyword}

/-- A search passes over the left operand and stops at the keyword. -/
theorem findKeyword_joined (h : Legible (joined ps [.keyword k] qs)) (hps : Lacks k.text ps) :
    ∃ spans, findKeyword [k.text] (writing (joined ps [.keyword k] qs)) =
      ⟨(writing ps).length + 1, (writing ps).length + 1 + k.text.toList.length⟩ :: spans := by
  have hspace : Lacks k.text [.space] := by
    intro p hp hword
    rw [List.mem_singleton.1 hp] at hword
    cases hword
  have hphrase : IsPhrase [k.text] :=
    isPhrase_reserved (by simp) (by simpa using text_reserved k)
  rw [findKeyword_writing hphrase h, joined, phraseSpans_append hps]
  change ∃ spans, phraseSpans [k.text] _ ([Lexeme.space] ++ Lexeme.keyword k :: .space :: qs) = _
  rw [phraseSpans_append hspace, phraseSpans_keyword]
  simp [Lexeme.chars]

theorem cutAtKeyword?_joined (h : Legible (joined ps [.keyword k] qs)) (hps : Lacks k.text ps) :
    cutAtKeyword? k.text (writing (joined ps [.keyword k] qs)) =
      some (writing ps ++ [' '], ' ' :: writing qs) := by
  obtain ⟨spans, hspans⟩ := findKeyword_joined h hps
  have hdrop := drop_joined ps [.keyword k] qs
  have hmid : writing [.keyword k] = k.text.toList := by simp [Lexeme.chars]
  rw [hmid] at hdrop
  rw [cutAtKeyword?, innerKeywords, hspans, List.filter_cons_of_pos (by simp)]
  simp only [List.head?_cons, Option.map_some, take_joined, hdrop]

end

theorem findKeyword_eq_nil {w : String} {next : List String} {ps : List Lexeme} (h : Legible ps)
    (hwords : ∀ v ∈ w :: next, v ∈ reservedWords) (hps : Lacks w ps) :
    findKeyword (w :: next) (writing ps) = [] := by
  rw [findKeyword_writing (isPhrase_reserved (List.cons_ne_nil _ _) hwords) h]
  exact phraseSpans_eq_nil hps 0

theorem joined_joined (ps mid qs mid' rs : List Lexeme) :
    joined ps mid (joined qs mid' rs) = joined (joined ps mid qs) mid' rs := by
  simp [joined]

theorem Lacks.joined {w : String} {ps mid qs : List Lexeme} (hps : Lacks w ps) (hmid : Lacks w mid)
    (hqs : Lacks w qs) : Lacks w (joined ps mid qs) := by
  intro p hp
  simp only [Rendering.joined, List.mem_append, List.mem_cons] at hp
  obtain hp | rfl | hp | rfl | hp := hp
  · exact hps p hp
  · exact fun h => by cases h
  · exact hmid p hp
  · exact fun h => by cases h
  · exact hqs p hp

/-- A conditional is cut at the first `if` and the first `else` after it. -/
theorem conditional?_joined {ps qs rs : List Lexeme}
    (h : Legible (joined ps [.keyword .condition] (joined qs [.keyword .otherwise] rs)))
    (hps : ∀ p ∈ ps, 1 ≤ p.rank) (hqs : ∀ p ∈ qs, 1 ≤ p.rank) :
    conditional? (writing (joined ps [.keyword .condition] (joined qs [.keyword .otherwise] rs))) =
      some (.conditional (' ' :: (writing qs ++ [' '])) (writing ps ++ [' ']) (' ' :: writing rs)) := by
  have hif : ∀ {row : List Lexeme}, (∀ p ∈ row, 1 ≤ p.rank) → Lacks Keyword.condition.text row :=
    lacks_of_rank (by decide) (by intro k; cases k <;> decide)
  have helse : ∀ {row : List Lexeme}, (∀ p ∈ row, 1 ≤ p.rank) → Lacks Keyword.otherwise.text row :=
    lacks_of_rank (by decide) (by intro k; cases k <;> decide)
  obtain ⟨spans, hspans⟩ := findKeyword_joined h (hif hps)
  have hfront : Lacks Keyword.otherwise.text (joined ps [.keyword .condition] qs) :=
    (helse hps).joined (by simp [Lacks]; decide) (helse hqs)
  have hrow := joined_joined ps [.keyword .condition] qs [.keyword .otherwise] rs
  obtain ⟨spans', hspans'⟩ := findKeyword_joined (hrow ▸ h) hfront
  have hstart := take_joined ps [.keyword .condition] (joined qs [.keyword .otherwise] rs)
  have hlength : (writing (joined ps [.keyword .condition] qs)).length =
      (writing ps).length + 1 + 2 + 1 + (writing qs).length := by
    simp [writing_joined, Lexeme.chars, Keyword.text]
    omega
  have hmiddle : (writing (joined ps [.keyword .condition] qs) ++ [' ']).drop
      ((writing ps).length + 1 + 2) = ' ' :: (writing qs ++ [' ']) := by
    rw [List.drop_append_of_le_length (by omega)]
    exact congrArg (· ++ [' ']) (drop_joined ps [.keyword .condition] qs)
  have hstop := drop_joined (joined ps [.keyword .condition] qs) [.keyword .otherwise] rs
  have htake := take_joined (joined ps [.keyword .condition] qs) [.keyword .otherwise] rs
  rw [← hrow] at hspans' hstop htake
  rw [show Keyword.condition.text = "if" from rfl] at hspans
  rw [show Keyword.otherwise.text = "else" from rfl] at hspans'
  rw [conditional?, innerKeywords, hspans, List.filter_cons_of_pos (by simp), hspans']
  simp only [List.head?_cons, Option.bind_eq_bind, Option.bind_some]
  rw [List.find?_cons_of_pos (by simp [hlength]; omega), Option.bind_some, htake, hstart]
  exact congrArg some (congr (congrFun (congrArg Form.conditional hmiddle) _) hstop)

theorem startsWithWord_eq_false {w : String} (hw : w ∈ reservedWords) {ps : List Lexeme}
    (h : Legible ps) (hps : ∀ p ∈ ps.head?, p.word? ≠ some w.toList) :
    startsWithWord (writing ps) w = false := by
  obtain ⟨-, hwords⟩ := isPhrase_reserved (List.cons_ne_nil w []) (by simpa using hw)
  obtain ⟨hne, hall⟩ := hwords w List.mem_cons_self
  have hnot : ∀ r, (∀ c ∈ r.head?, isWord c = false) → dropFront? w.toList (writing ps) ≠ some r := by
    intro r hr hdrop
    obtain ⟨p, qs, rfl, hword, -⟩ := (dropFront?_writing hne hall h hr).1 hdrop
    exact hps p rfl hword
  unfold startsWithWord
  cases hdrop : dropFront? w.toList (writing ps) with
  | none => rfl
  | some r =>
    cases r with
    | nil => exact absurd hdrop (hnot [] (by simp))
    | cons c rest =>
      cases hc : isWord c with
      | true => simp [hc]
      | false => exact absurd hdrop (hnot (c :: rest) (by simpa using hc))

/-! ## Comparisons -/

theorem symbolRank_of_comparisonOf? {s : Symbol} {c : Value.Comparison}
    (h : comparisonOf? s = some c) : Lexeme.symbolRank s = 4 := by
  cases s with
  | eq | ne | lt | le | gt | ge => rfl
  | _ => cases h

def tokenComparison? (t : Token) : Option (Span × Value.Comparison) :=
  (comparisonOf? t.symbol).map fun c => (⟨t.pos, t.stop⟩, c)

theorem filterMap_tokenComparison? {ps : List Lexeme} (hps : ∀ p ∈ ps, 5 ≤ p.rank) (i : Nat) :
    (symbolTokens i ps).filterMap tokenComparison? = [] := by
  rw [List.filterMap_eq_nil_iff]
  intro t ht
  obtain ⟨front, hs, back, rfl, -⟩ := mem_symbolTokens ht
  have hrank : 5 ≤ Lexeme.symbolRank t.symbol := hps (.symbol t.symbol hs) (by simp)
  cases hc : comparisonOf? t.symbol with
  | none => simp [tokenComparison?, hc]
  | some c =>
    rw [symbolRank_of_comparisonOf? hc] at hrank
    omega

theorem lacks_of_tight {ps : List Lexeme} (hps : ∀ p ∈ ps, 5 ≤ p.rank) {w : String}
    (hw : w ∈ ["not", "is", "in"]) : Lacks w ps := by
  have hreserved : ∀ w ∈ ["not", "is", "in"], w ∈ reservedWords := by decide
  have hrank : ∀ w ∈ ["not", "is", "in"], ∀ k : Keyword, k.text = w →
      (Lexeme.keyword k).rank < 5 := by
    intro w hw k
    revert w
    cases k <;> decide
  exact lacks_of_rank (hreserved w hw) (hrank w hw) hps

/-- A row of tight lexemes holds no comparison. -/
theorem comparison?_eq_none {ps : List Lexeme} (h : Legible ps) (hps : ∀ p ∈ ps, 5 ≤ p.rank) :
    comparison? (writing ps) = none := by
  have hwords : ∀ w ∈ comparisonWords, innerKeywords w.1 (writing ps) = [] := by
    intro w hw
    have hreserved : ∀ w ∈ comparisonWords, ∀ v ∈ w.1, v ∈ reservedWords := by decide
    have hhead : ∀ w ∈ comparisonWords, ∃ v next, w.1 = v :: next ∧ v ∈ ["not", "is", "in"] := by
      simp [comparisonWords]
    obtain ⟨v, next, hphrase, hv⟩ := hhead w hw
    have hspans := findKeyword_eq_nil h (hphrase ▸ hreserved w hw) (lacks_of_tight hps hv)
    rw [innerKeywords, hphrase, hspans]
    rfl
  have hnil : comparisons (writing ps) = [] := by
    rw [comparisons, tokens_writing h]
    have htokens := filterMap_tokenComparison? hps 0
    unfold tokenComparison? at htokens
    rw [htokens, List.nil_append, List.flatMap_eq_nil_iff]
    intro w hw
    rw [hwords w hw]
    rfl
  rw [comparison?, hnil]

section Comparison

variable {ps qs mid : List Lexeme} (h : Legible (joined ps mid qs)) (hps : ∀ p ∈ ps, 5 ≤ p.rank)
  (hqs : ∀ p ∈ qs, 5 ≤ p.rank)
include h hps

theorem innerKeywords_joined {w : String} {next : List String} (hw : w ∈ ["not", "is", "in"])
    (hwords : ∀ v ∈ w :: next, v ∈ reservedWords) :
    innerKeywords (w :: next) (writing (joined ps mid qs)) =
      (phraseSpans (w :: next) ((writing ps).length + 1) (mid ++ Lexeme.space :: qs)).filter
        fun s => s.start > 0 := by
  have hspace : Lacks w [.space] := by
    intro p hp hword
    rw [List.mem_singleton.1 hp] at hword
    cases hword
  rw [innerKeywords, findKeyword_writing (isPhrase_reserved (List.cons_ne_nil _ _) hwords) h, joined,
    phraseSpans_append (lacks_of_tight hps hw)]
  change (phraseSpans _ _ ([Lexeme.space] ++ _)).filter _ = _
  rw [phraseSpans_append hspace]
  simp [Lexeme.chars]

include hqs

theorem filterMap_tokens_joined :
    (tokens (writing (joined ps mid qs))).filterMap tokenComparison? =
      (symbolTokens ((writing ps).length + 1) mid).filterMap tokenComparison? := by
  have hright : ∀ p ∈ .space :: qs, 5 ≤ p.rank := by
    intro p hp
    obtain rfl | hp := List.mem_cons.1 hp
    · decide
    · exact hqs p hp
  rw [tokens_writing h, joined, symbolTokens_append, symbolTokens, symbolTokens_append]
  simp only [List.filterMap_append, filterMap_tokenComparison? hps,
    filterMap_tokenComparison? hright, Lexeme.symbol?, Option.map_none, Option.toList_none,
    List.nil_append, List.append_nil, Lexeme.chars, List.length_singleton, Nat.zero_add]

/-- The comparisons of a row are those in its middle. -/
theorem comparisons_joined (hmid : Lacks "is" mid) : comparisons (writing (joined ps mid qs)) =
    (symbolTokens ((writing ps).length + 1) mid).filterMap tokenComparison? ++
      ((phraseSpans ["not", "in"] ((writing ps).length + 1) (mid ++ Lexeme.space :: qs)).filter
          (fun s => s.start > 0)).map (fun s => (s, Value.Comparison.notMember)) ++
      ((phraseSpans ["in"] ((writing ps).length + 1) (mid ++ Lexeme.space :: qs)).filter
          (fun s => s.start > 0)).map fun s => (s, Value.Comparison.member) := by
  have his : Lacks "is" (mid ++ Lexeme.space :: qs) := by
    intro p hp
    simp only [List.mem_append, List.mem_cons] at hp
    obtain hp | rfl | hp := hp
    · exact hmid p hp
    · exact fun h => by cases h
    · exact lacks_of_tight hqs (by decide) p hp
  have hinner (w : String) (next : List String) (hw : w ∈ ["not", "is", "in"])
      (hwords : ∀ v ∈ w :: next, v ∈ reservedWords) :=
    innerKeywords_joined h hps hw hwords
  have htokens := filterMap_tokens_joined h hps hqs
  unfold tokenComparison? at htokens ⊢
  rw [comparisons, htokens]
  simp only [comparisonWords, List.flatMap_cons, List.flatMap_nil,
    hinner "not" ["in"] (by decide) (by decide), hinner "is" ["not"] (by decide) (by decide),
    hinner "in" [] (by decide) (by decide), hinner "is" [] (by decide) (by decide),
    phraseSpans_eq_nil his, List.filter_nil, List.map_nil, List.nil_append, List.append_nil,
    List.append_assoc]

end Comparison

theorem phraseSpans_notMember {ps : List Lexeme} (hps : Lacks "not" ps) (i : Nat) :
    phraseSpans ["not", "in"] i
        ([Lexeme.keyword .negation, .space, .keyword .member] ++ Lexeme.space :: ps) =
      [⟨i, i + 6⟩] := by
  have hdrop : dropWords ["not", "in"]
      (.keyword .negation :: .space :: .keyword .member :: .space :: ps) = some (.space :: ps) := by
    simp [dropWords, Lexeme.word?, Keyword.text]
  have hrest : Lacks "not" (.space :: .keyword .member :: .space :: ps) := by
    intro p hp
    simp only [List.mem_cons] at hp
    obtain rfl | rfl | rfl | hp := hp
    · exact fun h => by cases h
    · decide
    · exact fun h => by cases h
    · exact hps p hp
  have hlength : (writing (.keyword .negation :: .space :: .keyword .member :: .space :: ps)).length -
      (writing (.space :: ps)).length = 6 := by
    simp [Lexeme.chars, Keyword.text]
  simp only [List.cons_append, List.nil_append]
  rw [phraseSpans, hdrop, phraseSpans_eq_nil hrest, Option.map_some, hlength]
  rfl

theorem phraseSpans_afterNot {ps : List Lexeme} (hps : Lacks "in" ps) (i : Nat) :
    phraseSpans ["in"] i
        ([Lexeme.keyword .negation, .space, .keyword .member] ++ Lexeme.space :: ps) =
      [⟨i + 4, i + 6⟩] := by
  have hfront : Lacks "in" [.keyword .negation, .space] := by
    simp [Lacks]
    decide
  have hlength : (writing [.keyword .negation, .space]).length = 4 := by
    simp [Lexeme.chars, Keyword.text]
  have hright : Lacks "in" (.space :: ps) := by
    intro p hp
    obtain rfl | hp := List.mem_cons.1 hp
    · exact fun h => by cases h
    · exact hps p hp
  have hkeyword := phraseSpans_keyword .member (i + 4) (.space :: ps)
  simp only [Keyword.text, phraseSpans_eq_nil hright] at hkeyword
  change phraseSpans ["in"] i
    ([Lexeme.keyword .negation, .space] ++ Lexeme.keyword .member :: .space :: ps) = _
  rw [phraseSpans_append hfront, hlength, hkeyword]
  rfl

theorem foldl_first (s : Span) (c : Value.Comparison) {more : List (Span × Value.Comparison)}
    (h : ∀ x ∈ more, s.start < x.1.start) :
    more.foldl (fun best x => if precedes x.1 best.1 then x else best) (s, c) = (s, c) := by
  induction more with
  | nil => rfl
  | cons x more ih =>
    have hx := h x List.mem_cons_self
    have hprecedes : precedes x.1 s = false := by
      simp [precedes]
      omega
    rw [List.foldl_cons, hprecedes]
    exact ih fun y hy => h y (List.mem_cons_of_mem x hy)

/-- The first comparison of a row is the one in its middle. -/
theorem comparisons_op (op : ComparisonOp) {ps qs : List Lexeme}
    (h : Legible (joined ps op.lexemes qs)) (hps : ∀ p ∈ ps, 5 ≤ p.rank)
    (hqs : ∀ p ∈ qs, 5 ≤ p.rank) :
    ∃ more, comparisons (writing (joined ps op.lexemes qs)) =
      (⟨(writing ps).length + 1, (writing ps).length + 1 + (writing op.lexemes).length⟩,
        op.comparison) :: more ∧ ∀ x ∈ more, (writing ps).length + 1 < x.1.start := by
  have hright (w : String) (hw : w ∈ ["not", "is", "in"]) : Lacks w (.space :: qs) := by
    intro p hp
    obtain rfl | hp := List.mem_cons.1 hp
    · exact fun h => by cases h
    · exact lacks_of_tight hqs hw p hp
  have hmid : Lacks "is" op.lexemes := by
    cases op <;> simp [Lacks, ComparisonOp.lexemes] <;> decide
  rw [comparisons_joined h hps hqs hmid]
  cases op with
  | eq | ne | lt | le | gt | ge =>
    have hnone (w : String) (hw : w ∈ ["not", "is", "in"]) (s : Symbol) (hs : isOperator s = true) :
        Lacks w ([Lexeme.symbol s hs] ++ Lexeme.space :: qs) := by
      intro p hp
      obtain rfl | hp := List.mem_cons.1 hp
      · exact fun h => by cases h
      · exact hright w hw p hp
    simp only [ComparisonOp.lexemes]
    rw [phraseSpans_eq_nil (hnone "not" (by decide) _ _),
      phraseSpans_eq_nil (hnone "in" (by decide) _ _)]
    exact ⟨[], rfl, by simp⟩
  | member =>
    have hnot : Lacks "not" ([Lexeme.keyword .member] ++ Lexeme.space :: qs) := by
      intro p hp
      obtain rfl | hp := List.mem_cons.1 hp
      · decide
      · exact hright "not" (by decide) p hp
    have hin := phraseSpans_keyword .member ((writing ps).length + 1) (.space :: qs)
    simp only [Keyword.text] at hin
    simp only [ComparisonOp.lexemes]
    rw [phraseSpans_eq_nil hnot, List.singleton_append, hin,
      phraseSpans_eq_nil (hright "in" (by decide))]
    exact ⟨[], by simp [symbolTokens, Lexeme.symbol?, Lexeme.chars, Keyword.text,
      ComparisonOp.comparison], by simp⟩
  | notMember =>
    simp only [ComparisonOp.lexemes]
    rw [phraseSpans_notMember (lacks_of_tight hqs (by decide)),
      phraseSpans_afterNot (lacks_of_tight hqs (by decide))]
    refine ⟨[(⟨(writing ps).length + 1 + 4, (writing ps).length + 1 + 6⟩, .member)], ?_, ?_⟩
    · simp [symbolTokens, Lexeme.symbol?, Lexeme.chars, Keyword.text, ComparisonOp.comparison]
    · intro x hx
      rw [List.mem_singleton.1 hx]
      exact Nat.lt_add_of_pos_right (by decide)

/-- A comparison is cut at the symbol or the words that make it. -/
theorem comparison?_joined (op : ComparisonOp) {ps qs : List Lexeme}
    (h : Legible (joined ps op.lexemes qs)) (hps : ∀ p ∈ ps, 5 ≤ p.rank)
    (hqs : ∀ p ∈ qs, 5 ≤ p.rank) :
    comparison? (writing (joined ps op.lexemes qs)) =
      some (.comparison op.comparison (writing ps ++ [' ']) (' ' :: writing qs)) := by
  obtain ⟨more, hcomparisons, hmore⟩ := comparisons_op op h hps hqs
  have hfold := foldl_first ⟨(writing ps).length + 1,
    (writing ps).length + 1 + (writing op.lexemes).length⟩ op.comparison hmore
  rw [comparison?, hcomparisons]
  simp only [hfold, take_joined, drop_joined]

end SnippetGrader.Rendering
