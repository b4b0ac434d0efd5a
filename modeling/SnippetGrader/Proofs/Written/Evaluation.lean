import SnippetGrader.Proofs.Rendering.Evaluation
import SnippetGrader.Proofs.Written.Reading

/-!
# Evaluating what was written

A written content is evaluated to a new value with this content. `Content.evaluate_text` takes one
level of nesting; induction on the levels of the engine gives the whole evaluation, and
`evaluate_repr` puts it together with how values are written.
-/

namespace SnippetGrader.Expression

open Text Source Layout

/-! ## Arguments -/

/-- A text that is an argument by its position. -/
structure IsArgument (a : List Char) : Prop where
  isPiece : IsPiece ',' a
  unnamed : keywordArgument? a = none
  unstarred : a.head? ≠ some '*'

theorem argumentsFrom_eq (e : Engine) (scope : Nat) {parts : List (List Char)}
    (h : ∀ a ∈ parts, IsArgument a) (args : List Value) :
    argumentsFrom e scope args [] parts =
      parts.mapM (e.eval scope) >>= fun vs => pure (args ++ vs, []) := by
  induction parts generalizing args with
  | nil => simp [argumentsFrom]
  | cons a parts ih =>
    have ha := h a List.mem_cons_self
    have hne : a.isEmpty = false := List.isEmpty_eq_false_iff.2 ha.isPiece.ne_nil
    have hstar : (a.head? == some '*') = false := beq_eq_false_iff_ne.2 ha.unstarred
    have hrest (v : Value) := ih (fun b hb => h b (List.mem_cons_of_mem a hb)) (args ++ [v])
    simp only [argumentsFrom, hne, Bool.false_eq_true, if_false, ha.unnamed, hstar, Bool.false_and,
      hrest, List.mapM_cons, bind_assoc, pure_bind, List.append_assoc, List.singleton_append]

/-- Arguments are evaluated one after the other. One that stands alone must not be a
comprehension. -/
theorem arguments_eq (e : Engine) (scope : Nat) {parts : List (List Char)}
    (h : ∀ a ∈ parts, IsArgument a) (halone : ∀ a, parts = [a] → comprehension? a = none) :
    arguments e scope (joinBy ',' parts) =
      parts.mapM (e.eval scope) >>= fun vs => pure (vs, []) := by
  have hcut : cutTopLevel ',' (joinBy ',' parts) = parts :=
    cutTopLevel_joinBy (fun a ha => (h a ha).isPiece) (by decide) (by decide)
  have hfrom := argumentsFrom_eq e scope h []
  simp only [List.nil_append] at hfrom
  rw [arguments, hcut, ← hfrom]
  match parts, halone with
  | [], _ => exact rfl
  | [a], halone =>
    simp only [halone a rfl]
  | _ :: _ :: _, _ => exact rfl

end SnippetGrader.Expression

namespace SnippetGrader.Written

open Text Source Rendering Expression

/-! ## Whole numbers -/

theorem digitOf?_of_isDigit {c : Char} (h : c.isDigit = true) :
    Number.digitOf? c = some (c.toNat - '0'.toNat) := by
  obtain ⟨n, hn, rfl⟩ := exists_digit h
  revert n
  decide

theorem valueOf_digits {ds : List Char} (h : ∀ c ∈ ds, c.isDigit = true) (acc : Nat) :
    Number.valueOf 10 acc ds = Nat.ofDigitChars 10 ds acc := by
  induction ds generalizing acc with
  | nil => rfl
  | cons c ds ih =>
    rw [Number.valueOf, ih fun d hd => h d (List.mem_cons_of_mem c hd),
      digitOf?_of_isDigit (h c List.mem_cons_self), Nat.ofDigitChars_cons, Option.getD_some,
      Nat.mul_comm acc]

theorem tenPow_eq (n : Nat) : Number.tenPow n = 10 ^ n := rfl

theorem exists_decimalNumber {n : Nat} (h : n < Number.tenPow Number.maxDigits) :
    ∃ x : DecimalNumber, x.text = Number.digitsOf n ∧ x.value = .ok (n : Int) := by
  have hdigits : ∀ c ∈ Number.digitsOf n, c.isDigit = true := fun c hc =>
    Nat.isDigit_of_mem_toDigits (by decide) (by decide) hc
  have hvalue : Number.valueOf 10 0 (Number.digitsOf n) = n := by
    rw [valueOf_digits hdigits]
    exact Nat.ofDigitChars_toDigits (by decide) (by decide)
  have hshort : ¬(Number.digitsOf n).length > Number.maxDigits := by
    rw [tenPow_eq] at h
    rw [Nat.not_lt]
    exact (Nat.length_toDigits_le_iff (by decide) (by decide)).2 h
  obtain ⟨c, more, htext⟩ := List.exists_cons_of_ne_nil
    (show Number.digitsOf n ≠ [] from Nat.toDigits_ne_nil)
  have hall := hdigits
  rw [htext, List.forall_mem_cons] at hdigits
  let x : DecimalNumber := ⟨c, more, hdigits.1, fun d hd => .inr (hdigits.2 d hd)⟩
  have hx : x.text = Number.digitsOf n := htext.symm
  have hfilter : x.digits = Number.digitsOf n := by
    rw [DecimalNumber.digits, hx, List.filter_eq_self]
    intro d hd
    rw [bne_iff_ne]
    rintro rfl
    exact absurd (hall '_' hd) (by decide)
  refine ⟨x, hx, ?_⟩
  rw [DecimalNumber.value, hfilter, if_neg hshort, hvalue]

/-! ## Literals -/

theorem numberValue?_eq_none {c : Char} (hc : c ∈ ['[', '"', '\'']) (rest : List Char) :
    Literal.numberValue? (c :: rest) = .none := by
  have hhead : isDecimalDigit c = false ∧ c ≠ '.' ∧ c ≠ '+' ∧ c ≠ '-' := by
    obtain rfl | rfl | rfl : c = '[' ∨ c = '"' ∨ c = '\'' := by simpa using hc
    · decide
    · decide
    · decide
  have hnumber : Literal.isNumber (c :: rest) = false := by
    refine isNumber_eq_false_of_head ?_
    simp [Literal.dropSign, hhead]
  simp [Literal.numberValue?, hnumber]

theorem trim_marked {mark : Char} (hmark : isQuote mark = true) (body : List Char) :
    trim (marked mark body) = marked mark body := by
  have hblank := (mark_facts hmark).2.2.1
  exact Layout.trim_eq_self_iff.2 (Content.ends_enclosed hblank hblank body)

namespace LiteralBody

section Value

variable {mark : Char} {body : List Char} (h : LiteralBody mark body) (hmark : isQuote mark = true)
include h hmark

variable {v : Value} (hvalue : Literal.stringValue ⟨[], mark, false⟩ (marked mark body) = pure v)
include hvalue

/-- A literal is evaluated to the value that it stands for. -/
theorem evaluate_marked (e : Engine) (scope : Nat) :
    Expression.evaluate e scope (marked mark body) = pure v := by
  have hword := (mark_facts hmark).2.2.2.1
  have hquote : mark ∈ ['[', '"', '\''] := by
    obtain rfl | rfl : mark = '"' ∨ mark = '\'' := by simpa [isQuote] using hmark
    · decide
    · decide
  have htrim := trim_marked hmark body
  have hwords : String.ofList (marked mark body) ∉ ["None", "True", "False"] :=
    not_constant ⟨mark, List.mem_cons_self, hword⟩
  have hnumber : Literal.numberValue? (marked mark body) = none := numberValue?_eq_none hquote _
  have hplain : Literal.Opening.isTemplate ⟨[], mark, false⟩ = false := rfl
  refine evaluate_of_literal htrim (List.cons_ne_nil _ _) ?_
  rw [literal?_string hwords hnumber (h.opening?_marked hmark) (h.stop_marked hmark), stringValue,
    hplain, if_neg Bool.false_ne_true, hvalue]

/-- A literal is the only argument, whatever it holds. -/
theorem arguments_marked (e : Engine) (scope : Nat) :
    Expression.arguments e.next scope (marked mark body) = pure ([v], []) := by
  have hpasses (sep : Char) : Passes (lacks sep) 0 (marked mark body) :=
    .marked (fun _ => rfl) hmark h
  have hquote : mark = '"' ∨ mark = '\'' := by simpa [isQuote] using hmark
  have hargument : IsArgument (marked mark body) := by
    refine ⟨⟨(hpasses ',').after, (hpasses ',').admits, trim_marked hmark body,
      List.cons_ne_nil _ _⟩, ?_, fun hstar => ?_⟩
    · obtain rfl | rfl := hquote
      · exact rfl
      · exact rfl
    · cases hstar
      simp at hquote
  have hfor : comprehension? (marked mark body) = none := by
    have hnone : findKeyword ["for"] (marked mark body) = [] :=
      findKeywordFrom_eq_nil [] rfl (hpasses 'f').admits 0 none
    rw [comprehension?, hnone]
    rfl
  have hliteral : e.next.eval scope (marked mark body) = pure v :=
    h.evaluate_marked hmark hvalue e scope
  have harguments := arguments_eq e.next scope (List.forall_mem_singleton.2 hargument)
    fun a ha => by
      cases ha
      exact hfor
  rw [Layout.joinBy_singleton] at harguments
  simp only [harguments, List.mapM_cons, List.mapM_nil, hliteral, pure_bind]

end Value

end LiteralBody

namespace Content

variable (e : Engine) (scope : Nat)

theorem evaluate_none : Expression.evaluate e scope none.text = none.build := by
  refine evaluate_of_literal none.trim_text none.text_ne_nil ?_
  rfl

theorem evaluate_bool (b : Bool) : Expression.evaluate e scope (bool b).text = (bool b).build := by
  refine evaluate_of_literal (bool b).trim_text (bool b).text_ne_nil ?_
  cases b <;> rfl

theorem evaluate_int (n : Int) (short : n.natAbs < Number.tenPow Number.maxDigits) :
    Expression.evaluate e scope (int n short).text = (int n short).build := by
  refine evaluate_of_literal (int n short).trim_text (int n short).text_ne_nil ?_
  obtain ⟨x, htext, hvalue⟩ := exists_decimalNumber short
  have hquote : ∀ c ∈ (int n short).text, isQuote c = false := by
    intro c hc
    obtain rfl | hdigit := mem_text_int hc
    · rfl
    · exact isQuote_of_isPlain (isPlain_of_isWord (isWord_of_isDigit hdigit))
  have hwords : String.ofList (int n short).text ∉ ["None", "True", "False"] := by
    refine not_constant_of_digit ⟨x.first, ?_, isDecimalDigit_of_isDigit x.first_isDigit⟩
    rw [text, ← htext]
    exact List.mem_append_right _ List.mem_cons_self
  have hread := x.numberValue?_text (decide (n < 0))
  have htextInt : (if decide (n < 0) then '-' :: x.text else x.text) = (int n short).text := by
    rw [text, ← htext]
    by_cases hn : n < 0
    · simp [hn]
    · simp [hn]
  have hresult : (if decide (n < 0) then (- ·) else id) <$> x.value = .ok n := by
    rw [hvalue]
    by_cases hn : n < 0
    · have habs : -(n.natAbs : Int) = n := by omega
      simp only [hn, decide_true, if_true]
      exact congrArg Except.ok habs
    · have habs : (n.natAbs : Int) = n := by omega
      simp only [hn, decide_false, Bool.false_eq_true, if_false]
      exact congrArg Except.ok habs
  rw [htextInt, hresult] at hread
  rw [literal?_eq hwords hquote, hread]
  rfl

theorem evaluate_str (s : String) :
    Expression.evaluate e scope (str s).text = (str s).build := by
  have hmark := isQuote_quoteMark s.toList
  have hvalue := (literalBody_quote s.toList).stringValue_marked hmark
    (fun c hc => isPrintable_flatMap hc) (unescape?_flatMap hmark s.toList)
  rw [text, quote_eq, (literalBody_quote s.toList).evaluate_marked hmark hvalue,
    String.ofList_toList, build]

theorem listValue_joined (items : List Content) :
    listValue e scope (joined items) =
      (items.map text).mapM (e.eval scope) >>= fun vs => Run.newList vs.toArray := by
  have hfilter : (items.map text).filter (fun p => !p.isEmpty) = items.map text := by
    rw [List.filter_eq_self]
    intro a ha
    obtain ⟨t, -, rfl⟩ := List.mem_map.1 ha
    simpa using t.text_ne_nil
  rw [listValue, comprehension?_joined]
  simp only [evaluateEach, cutTopLevel_joined, hfilter]

theorem evaluate_list (items : List Content) :
    Expression.evaluate e scope (list items).text =
      (items.map text).mapM (e.eval scope) >>= fun vs => Run.newList vs.toArray := by
  refine evaluate_of_literal (list items).trim_text (list items).text_ne_nil ?_
  have hwords : String.ofList (list items).text ∉ ["None", "True", "False"] := by
    rw [text_list]
    exact not_constant ⟨'[', List.mem_cons_self, by decide⟩
  have hnumber : Literal.numberValue? (list items).text = .none := by
    rw [text_list]
    exact numberValue?_eq_none (by simp) _
  have hopening : Literal.opening? (list items).text = .none := by
    rw [text_list]
    rfl
  have hinner : (list items).text.tail.dropLast = joined items := by
    rw [text_list, List.tail_cons, List.dropLast_concat]
  rw [literal?_of_opening hwords hopening, hnumber, isEnclosed_list, hinner, trim_joined,
    listValue_joined, text_list]
  rfl

/-! ## All levels -/

variable {e scope} {R : Congruence}

/-- An engine that evaluates what contents of less than a depth are written as. -/
def Rebuilds (R : Congruence) (e : Engine) (scope d : Nat) : Prop :=
  ∀ t : Content, t.depth < d → R.rel (e.eval scope t.text) t.build

theorem mapM_items {items : List Content} {d : Nat} (h : ∀ t ∈ items, t.depth < d)
    (he : Rebuilds R e scope d) :
    R.rel ((items.map text).mapM (e.eval scope)) (buildAll items) := by
  induction items with
  | nil => exact R.refl _
  | cons t ts ih =>
    have hfirst := he t (h t List.mem_cons_self)
    have hrest := ih fun u hu => h u (List.mem_cons_of_mem t hu)
    simp only [List.map_cons, List.mapM_cons, buildAll]
    exact R.bind hfirst fun v => R.bind hrest fun vs => R.refl _

/-- **A written content is evaluated to a value with this content** on every engine that does so for
the items of lists. -/
theorem evaluate_text (t : Content) (he : Rebuilds R e scope t.depth) :
    R.rel (Expression.evaluate e scope t.text) t.build := by
  cases t with
  | none =>
    rw [evaluate_none]
    exact R.refl _
  | bool b =>
    rw [evaluate_bool]
    exact R.refl _
  | int n short =>
    rw [evaluate_int]
    exact R.refl _
  | str s =>
    rw [evaluate_str]
    exact R.refl _
  | list items =>
    have hitems := mapM_items (fun t ht => depth_lt ht) he
    rw [evaluate_list, build]
    exact R.bind hitems fun vs => R.refl _

theorem rebuilds_over (bottom : Engine) (scope n : Nat) :
    Rebuilds .equality (bottom.over n) scope n := by
  induction n with
  | zero =>
    intro t hd
    omega
  | succ n ih =>
    intro t hd
    exact t.evaluate_text fun u hu => ih u (by omega)

theorem rebuilds_level (scope n d : Nat) : Rebuilds .unlessExhausted (Engine.level n) scope d := by
  induction n generalizing d with
  | zero =>
    intro t _ m
    exact .inr ⟨m, rfl⟩
  | succ n ih =>
    intro t _
    exact t.evaluate_text (ih t.depth)

end Content

/-! ## Writing and evaluating -/

/-- A computation that starts on `m` with a value `v` of content `t` gives a value `w` that is equal
to it, and only makes lists on its way. -/
structure Returns (m : Machine) (t : Content) (v w : Value) (m' : Machine) : Prop where
  making : ∃ more, m' = m.making more
  kept : t.Holds m'.store v
  holds : t.Holds m'.store w
  equal : ∀ depth, t.depth < depth → Value.eqWithin m'.store depth v w = .ok true

theorem Returns.of_build {m : Machine} {t : Content} {v : Value} (h : t.Holds m.store v) :
    ∃ w m', t.build m = .ok w m' ∧ Returns m t v w m' := by
  obtain ⟨w, more, hbuild, hholds⟩ := t.build_builds m
  have hkept : t.Holds (m.making more).store v := h.making more
  exact ⟨w, m.making more, hbuild, ⟨more, rfl⟩, hkept, hholds, fun depth => hkept.eqWithin hholds⟩

/-- **Written values are read back.** A value of constants, whole numbers, texts and nested lists has
one text, unless it is nested too deeply to be written, and a list is printed as this text. In every
scope of every machine, attached to a run or not, the text is evaluated to an equal value with the
same content: on every engine that has enough levels of nesting, and on every host unless the value
is nested too deeply for its levels and evaluation runs out of them. -/
theorem evaluate_repr {m : Machine} {t : Content} {v : Value} (h : t.Holds m.store v)
    (scope : Nat) :
    ∃ text : String,
      (∀ depth, Value.reprWithin m.store [] depth v =
        if t.depth < depth then .ok text else .error (.exhausted .writing)) ∧
      (∀ ref, v = .list ref → v.displayText m.store = v.reprText m.store) ∧
      (∀ (bottom : Engine) (n : Nat), t.depth ≤ n → ∃ w m',
        Expression.evaluate (bottom.over n) scope text.toList m = .ok w m' ∧
          Returns m t v w m') ∧
      ∀ host : Host,
        (∃ w m', evaluate scope text host m = .ok w m' ∧ Returns m t v w m') ∨
          host.levels < t.depth ∧
            ∃ m', evaluate scope text host m = .error (.exhausted .evaluation) m' := by
  have hbuild := Returns.of_build h
  have hexact : ∀ (bottom : Engine) (n : Nat), t.depth ≤ n →
      Expression.evaluate (bottom.over n) scope t.text = t.build := by
    intro bottom n hn
    exact t.evaluate_text (R := .equality) fun u hu => Content.rebuilds_over bottom scope n u (by omega)
  refine ⟨String.ofList t.text, h.reprWithin (by simp), ?_, ?_, ?_⟩
  · rintro ref rfl
    rfl
  · intro bottom n hn
    rw [String.toList_ofList, hexact bottom n hn]
    exact hbuild
  · intro host
    rw [evaluate, String.toList_ofList, Host.engine]
    by_cases hdepth : t.depth ≤ host.levels
    · rw [Engine.level_eq_over, hexact Engine.exhausted host.levels hdepth]
      exact .inl hbuild
    · -- not enough levels: the outcome is the same, or evaluation runs out of them
      have hvalue := t.evaluate_text (Content.rebuilds_level scope host.levels t.depth)
      obtain hsame | hexhausted := hvalue m
      · rw [hsame]
        exact .inl hbuild
      · exact .inr ⟨by omega, hexhausted⟩

theorem evaluate_repr_nested :
    let inner : Array Value := #[.str "it's \"a\\b\"", .bool true]
    let outer : Array Value := #[.list 0, .int (-42), .none, .str "[for, 'x']\n", .list 0]
    let m : Machine := { store := { lists := #[inner, outer] } }
    ∃ text, Value.reprText m.store (.list 1) = .ok text ∧
      text = "[['it\\'s \"a\\\\b\"', True], -42, None, \"[for, 'x']\\n\", ['it\\'s \"a\\\\b\"', True]]" ∧
      ∃ w m', evaluate 0 text {} m = .ok w m' ∧ Value.eq m'.store (.list 1) w = .ok true := by
  intro inner outer m
  have hshort : (-42 : Int).natAbs < Number.tenPow Number.maxDigits := by
    rw [tenPow_eq]
    exact Nat.lt_trans (show 42 < Number.maxDigits by decide) (Nat.lt_pow_self (by decide))
  let pair : Content := .list [.str "it's \"a\\b\"", .bool true]
  let t : Content := .list [pair, .int (-42) hshort, .none, .str "[for, 'x']\n", pair]
  have hholds : t.Holds m.store (.list 1) := by
    simp [t, pair, m, inner, outer, Content.Holds, Content.HoldsAll, Store.items]
  have hdepth : t.depth = 2 := rfl
  obtain ⟨text, hwritten, -, -, hvalue⟩ := evaluate_repr hholds 0
  have hrepr := hwritten m.host.nesting
  rw [hdepth, if_pos (by decide)] at hrepr
  obtain ⟨w, m', heval, hreturns⟩ := (hvalue {}).resolve_right fun hdeep => by
    rw [hdepth] at hdeep
    exact absurd hdeep.1 (by decide)
  have hnesting : t.depth < m'.host.nesting := by
    obtain ⟨more, rfl⟩ := hreturns.making
    exact (by decide : 2 < 900)
  refine ⟨text, hrepr, ?_, w, m', heval, hreturns.equal _ hnesting⟩
  have htext : Value.reprWithin m.store [] m.host.nesting (.list 1) = _ :=
    hholds.reprWithin (by simp) m.host.nesting
  rw [hdepth, if_pos (by decide), hrepr] at htext
  rw [Except.ok.inj htext, ← String.toList_inj, String.toList_ofList]
  rfl

end SnippetGrader.Written
