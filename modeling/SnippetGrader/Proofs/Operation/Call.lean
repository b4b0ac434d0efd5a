import SnippetGrader.Proofs.Operation.Enclosed
import SnippetGrader.Proofs.Written.Evaluation

/-!
# Calling a function by its name

The text `f(a, b)`: the name of a function that every program has, and arguments in parentheses that
close what they open. Unless the name is bound, the arguments are evaluated from left to right and the
function is called with their values (`evaluate_call`).
-/

namespace SnippetGrader.Operation

open Text Source Expression Rendering Layout
open Written (Passes)

/-- A call with arguments by position. -/
def call (f : Identifier) (args : List (List Char)) : List Char :=
  f.text ++ enclosed (joinBy ',' args)

theorem trailersFrom?_length (text : List Char) : trailersFrom? text.length text = some [] := by
  induction text with
  | nil => exact rfl
  | cons c rest ih =>
    rw [List.length_cons, trailersFrom?, if_pos (Nat.succ_pos _), Nat.add_sub_cancel]
    exact ih

section Call

variable (f : Identifier) {args : List (List Char)}

theorem head?_enclosed_isWord (e : List Char) : ∀ c ∈ (enclosed e).head?, isWord c = false := by
  rintro c ⟨⟩
  decide

theorem opening?_call : Literal.opening? (call f args) = none :=
  opening?_word (fun _ => isWord_text f) (by decide) (by decide) _

theorem literal?_call (e : Engine) (scope : Nat) : literal? e scope (call f args) = pure none := by
  obtain ⟨c, more, hf, hstart, -⟩ := f.exists_head
  have hwords : String.ofList (call f args) ∉ ["None", "True", "False"] :=
    not_constant ⟨'(', by simp [call, enclosed], by decide⟩
  have hvalue : Literal.numberValue? (call f args) = none := by
    have hnumber : Literal.isNumber (call f args) = false :=
      (Lexeme.not_isNumber (p := .name f) rfl (fun n h => by cases h) _).1
    rw [Literal.numberValue?, hnumber]
    exact rfl
  have hbracket : ((call f args).head? == some '[') = false := by
    have hne : c ≠ '[' := ne_of_isWord (isWord_of_isNameStart hstart) (by decide)
    simp [call, hf, hne]
  rw [literal?_of_opening hwords (opening?_call f), hvalue, hbracket]
  exact rfl

theorem trim_call : trim (call f args) = call f args := by
  obtain ⟨c, more, hf, hstart, -⟩ := f.exists_head
  have htext : call f args = c :: (more ++ '(' :: joinBy ',' args ++ [')']) := by
    simp [call, enclosed, hf]
  rw [htext]
  exact trim_eq_self_iff.2 (Written.Content.ends_enclosed
    (isBlank_eq_false_of_isWord (isWord_of_isNameStart hstart)) (by decide) _)

theorem call_ne_nil : call f args ≠ [] := List.append_ne_nil_of_right_ne_nil _ (List.cons_ne_nil _ _)

end Call

/-! ## Passing over arguments -/

theorem balanced_joinBy {args : List (List Char)} (h : ∀ a ∈ args, Rendering.Balanced a) :
    Rendering.Balanced (joinBy ',' args) := by
  induction args with
  | nil => exact .nil
  | cons a args ih =>
    have ha := h a List.mem_cons_self
    cases args with
    | nil => rwa [joinBy_singleton]
    | cons b args =>
      rw [joinBy_cons_cons]
      exact ha.append (.plain (by decide) (.plain (by decide)
        (ih fun c hc => h c (List.mem_cons_of_mem a hc))))

theorem balanced_call (f : Identifier) {args : List (List Char)}
    (h : ∀ a ∈ args, Rendering.Balanced a) : Rendering.Balanced (call f args) :=
  (Balanced.of_plain fun _ hc => isPlain_of_isWord (isWord_text f hc)).append
    (.bracket .round (balanced_joinBy h) .nil)

/-- The reader passes over a text that closes what it opens. -/
theorem passes_of_balanced {a : List Char} (h : Rendering.Balanced a) {p : Char → Place → Bool}
    {depth : Nat} (hp : ∀ c ∈ a, ∀ d, depth ≤ d → p c (.code d) = true) : Passes p depth a := by
  induction h generalizing depth with
  | nil => exact ⟨rfl, rfl⟩
  | plain hc _ ih =>
    exact .cons hc (hp _ List.mem_cons_self depth (Nat.le_refl _))
      (ih fun d hd => hp d (List.mem_cons_of_mem _ hd))
  | @bracket b inner rest _ hbalanced ih ih' =>
    have hinner : Passes p (depth + 1) inner := ih fun c hc d hd => hp c (by simp [hc]) d (by omega)
    have hrest : Passes p depth rest := ih' fun c hc => hp c (by simp [hc])
    have hgroup : Passes p depth (b.opener :: (inner ++ [b.closer])) :=
      hinner.bracket b (hp _ (by simp) depth (Nat.le_refl _)) (hp _ (by simp) depth (Nat.le_refl _))
    have htext : b.opener :: (inner ++ b.closer :: rest) =
        b.opener :: (inner ++ [b.closer]) ++ rest := by
      simp
    rw [htext]
    exact hgroup.append hrest fun c hc => hbalanced.not_isQuote (List.mem_of_mem_head? hc)

/-- Commas inside brackets do not count. -/
theorem passes_writing {ps : List Lexeme} (h : .comma ∉ ps) : Passes (lacks ',') 0 (writing ps) := by
  have hplain {c : Char} (hc : isPlain c = true) (hne : c ≠ ',') :
      isPlain c = true ∧ lacks ',' c (.code 0) = true := by
    simp [hc, lacks, hne]
  induction ps with
  | nil => exact ⟨rfl, rfl⟩
  | cons p ps ih =>
    have hp : Passes (lacks ',') 0 p.chars := by
      cases hword : p.word? with
      | some w =>
        obtain ⟨hchars, -, -, -, hall⟩ := Lexeme.word?_eq_some hword
        rw [hchars]
        exact .plain fun c hc =>
          hplain (isPlain_of_isWord (hall c hc)) (ne_of_isWord (hall c hc) (by decide))
      | none =>
        cases p with
        | number n | name x | keyword k => cases hword
        | symbol s hs =>
          exact .plain fun c hc =>
            hplain ((operator_chars hs).2 c hc).2.1 ((operator_chars hs).2 c hc).2.2.2.1
        | space => exact .plain (List.forall_mem_singleton.2 (by decide))
        | comma => exact absurd List.mem_cons_self h
        | bracket b inner hb =>
          have hinner : Passes (lacks ',') 1 inner :=
            passes_of_balanced hb fun c _ d hd => by
              have hdeep : (Place.code d != .code 0) = true := by
                rw [bne_iff_ne]
                intro heq
                cases heq
                omega
              rw [lacks, hdeep, Bool.true_or]
          cases b with
          | round => exact hinner.bracket .round (by decide) (by decide)
          | square => exact hinner.bracket .square (by decide) (by decide)
    rw [writing_cons]
    exact hp.append (ih fun hmem => h (List.mem_cons_of_mem p hmem)) fun c hc =>
      (Balanced.writing ps).not_isQuote (List.mem_of_mem_head? hc)

theorem passes_hidden_of_balanced {a : List Char} (h : Rendering.Balanced a) : Passes hidden 1 a :=
  passes_of_balanced h fun c _ d hd => by
    rw [hidden, bne_iff_ne]
    intro heq
    cases heq
    omega

/-- A text that starts with a name is an argument, unless it goes on with an equals sign. -/
theorem isArgument_of_name {c : Char} {more rest : List Char}
    (hname : ∀ d ∈ c :: more, isWord d = true) (hstart : isNameStart c = true)
    (hrest : ∀ d ∈ rest.head?, isWord d = false) (hequals : (trimStart rest).head? ≠ some '=')
    (hpasses : Passes (lacks ',') 0 (c :: more ++ rest))
    (htrim : trim (c :: more ++ rest) = c :: more ++ rest) : IsArgument (c :: more ++ rest) := by
  refine ⟨⟨hpasses.after, hpasses.admits, htrim, List.cons_ne_nil _ _⟩, ?_, ?_⟩
  · have hsplit : name? (c :: more ++ rest) = some (c :: more, rest) := by
      have hword : splitName (c :: more ++ rest) = (c :: more, rest) :=
        splitName_word hname hstart hrest
      rw [name?, hword]
      exact rfl
    unfold keywordArgument?
    rw [hsplit]
    simp only [Option.bind_eq_bind, Option.bind_some]
    split
    · rfl
    · next h => exact absurd (congrArg List.head? h) hequals
    · rfl
  · have hne : c ≠ '*' := ne_of_isWord (isWord_of_isNameStart hstart) (by decide)
    simpa using hne

/-! ## Evaluating a call -/

section Evaluation

variable (f : Identifier) {args : List (List Char)} (hargs : Passes hidden 1 (joinBy ',' args))
include hargs

theorem passes_call {p : Char → Place → Bool}
    (hhidden : ∀ c place, hidden c place = true → p c place = true)
    (hp : ∀ c ∈ f.text ++ ['(', ')'], p c (.code 0) = true) : Passes p 0 (call f args) := by
  have hname : Passes p 0 f.text := .plain fun c hc =>
    ⟨isPlain_of_isWord (isWord_text f hc), hp c (List.mem_append_left _ hc)⟩
  exact hname.append (passes_enclosed hargs hhidden (hp _ (by simp)) (hp _ (by simp)))
    (by rintro c ⟨⟩; decide)

theorem isArgument_call : IsArgument (call f args) := by
  have hcomma : Passes (lacks ',') 0 (call f args) := by
    refine passes_call f hargs (fun c place h => ?_) fun c hc => ?_
    · rw [hidden] at h
      rw [lacks, h, Bool.true_or]
    · have hne : c ≠ ',' := by
        obtain hc | hc := List.mem_append.1 hc
        · exact ne_of_isWord (isWord_text f hc) (by decide)
        · rintro rfl
          simp at hc
      simp [lacks, hne]
  obtain ⟨c, more, hf, hstart, -⟩ := f.exists_head
  have htrim : trim (call f args) = call f args := trim_call f
  rw [call, hf] at hcomma htrim ⊢
  have hequals : (trimStart (enclosed (joinBy ',' args))).head? ≠ some '=' := by
    rintro ⟨⟩
  exact isArgument_of_name (hf ▸ fun _ => isWord_text f) hstart (head?_enclosed_isWord _) hequals
    hcomma htrim

theorem chain?_call :
    chain? (call f args) = some ⟨.name f.text, [.call (joinBy ',' args)]⟩ := by
  obtain ⟨c, more, hf, -, -⟩ := f.exists_head
  have hne : f.text.isEmpty = false := by
    rw [hf]
    exact rfl
  have hhead : splitHead? (call f args) = some (.name f.text, enclosed (joinBy ',' args)) := by
    have hname : splitName (call f args) = (f.text, enclosed (joinBy ',' args)) :=
      splitName_text f (head?_enclosed_isWord _)
    unfold splitHead?
    rw [opening?_call]
    simp only [hname, hne, Bool.not_false, if_true]
  have hlink : trailersFrom? 0 (enclosed (joinBy ',' args)) = some [.call (joinBy ',' args)] := by
    have hskip := trailersFrom?_length (joinBy ',' args ++ [')'])
    have hlength : (joinBy ',' args ++ [')']).length = (joinBy ',' args).length + 1 := by simp
    rw [hlength] at hskip
    have hclose := matchingClose_enclosed hargs
    rw [enclosed] at hclose ⊢
    rw [trailersFrom?, hclose]
    simp [hskip]
  rw [chain?, hhead]
  simp only [Option.bind_eq_bind, Option.bind_some, hlink]

/-- **Calling a function by its name.** -/
theorem evaluate_call {b : Builtin} (hb : Builtin.ofName? (String.ofList f.text) = some b)
    (hparts : ∀ a ∈ args, IsArgument a) (halone : ∀ a, args = [a] → comprehension? a = none)
    (e : Engine) (scope : Nat) {m : Machine}
    (hfree : (m.store.scope scope).get? (String.ofList f.text) = none) :
    Expression.evaluate e scope (call f args) m =
      (args.mapM (e.eval scope) >>= fun vs => Run.guardCall (b.invoke e vs [])) m := by
  have hother {w : String} (hw : Builtin.ofName? w = none) : (String.ofList f.text == w) = false := by
    rw [beq_eq_false_iff_ne]
    rintro rfl
    rw [hw] at hb
    cases hb
  have hnamed : callNamed? e scope (String.ofList f.text) (joinBy ',' args) m =
      (some <$> (args.mapM (e.eval scope) >>= fun vs => Run.guardCall (b.invoke e vs []))) m := by
    rw [callNamed?, Run.get_bind]
    simp only [hother (w := "print") (by decide), hother (w := "input") (by decide), Bool.and_false,
      Bool.false_eq_true, if_false, hb, arguments_eq e scope hparts halone, bind_assoc, pure_bind,
      map_eq_pure_bind]
  have hlookup : Run.lookup? scope (String.ofList f.text) m = .ok none m :=
    congrArg (EStateM.Result.ok · m) hfree
  have hchain : chainValue? e scope (call f args) m =
      (some <$> (args.mapM (e.eval scope) >>= fun vs => Run.guardCall (b.invoke e vs []))) m := by
    rw [chainValue?, chain?_call f hargs]
    simp only
    rw [namedChain?, Run.bind_eq, hlookup]
    simp only
    rw [Run.bind_eq, hnamed, Run.map_eq]
    cases (args.mapM (e.eval scope) >>= fun vs => Run.guardCall (b.invoke e vs [])) m <;> exact rfl
  have hne : (call f args).isEmpty = false := List.isEmpty_eq_false_iff.2 (call_ne_nil f)
  unfold Expression.evaluate
  simp only [trim_call, hne, literal?_call, pure_bind, Bool.false_eq_true, if_false]
  rw [Run.bind_eq, hchain, Run.map_eq]
  cases (args.mapM (e.eval scope) >>= fun vs => Run.guardCall (b.invoke e vs [])) m <;> exact rfl

end Evaluation

end SnippetGrader.Operation
