import Mathlib.Data.List.Infix
import SnippetGrader.Proofs.Definition.Parameters
import SnippetGrader.Proofs.Layout.Signature

/-!
# Functions on one line

A function whose body stands on the line of its header. The header is not closed by the parenthesis
that matches the one after the name, but by the last one after which a header can end: what the body
holds decides where the parameters end. If the body has no such parenthesis, the function has the
parameters and the statements that are written. If it has one, the first part of the body is read as
parameters, and the function never has the parameters that are written.
-/

namespace SnippetGrader

open Text Source Statement Expression Layout

/-- The machine after a function was made and bound to its name. -/
def Machine.defining (m : Machine) (f : Function) : Machine :=
  { m with
    store := { m.store with
      functions := m.store.functions.push f
      scopes := m.store.scopes.modify f.scope fun names =>
        names.set f.name (.function m.store.functions.size) } }

namespace Definition

/-! ## Where a header can end -/

/-- Whether a header can end with what follows a closing parenthesis: a colon, or an arrow and a
colon somewhere behind it. -/
def endsHeader (text : List Char) : Bool :=
  match trimStart text with
  | ':' :: _ => true
  | '-' :: '>' :: rest => rest.contains ':'
  | _ => false

theorem endsHeader_eq_false {text : List Char} (hcolon : ∀ rest, trimStart text ≠ ':' :: rest)
    (harrow : ∀ rest, trimStart text ≠ '-' :: '>' :: rest) : endsHeader text = false := by
  unfold endsHeader
  split
  · next rest hstart => exact absurd hstart (hcolon rest)
  · next rest hstart => exact absurd hstart (harrow rest)
  · rfl

theorem isSome_afterSignature?_eq (text : List Char) :
    (afterSignature? text).isSome = endsHeader text := by
  unfold afterSignature?
  split
  · next rest hstart =>
    rw [endsHeader, hstart]
    rfl
  · next rest hstart =>
    have hcolon : rest.dropWhile (· != ':') = [] ↔ ':' ∉ rest := by
      rw [List.dropWhile_eq_nil_iff]
      exact ⟨fun h hmem => absurd (h ':' hmem) (by decide),
        fun h c hc => bne_iff_ne.2 fun heq => h (heq ▸ hc)⟩
    rw [endsHeader, hstart]
    cases hdrop : rest.dropWhile (· != ':') with
    | nil => simp [hcolon.1 hdrop]
    | cons c body =>
      have hmem : ':' ∈ rest := by
        by_contra hnot
        rw [hcolon.2 hnot] at hdrop
        cases hdrop
      simp [hmem]
  · next hcolon harrow =>
    rw [endsHeader_eq_false hcolon harrow]
    rfl

/-! ## The line -/

/-- A function as it is written on one line: its name, the names of its parameters and a body
without literals. -/
structure Inline where
  name : List Char
  params : List (List Char)
  body : List Char
  isName_name : isName name = true
  isName_params : ∀ p ∈ params, isName p = true
  unquoted : ∀ c ∈ body, isQuote c = false

namespace Inline

variable (d : Inline)

/-- What stands between the parentheses. -/
def signature : List Char := [',', ' '].intercalate d.params

/-- What follows the first parenthesis. -/
def tail : List Char := d.signature ++ ')' :: ':' :: ' ' :: d.body

/-- How the function is written. -/
def text : List Char := "def ".toList ++ (d.name ++ '(' :: d.tail)

/-- Whether the body holds a parenthesis after which a header can end. -/
def Reopens : Prop := ∃ u v, d.body = u ++ ')' :: v ∧ endsHeader v = true

instance : Decidable d.Reopens :=
  decidable_of_iff (∃ t ∈ d.body.tails, t.head? = some ')' ∧ endsHeader t.tail = true) <| by
    simp only [List.mem_tails]
    constructor
    · rintro ⟨t, ⟨u, hbody⟩, hhead, hends⟩
      obtain ⟨v, rfl⟩ := List.head?_eq_some_iff.1 hhead
      exact ⟨u, v, hbody.symm, hends⟩
    · rintro ⟨u, v, hbody, hends⟩
      exact ⟨')' :: v, ⟨u, hbody.symm⟩, rfl, hends⟩

/-- The function that is written. -/
def function (line : Line) (scope : Nat) : Function :=
  { name := String.ofList d.name
    params := d.params.map String.ofList
    defaults := []
    body := ((cutTopLevel ';' d.body).filter fun part => !part.isEmpty).map
      (⟨·, line.indent + 1, line.number⟩)
    scope }

theorem definitionHead?_text : definitionHead? d.text =
    (cutAtLastClose? (fun _ => true) afterSignature? [] d.tail).map fun found =>
      ⟨d.name, found.1, found.2⟩ :=
  definitionHead?_append (List.cons_ne_nil _ _) Rendering.isBlank_space d.isName_name
    (List.forall_mem_nil _) _

theorem classify_text : classify d.text = .definition := by
  have hfirst : firstName d.text = "def" := by
    have hsplit : splitName d.text = ("def".toList, ' ' :: (d.name ++ '(' :: d.tail)) :=
      Rendering.splitName_word (c := 'd') (w := "ef".toList) (List.all_eq_true.1 (by decide))
        (by decide) (by rintro e ⟨⟩; decide)
    rw [firstName, hsplit]
    rfl
  rw [classify, hfirst]
  rfl

/-! ## A body without such a parenthesis -/

/-- The header ends at the parenthesis that matches the first one. -/
theorem definitionHead?_of_not_reopens (h : ¬ d.Reopens) :
    definitionHead? d.text = some ⟨d.name, d.signature, ' ' :: d.body⟩ := by
  have hlast : ∀ a b, ':' :: ' ' :: d.body = a ++ ')' :: b → afterSignature? b = none := by
    intro a b hab
    obtain ⟨u, hbody⟩ : ∃ u, d.body = u ++ ')' :: b := by
      match a with
      | [] => cases hab
      | [c] => cases hab
      | c :: e :: u =>
        rw [List.cons_append, List.cons_append, List.cons.injEq, List.cons.injEq] at hab
        exact ⟨u, hab.2.2⟩
    have hnot : endsHeader b = false := by
      rw [Bool.eq_false_iff]
      exact fun hends => h ⟨u, b, hbody, hends⟩
    rwa [← isSome_afterSignature?_eq, Option.isSome_eq_false_iff, Option.isNone_iff_eq_none] at hnot
  have hcut : cutAtLastClose? (fun _ => true) afterSignature? [] d.tail =
      some (d.signature, ' ' :: d.body) :=
    cutAtLastClose?_eq_some [] (by simp) rfl hlast
  rw [definitionHead?_text, hcut]
  rfl

theorem body_eq (indent number : Nat) (rest : List Line)
    (hblock : trim d.body = [] → blockLength indent rest = 0) :
    Statement.body ⟨d.text, indent, number⟩ (trim (' ' :: d.body)) rest =
      ⟨(d.function ⟨d.text, indent, number⟩ 0).body, 0⟩ := by
  have htrim : trim (' ' :: d.body) = trim d.body :=
    trim_append_left Rendering.isBlank_space d.body
  have hcut := cutTopLevel_trim (show isBlank ';' = false by decide) d.unquoted
  rw [htrim, Statement.body]
  by_cases hblank : trim d.body = []
  · have hnone : cutTopLevel ';' d.body = [] := by
      rw [← hcut, hblank]
      rfl
    rw [hblank]
    simp [hblock hblank, function, hnone]
  · simp [hblank, hcut, function]

/-! ## A body with such a parenthesis -/

theorem trim_open {gap front : List Char} (hgap : ∀ c ∈ gap, isBlank c = true) (hne : front ≠ [])
    (hfront : ∀ c ∈ front, isBlank c = false) (rest : List Char) :
    trim (gap ++ (front ++ ':' :: rest)) = front ++ ':' :: trimEnd rest := by
  obtain ⟨c, front, rfl⟩ := List.exists_cons_of_ne_nil hne
  rw [trim_append_left hgap, trim_eq, trimEnd_append (by decide), List.cons_append, trimStart,
    List.dropWhile_cons, hfront c List.mem_cons_self]
  rfl

theorem of_mem_lastParameter {last : List Char} (hlast : last = [] ∨ isName last = true) :
    ∀ c ∈ last ++ [')'], (c ≠ '=' ∧ c ≠ ':') ∧ isBlank c = false := by
  intro c hc
  rw [List.mem_append, List.mem_singleton] at hc
  obtain hc | rfl := hc
  · obtain hnil | hname := hlast
    · rw [hnil] at hc
      cases hc
    · exact ⟨ne_of_isName hname c hc,
        Rendering.isBlank_eq_false_of_isWord (isWord_of_isName hname hc)⟩
  · decide

/-- The name of a parameter is read up to its colon, so a parenthesis before it stays. -/
theorem parameterName_lastParameter {last : List Char} (hlast : last = [] ∨ isName last = true)
    (rest : List Char) :
    parameterName ((last ++ [')']) ++ ':' :: rest) = String.ofList (last ++ [')']) := by
  have hfront := of_mem_lastParameter hlast
  have htrim : trim (last ++ [')']) = last ++ [')'] := trim_eq_self_iff.2
    ⟨fun c hc => (hfront c (List.mem_of_mem_head? hc)).2,
      fun c hc => (hfront c (List.mem_of_getLast? hc)).2⟩
  have hstar : (last ++ [')']).dropWhile (· == '*') = last ++ [')'] := by
    obtain hnil | hname := hlast
    · rw [hnil]
      rfl
    · exact dropWhile_star hname _
  rw [parameterName_append (fun c hc => (hfront c hc).1) (by rintro c ⟨⟩; exact .inr rfl), htrim,
    hstar]

/-- Among the parameters that are read from a text that goes on after the signature is one whose
name holds the parenthesis. -/
theorem exists_parameterName (more : List Char) :
    ∃ name ∈ (parameterPieces (d.signature ++ ')' :: ':' :: more)).map parameterName,
      ')' ∈ name.toList := by
  obtain ⟨gap, hgap, hcut⟩ := cutTopLevelFrom_names d.isName_params (List.forall_mem_nil _)
    (')' :: ':' :: more)
  let last := d.params.getLast?.getD []
  have hlast : last = [] ∨ isName last = true := by
    cases hparams : d.params.getLast? with
    | none => exact .inl (by simp [last, hparams])
    | some p =>
      have hp := d.isName_params p (List.mem_of_getLast? hparams)
      exact .inr (by simpa [last, hparams] using hp)
  have hstep : cutTopLevelFrom ',' {} (last.reverse ++ gap) (')' :: ':' :: more) =
      cutTopLevelFrom ',' {} (':' :: ')' :: (last.reverse ++ gap)) more := rfl
  obtain ⟨front, pieces, hpieces⟩ := exists_cutTopLevelFrom ',' {}
    (':' :: ')' :: (last.reverse ++ gap)) more
  -- the piece with the last name goes on with the parenthesis and the colon
  have hpiece : trim ((':' :: ')' :: (last.reverse ++ gap)).reverse ++ front) =
      (last ++ [')']) ++ ':' :: trimEnd front := by
    have hblanks : ∀ c ∈ gap.reverse, isBlank c = true := fun c hc => hgap c (List.mem_reverse.1 hc)
    have hopen := trim_open hblanks (by simp)
      (fun c hc => (of_mem_lastParameter hlast c hc).2) front
    rw [← hopen]
    simp
  have hmem : (last ++ [')']) ++ ':' :: trimEnd front ∈
      parameterPieces (d.signature ++ ')' :: ':' :: more) := by
    have hblank : ¬ (d.signature ++ ')' :: ':' :: more).all isBlank = true := fun hall =>
      absurd (List.all_eq_true.1 hall ')' (by simp)) (by decide)
    have hmarker : isMarker ((last ++ [')']) ++ ':' :: trimEnd front) = false := by
      simp [isMarker, List.append_eq_cons_iff]
    rw [parameterPieces, List.mem_filter, cutTopLevel, if_neg hblank, signature, hcut, hstep,
      hpieces, List.map_cons, hpiece, hmarker]
    exact ⟨List.mem_append_right _ List.mem_cons_self, rfl⟩
  refine ⟨_, List.mem_map_of_mem hmem, ?_⟩
  rw [parameterName_lastParameter hlast]
  simp

/-- The parameters that are read go on behind the colon. -/
theorem definitionHead?_of_reopens (h : d.Reopens) :
    ∃ more inline, definitionHead? d.text =
      some ⟨d.name, d.signature ++ ')' :: ':' :: more, inline⟩ := by
  obtain ⟨u, v, hbody, hends⟩ := h
  rw [← isSome_afterSignature?_eq, Option.isSome_iff_exists] at hends
  obtain ⟨x, hx⟩ := hends
  obtain ⟨w, inline, hcut⟩ := exists_cutAtLastClose? []
    (d.signature ++ ')' :: ':' :: ' ' :: u) hx
  have htail : d.tail = (d.signature ++ ')' :: ':' :: ' ' :: u) ++ ')' :: v := by
    rw [tail, hbody, List.append_assoc]
    rfl
  refine ⟨' ' :: (u ++ w), inline, ?_⟩
  rw [definitionHead?_text, htail, hcut]
  simp

theorem name_ne {names : List String} (h : ∃ name ∈ names, ')' ∈ name.toList) :
    names ≠ d.params.map String.ofList := by
  rintro rfl
  obtain ⟨name, hname, hparen⟩ := h
  obtain ⟨p, hp, rfl⟩ := List.mem_map.1 hname
  rw [String.toList_ofList] at hparen
  exact absurd (isWord_of_isName (d.isName_params p hp) hparen) (by decide)

/-! ## The definition -/

section Execution

variable (e : Engine) (scope indent number : Nat) {rest : List Line} {m : Machine}

theorem executeLine_text (hlimits : (m.charged ⟨d.text, indent, number⟩).refusal? = none) :
    executeLine e scope ⟨d.text, indent, number⟩ rest m =
      Outcome.onFailure (fun f => f.locate number (String.ofList d.text))
        (defineFunction e scope ⟨d.text, indent, number⟩ rest
          (m.charged ⟨d.text, indent, number⟩)) := by
  rw [executeLine_eq, hlimits, d.classify_text]
  rfl

/-- **Functions on one line.** If the body has no parenthesis after which a header can end, the line
makes the function that is written and binds it to its name, and no failure is possible. If it has
one, the function that the line makes, if it makes one, has other parameters. -/
theorem executeLine_inline (hlimits : (m.charged ⟨d.text, indent, number⟩).refusal? = none)
    (hblock : trim d.body = [] → blockLength indent rest = 0) :
    (¬ d.Reopens → executeLine e scope ⟨d.text, indent, number⟩ rest m =
      .ok (0, .normal) ((m.charged ⟨d.text, indent, number⟩).defining
        (d.function ⟨d.text, indent, number⟩ scope))) ∧
    (d.Reopens → ∀ used flow m',
      executeLine e scope ⟨d.text, indent, number⟩ rest m = .ok (used, flow) m' →
      ∃ f, m'.store.functions.back? = some f ∧ f.name = String.ofList d.name ∧
        f.params ≠ d.params.map String.ofList) := by
  constructor
  · intro h
    have hparameters : parameters e scope d.signature = pure (d.params.map String.ofList, []) :=
      parameters_names d.isName_params (List.forall_mem_nil _) e scope
    rw [d.executeLine_text e scope indent number hlimits, defineFunction,
      d.definitionHead?_of_not_reopens h]
    simp only [hparameters, pure_bind, d.body_eq indent number rest hblock]
    rfl
  · intro h used flow m' hline
    obtain ⟨more, inline, hhead⟩ := d.definitionHead?_of_reopens h
    rw [d.executeLine_text e scope indent number hlimits, defineFunction, hhead] at hline
    simp only [parameters_eq, bind_assoc, pure_bind] at hline
    rw [Run.bind_eq] at hline
    split at hline
    · next defaults m₁ hdefaults =>
      cases hline
      exact ⟨_, Array.back?_push, rfl, d.name_ne (d.exists_parameterName more)⟩
    · next stop m₁ hdefaults => cases stop <;> cases hline

end Execution

/-- The function `def first(xs, n): y = xs[(0)]; return y + n`. -/
def first : Inline where
  name := "first".toList
  params := ["xs".toList, "n".toList]
  body := "y = xs[(0)]; return y + n".toList
  isName_name := by decide
  isName_params := by decide
  unquoted := Rendering.forall_of_all (by decide)

theorem executeLine_inline_first :
    executeLine (Engine.level 3) 0 ⟨"def first(xs, n): y = xs[(0)]; return y + n".toList, 0, 1⟩ []
      { store := { scopes := #[[]] } } =
        .ok (0, .normal) { store :=
                             { functions :=
                                 #[{ name := "first", params := ["xs", "n"], defaults := [],
                                     body := [⟨"y = xs[(0)]".toList, 1, 1⟩,
                                       ⟨"return y + n".toList, 1, 1⟩],
                                     scope := 0 }],
                               scopes := #[[("first", .function 0)]] },
                           steps := 1, lineNumber := 1 } :=
  (first.executeLine_inline (Engine.level 3) 0 0 1 (m := { store := { scopes := #[[]] } })
    (Machine.refusal?_eq_none rfl (by decide) (by decide)) (fun _ => rfl)).1 (by decide)

/-- The function `def rest(x): return x[(1):]`. -/
def rest : Inline where
  name := "rest".toList
  params := ["x".toList]
  body := "return x[(1):]".toList
  isName_name := by decide
  isName_params := by decide
  unquoted := Rendering.forall_of_all (by decide)

/-- A parenthesis in front of the colon of a slice closes the header: the statement becomes part of
the parameters, and what is left of it is the body. -/
theorem executeLine_inline_slice :
    rest.text = "def rest(x): return x[(1):]".toList ∧
    executeLine (Engine.level 3) 0 ⟨rest.text, 0, 1⟩ [] { store := { scopes := #[[]] } } =
      .ok (0, .normal) { store :=
                           { functions :=
                               #[{ name := "rest", params := ["x)"], defaults := [],
                                   body := [⟨"]".toList, 1, 1⟩], scope := 0 }],
                             scopes := #[[("rest", .function 0)]] },
                         steps := 1, lineNumber := 1 } :=
  ⟨rfl, rfl⟩

end Inline

end Definition

end SnippetGrader
