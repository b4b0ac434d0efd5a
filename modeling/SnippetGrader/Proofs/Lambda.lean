import SnippetGrader.Proofs.Definition.Parameters
import SnippetGrader.Proofs.Written.Evaluation

/-!
# Functions without a name

What becomes of `lambda a, b: body`. With at most one parameter it makes a function, and a call of
that function has the value of the body in a copy of the names of the scope where it was made, with
the arguments bound (`Lambda.evaluate_lambda`). The text is tried as several expressions with commas
before it is tried as a function, so with two parameters or more its own commas cut it and it is a
list.
-/

namespace SnippetGrader

open Text Source Expression Layout Run
open Written (Passes)

/-- A function without a name as it is written: parameters after a gap, and a body without a comma
at depth zero. -/
structure Lambda where
  gap : List Char
  params : List (List Char)
  body : List Char
  isBlank_gap : ∀ c ∈ gap, isBlank c = true
  gap_ne_nil : params ≠ [] → gap ≠ []
  isName_params : ∀ p ∈ params, isName p = true
  lacks_body : Reader.admits (lacks ',') {} body = true

namespace Lambda

/-- What stands between the word and the colon. -/
def signature (f : Lambda) : List Char := f.gap ++ [',', ' '].intercalate f.params

/-- What stands before the colon. -/
def head (f : Lambda) : List Char := "lambda".toList ++ f.signature

/-- How a function without a name is written. -/
def text (f : Lambda) : List Char := f.head ++ ':' :: ' ' :: f.body

/-- The function that is made of it in a scope, on a line. -/
def function (f : Lambda) (line scope : Nat) : Function :=
  { name := "<lambda>"
    params := f.params.map String.ofList
    defaults := []
    body := [⟨"return ".toList ++ trim f.body, 1, line⟩]
    scope }

/-- The names that the body is evaluated with. -/
def names (f : Lambda) (outer : Scope) (args : List Value) : Scope :=
  ((f.params.map String.ofList).zip args).foldl (fun sc p => sc.set p.1 p.2) outer

/-! ## Characters -/

/-- A word character or a blank. -/
def IsBare (c : Char) : Prop := isWord c = true ∨ isBlank c = true

theorem IsBare.ne {c d : Char} (hc : IsBare c) (hword : isWord d = false)
    (hblank : isBlank d = false) : c ≠ d := by
  obtain hc | hc := hc
  · exact Rendering.ne_of_isWord hc hword
  · exact Rendering.ne_of_isBlank hc hblank

theorem IsBare.isPlain {c : Char} (hc : IsBare c) : Rendering.isPlain c = true := by
  obtain hc | hc := hc
  · exact Rendering.isPlain_of_isWord hc
  · exact Rendering.isPlain_of_isBlank hc

theorem IsBare.passes {a : List Char} (h : ∀ c ∈ a, IsBare c) : Passes (lacks ',') 0 a := by
  refine .plain fun c hc => ⟨(h c hc).isPlain, ?_⟩
  have hcomma : c ≠ ',' := (h c hc).ne (by decide) (by decide)
  simp [lacks, hcomma]

theorem bare_joined {params : List (List Char)} (h : ∀ p ∈ params, isName p = true) {c : Char}
    (hc : c ∈ [',', ' '].intercalate params) : IsBare c ∨ c = ',' ∧ 2 ≤ params.length := by
  induction params with
  | nil => cases hc
  | cons p rest ih =>
    have hp : isName p = true := h p List.mem_cons_self
    cases rest with
    | nil =>
      rw [List.intercalate_singleton] at hc
      exact .inl (.inl (isWord_of_isName hp hc))
    | cons q rest =>
      have hlength : 2 ≤ (p :: q :: rest).length := by
        simp only [List.length_cons]
        omega
      rw [List.intercalate_cons_cons, List.append_assoc, List.mem_append, List.mem_append] at hc
      obtain hc | hc | hc := hc
      · exact .inl (.inl (isWord_of_isName hp hc))
      · simp only [List.mem_cons, List.not_mem_nil, or_false] at hc
        obtain rfl | rfl := hc
        · exact .inr ⟨rfl, hlength⟩
        · exact .inl (.inr (by decide))
      · obtain hbare | ⟨hcomma, -⟩ := ih (fun r hr => h r (List.mem_cons_of_mem p hr)) hc
        · exact .inl hbare
        · exact .inr ⟨hcomma, hlength⟩

variable (f : Lambda)

theorem isWord_keyword : ∀ c ∈ "lambda".toList, isWord c = true := List.all_eq_true.1 (by decide)

theorem head_eq_append : f.head = "lambda".toList ++ f.signature := rfl

/-- No other character stands before the colon than words, blanks, and the commas between the
parameters. -/
theorem bare_head {c : Char} (hc : c ∈ f.head) : IsBare c ∨ c = ',' ∧ 2 ≤ f.params.length := by
  rw [f.head_eq_append, signature, List.mem_append, List.mem_append] at hc
  obtain hc | hc | hc := hc
  · exact .inl (.inl (isWord_keyword c hc))
  · exact .inl (.inr (f.isBlank_gap c hc))
  · exact bare_joined f.isName_params hc

theorem passes_head : Passes (lacks ':') 0 f.head := by
  refine .plain fun c hc => ?_
  obtain hbare | ⟨rfl, -⟩ := f.bare_head hc
  · have hcolon : c ≠ ':' := hbare.ne (by decide) (by decide)
    exact ⟨hbare.isPlain, by simp [lacks, hcolon]⟩
  · exact ⟨by decide, by decide⟩

/-! ## The text without blanks at its end -/

/-- The body with the blank before it, as it is left by trimming the whole text. -/
def tail : List Char := trimEnd (' ' :: f.body)

theorem trim_tail : trim f.tail = trim f.body := by
  have hfront : trim (' ' :: f.body) = trim f.body :=
    trim_append_left Rendering.isBlank_space f.body
  rw [← hfront]
  exact trim_congr (trimEnd_trimEnd _)

theorem trim_text : trim f.text = f.head ++ ':' :: f.tail := by
  have hend : trimEnd f.text = f.head ++ ':' :: f.tail := trimEnd_append (by decide) _ _
  rw [trim_eq, hend]
  rfl

theorem lacks_tail : Reader.admits (lacks ',') {} f.tail = true := by
  have hblank (c : Char) (hc : isBlank c = true) (place : Place) : lacks ',' c place = true := by
    simp [lacks, Rendering.ne_of_isBlank hc (d := ',') (by decide)]
  have hadmits : Reader.admits (lacks ',') {} (' ' :: f.body) = true := f.lacks_body
  exact (Reader.admits_trimEnd hblank (Reader.fits_code 0 _)).trans hadmits

/-! ## The forms that are tried first -/

theorem head_eq : f.head = 'l' :: ("ambda".toList ++ f.signature) := rfl

theorem colon_mem : ∃ c ∈ f.head ++ ':' :: f.tail, isWord c = false :=
  ⟨':', by simp, by decide⟩

theorem literal?_eq_none (e : Engine) (scope : Nat) :
    literal? e scope (f.head ++ ':' :: f.tail) = pure none := by
  have hnumber : Literal.isNumber (f.head ++ ':' :: f.tail) = false := by
    refine Rendering.isNumber_eq_false_of_head ?_
    rw [head_eq]
    intro c hc
    cases hc
    decide
  have hvalue : Literal.numberValue? (f.head ++ ':' :: f.tail) = none := by
    rw [Literal.numberValue?, hnumber]
    rfl
  have hopening : Literal.opening? (f.head ++ ':' :: f.tail) = none := by
    rw [head_eq]
    rfl
  have hlist : ((f.head ++ ':' :: f.tail).head? == some '[') = false := by
    rw [head_eq]
    rfl
  rw [Rendering.literal?_of_opening (Rendering.not_constant f.colon_mem) hopening, hvalue, hlist]
  rfl

/-- What follows the word goes on with a blank or with the colon. -/
theorem exists_after_word : ∃ c rest, f.signature ++ ':' :: f.tail = c :: rest ∧
    isWord c = false ∧ c ≠ '.' ∧ c ≠ '(' ∧ c ≠ '[' := by
  cases hgap : f.gap with
  | nil =>
    have hparams : f.params = [] := by
      by_contra hne
      exact f.gap_ne_nil hne hgap
    refine ⟨':', f.tail, ?_, by decide, by decide, by decide, by decide⟩
    rw [signature, hgap, hparams]
    rfl
  | cons c rest =>
    have hblank : isBlank c = true := f.isBlank_gap c (hgap ▸ List.mem_cons_self)
    refine ⟨c, rest ++ [',', ' '].intercalate f.params ++ ':' :: f.tail, ?_,
      Rendering.isWord_eq_false_of_isBlank hblank, Rendering.ne_of_isBlank hblank (by decide),
      Rendering.ne_of_isBlank hblank (by decide), Rendering.ne_of_isBlank hblank (by decide)⟩
    rw [signature, hgap]
    rfl

theorem chainValue?_eq_none (e : Engine) (scope : Nat) :
    chainValue? e scope (f.head ++ ':' :: f.tail) = pure none := by
  obtain ⟨c, rest, hafter, hword, hdot, hround, hsquare⟩ := f.exists_after_word
  have htext : f.head ++ ':' :: f.tail = 'l' :: ("ambda".toList ++ c :: rest) := by
    rw [f.head_eq_append, List.append_assoc, hafter]
    rfl
  have hsplit : splitName (f.head ++ ':' :: f.tail) = ("lambda".toList, c :: rest) := by
    rw [htext]
    exact Rendering.splitName_word (List.all_eq_true.1 (by decide)) (by decide) fun d hd => by
      cases hd
      exact hword
  have hopening : Literal.opening? (f.head ++ ':' :: f.tail) = none := by
    rw [htext]
    rfl
  have hhead : splitHead? (f.head ++ ':' :: f.tail) = some (.name "lambda".toList, c :: rest) := by
    unfold splitHead?
    rw [hopening]
    simp only [hsplit]
    rfl
  have htrailers : trailersFrom? 0 (c :: rest) = none := by
    simp [trailersFrom?, hdot, hround, hsquare]
  have hchain : chain? (f.head ++ ':' :: f.tail) = none := by
    rw [chain?, hhead]
    simp only [Option.bind_eq_bind, Option.bind_some, htrailers, Option.bind_none]
  rw [chainValue?, hchain]

theorem nameValue?_eq_none (scope : Nat) :
    nameValue? scope (f.head ++ ':' :: f.tail) = pure none := by
  rw [nameValue?, Rendering.isName_eq_false f.colon_mem]
  rfl

theorem evaluate_eq_tuple (e : Engine) (scope : Nat) :
    Expression.evaluate e scope f.text = (do
      match ← tupleValue? e scope (f.head ++ ':' :: f.tail) with
      | some v => return v
      | none =>
        match form? (f.head ++ ':' :: f.tail) with
        | some form => formValue e scope (f.head ++ ':' :: f.tail) form
        | none => return .str (String.ofList (f.head ++ ':' :: f.tail))) := by
  have hne : (f.head ++ ':' :: f.tail).isEmpty = false := rfl
  unfold Expression.evaluate
  simp only [f.trim_text, hne, f.literal?_eq_none, f.chainValue?_eq_none, f.nameValue?_eq_none,
    pure_bind]
  rfl

/-! ## The function -/

theorem tail_cases : f.tail = [] ∨ ∃ rest, f.tail = ' ' :: rest := by
  rw [tail, trimEnd_cons]
  split
  · exact .inl rfl
  · exact .inr ⟨_, rfl⟩

/-- The first colon at depth zero is the one after the parameters. -/
theorem headerColon?_eq : headerColon? (f.head ++ ':' :: f.tail) = some f.head.length := by
  have hfirst : (tokensFrom {} (0 + f.head.length) 0 (':' :: f.tail)).find?
      (fun t => t.symbol == .colon) = some ⟨f.head.length, .colon⟩ := by
    rw [Nat.zero_add]
    obtain htail | ⟨rest, htail⟩ := f.tail_cases
    · rw [htail]
      rfl
    · rw [htail]
      rfl
  have hfind := find?_colon_append (b := ':' :: f.tail) (by simp) (Reader.fits_code 0 f.head)
    f.passes_head.admits 0 (Nat.zero_le _)
  rw [headerColon?, tokens, hfind, f.passes_head.after, hfirst]
  rfl

theorem form?_eq : form? (f.head ++ ':' :: f.tail) = some (.lambda f.signature f.tail) := by
  obtain ⟨c, rest, hafter, hword, -⟩ := f.exists_after_word
  have hdrop : dropFront? "lambda".toList (f.head ++ ':' :: f.tail) = some (c :: rest) := by
    rw [f.head_eq_append, List.append_assoc, hafter]
    rfl
  have hstarts : startsWithWord (f.head ++ ':' :: f.tail) "lambda" = true := by
    rw [startsWithWord, hdrop]
    simp only [hword, Bool.not_false]
  have hparams : ((f.head ++ ':' :: f.tail).take f.head.length).drop 6 = f.signature := by
    rw [List.take_left]
    rfl
  have hbody : (f.head ++ ':' :: f.tail).drop (f.head.length + 1) = f.tail := by
    rw [← List.drop_drop, List.drop_left]
    rfl
  rw [form?, if_pos hstarts, lambda?, headerColon?_eq, Option.map_some, hparams, hbody]

/-- The parameters are read as they are written. -/
theorem parameters_eq (e : Engine) (scope : Nat) :
    parameters e scope f.signature = pure (f.params.map String.ofList, []) :=
  Definition.parameters_names f.isName_params f.isBlank_gap e scope

/-! ## Commas -/

theorem tupleValue?_eq_none (e : Engine) (scope : Nat) (h : f.params.length ≤ 1) :
    tupleValue? e scope (f.head ++ ':' :: f.tail) = pure none := by
  have hhead : Passes (lacks ',') 0 f.head := IsBare.passes fun c hc =>
    (f.bare_head hc).resolve_right fun hmany => by omega
  have htail : Reader.admits (lacks ',') {} (':' :: f.tail) = true := f.lacks_tail
  have hquote : ∀ c ∈ (':' :: f.tail).head?, isQuote c = false := by
    rintro c ⟨⟩
    rfl
  have hlacks : Reader.admits (lacks ',') {} (f.head ++ ':' :: f.tail) = true := by
    rw [Reader.admits_append hquote (Reader.fits_code 0 _), hhead.admits, hhead.after, htail]
    rfl
  have hnot : ¬ ∀ c ∈ f.head ++ ':' :: f.tail, isBlank c = true := fun hblank =>
    absurd (hblank ':' (by simp)) (by decide)
  rw [tupleValue?, cutTopLevel_eq_singleton hlacks hnot]

/-- A comma between parameters cuts the text. -/
theorem exists_cutTopLevel (h : 2 ≤ f.params.length) :
    ∃ a b rest, cutTopLevel ',' (f.head ++ ':' :: f.tail) = a :: b :: rest := by
  obtain ⟨p, q, more, hparams⟩ : ∃ p q more, f.params = p :: q :: more := by
    match f.params, h with
    | p :: q :: more, _ => exact ⟨p, q, more, rfl⟩
  have hp : isName p = true := f.isName_params p (by simp [hparams])
  have htext : ∃ rest, f.head ++ ':' :: f.tail =
      ("lambda".toList ++ (f.gap ++ p)) ++ ',' :: rest := by
    rw [f.head_eq_append, signature, hparams, List.intercalate_cons_cons]
    simp only [List.append_assoc, List.cons_append]
    exact ⟨_, rfl⟩
  obtain ⟨rest, htext⟩ := htext
  have hfront : Passes (lacks ',') 0 ("lambda".toList ++ (f.gap ++ p)) := by
    refine IsBare.passes fun c hc => ?_
    rw [List.mem_append, List.mem_append] at hc
    obtain hc | hc | hc := hc
    · exact .inl (isWord_keyword c hc)
    · exact .inr (f.isBlank_gap c hc)
    · exact .inl (isWord_of_isName hp hc)
  have hquote : ∀ c ∈ (',' :: rest).head?, isQuote c = false := by
    rintro c ⟨⟩
    rfl
  have hcut := cutTopLevelFrom_append hquote (Reader.fits_code 0 _) hfront.admits []
  rw [hfront.after] at hcut
  have hcomma (piece : List Char) : cutTopLevelFrom ',' {} piece (',' :: rest) =
      piece.reverse :: cutTopLevelFrom ',' {} [] rest := rfl
  obtain ⟨b, parts, hparts⟩ := exists_cutTopLevelFrom ',' {} [] rest
  have hnot : ¬ (f.head ++ ':' :: f.tail).all isBlank = true := fun hblank =>
    absurd (List.all_eq_true.1 hblank ':' (by simp)) (by decide)
  have hcuts : cutTopLevel ',' (f.head ++ ':' :: f.tail) =
      trim ("lambda".toList ++ (f.gap ++ p)) :: trim b :: parts.map trim := by
    rw [cutTopLevel, if_neg hnot, htext, hcut, hcomma, hparts, List.append_nil, List.reverse_reverse]
    rfl
  exact ⟨_, _, _, hcuts⟩

/-- A text that is cut at commas of its own is a list. -/
theorem evaluate_of_commas (e : Engine) (scope : Nat) (h : 2 ≤ f.params.length) :
    Expression.evaluate e scope f.text = (do
      newList (← evaluateEach e scope (cutTopLevel ',' (f.head ++ ':' :: f.tail))).toArray) := by
  obtain ⟨a, b, rest, hcut⟩ := f.exists_cutTopLevel h
  have htuple : tupleValue? e scope (f.head ++ ':' :: f.tail) = (do
      return some (← newList (← evaluateEach e scope (a :: b :: rest)).toArray)) := by
    rw [tupleValue?, hcut]
  rw [evaluate_eq_tuple, htuple, hcut]
  simp only [bind_assoc, pure_bind, bind_pure]

/-! ## Making and calling the function -/

theorem evaluate_of_le_one (e : Engine) (scope : Nat) (h : f.params.length ≤ 1) {m : Machine}
    (hm : m.attached = true) :
    Expression.evaluate e scope f.text m = newFunction (f.function m.lineNumber scope) m := by
  have hmake : makeLambda e scope f.signature f.tail m =
      newFunction (f.function m.lineNumber scope) m := by
    rw [makeLambda, f.parameters_eq, f.trim_tail]
    rfl
  have hform : formValue e scope (f.head ++ ':' :: f.tail) (.lambda f.signature f.tail) m =
      makeLambda e scope f.signature f.tail m := by
    rw [formValue, Run.get_bind, if_pos hm]
  rw [evaluate_eq_tuple, f.tupleValue?_eq_none e scope h, pure_bind, form?_eq]
  exact hform.trans hmake

/-- The body of the function, as a line. -/
def line (number : Nat) : Line := ⟨"return ".toList ++ trim f.body, 1, number⟩

theorem classify_line (number : Nat) : classify (f.line number).text = .returning := by
  have hsplit : splitName (f.line number).text = ("return".toList, ' ' :: trim f.body) :=
    Rendering.splitName_word (c := 'r') (w := "eturn".toList) (List.all_eq_true.1 (by decide))
      (by decide) (by simp; decide)
  have hword : firstName (f.line number).text = "return" := by rw [firstName, hsplit]; rfl
  rw [classify, hword]
  rfl

theorem trim_returned (number : Nat) : trim ((f.line number).text.drop 6) = trim f.body := by
  have hdrop : (f.line number).text.drop 6 = [' '] ++ trim f.body := rfl
  rw [hdrop, trim_append_left Rendering.isBlank_space, trim_trim]

/-- How the body of the function ends. -/
def bodyOutcome (e : Engine) (scope number : Nat) (m : Machine) : Outcome Value :=
  Outcome.onFailure (fun g => g.locate number (String.ofList (f.line number).text))
    (Expression.evaluate e scope f.body (m.charged (f.line number)))

/-- The line evaluates what stands behind its first word. -/
theorem executeKind_line (e : Engine) (scope number : Nat) :
    Statement.executeKind e scope (f.line number) [] .returning =
      e.eval scope (' ' :: trim f.body) >>= fun v => pure (0, .returned v) := by
  unfold Statement.executeKind
  dsimp only
  rw [Statement.executeReturn, bind_assoc]
  exact rfl

theorem executeBlock_line (e : Engine) (scope number : Nat) {m : Machine}
    (h : (m.charged (f.line number)).refusal? = none) :
    Statement.executeBlock e.next scope [f.line number] m =
      match f.bodyOutcome e scope number m with
      | .ok v m' => .ok (.returned v) m'
      | .error stop m' => .error stop m' := by
  have hvalue : e.next.eval scope (' ' :: trim f.body) = Expression.evaluate e scope f.body :=
    Rendering.evaluate_congr (f.trim_returned number) e scope
  have hline : Statement.executeLine e.next scope (f.line number) [] m =
      match f.bodyOutcome e scope number m with
      | .ok v m' => .ok (0, .returned v) m'
      | .error stop m' => .error stop m' := by
    rw [Statement.executeLine_eq, h, classify_line, bodyOutcome]
    dsimp only
    rw [executeKind_line, hvalue, Run.bind_eq]
    cases Expression.evaluate e scope f.body (m.charged (f.line number)) with
    | ok v m' => rfl
    | error stop m' => cases stop <;> rfl
  rw [Statement.executeBlock_singleton, hline]
  cases f.bodyOutcome e scope number m <;> rfl

theorem callScope_eq (line scope : Nat) (outer : Scope) {args : List Value}
    (h : args.length = f.params.length) :
    Statement.callScope (f.function line scope) outer args [] = .ok (f.names outer args) := by
  have hcount : ¬ args.length > (f.function line scope).params.length := by
    rw [function, List.length_map]
    omega
  have hrest : (f.function line scope).params.drop args.length = [] := by
    rw [function, List.drop_eq_nil_iff, List.length_map]
    omega
  simp only [Statement.callScope, if_neg hcount, hrest]
  rfl

section Call

variable {m : Machine} {ref number scope : Nat} {args : List Value}
  (href : m.store.functions[ref]? = some (f.function number scope))
include href

theorem apply_eq (e : Engine) :
    Statement.apply e (.function ref) args [] m =
      Statement.callFunction e (f.function number scope) args [] m := by
  have hself : Scope.has [] "self" = false := rfl
  simp only [Statement.apply, hself, Bool.false_eq_true, if_false, Run.store_bind, href]

/-- A call that is nested too deeply. -/
theorem apply_of_le_callDepth (e : Engine) (h : m.limits.maxCallDepth ≤ (m.callDepth : Int)) :
    Statement.apply e (.function ref) args [] m =
      .error (.failed (.recursion "maximum recursion depth exceeded")) m := by
  rw [f.apply_eq href, Statement.callFunction_eq, if_pos h]

/-- A call executes the body with the names of the scope and the arguments. -/
theorem apply_of_callDepth_lt (e : Engine) (hargs : args.length = f.params.length)
    (hdepth : (m.callDepth : Int) < m.limits.maxCallDepth) :
    Statement.apply e (.function ref) args [] m =
      (Run.between (·.entered (f.names (m.store.scope scope) args))
        (e.block m.store.scopes.size [f.line number]) Machine.left >>= fun flow =>
          return Statement.Flow.result flow) m := by
  have hnames : Statement.callScope (f.function number scope)
      (m.store.scope (f.function number scope).scope) args [] =
        .ok (f.names (m.store.scope scope) args) :=
    f.callScope_eq number scope _ hargs
  rw [f.apply_eq href, Statement.callFunction_eq, if_neg (by omega), hnames]
  exact rfl

theorem apply_function (e : Engine) (hargs : args.length = f.params.length)
    (hdepth : (m.callDepth : Int) < m.limits.maxCallDepth)
    (hlimits : ((m.entered (f.names (m.store.scope scope) args)).charged
      (f.line number)).refusal? = none) :
    Statement.apply e.next.next (.function ref) args [] m =
      Outcome.onMachine Machine.left (f.bodyOutcome e m.store.scopes.size number
        (m.entered (f.names (m.store.scope scope) args))) := by
  have hbody : e.next.next.block m.store.scopes.size [f.line number] =
      Statement.executeBlock e.next m.store.scopes.size [f.line number] := rfl
  rw [f.apply_of_callDepth_lt href e.next.next hargs hdepth, Run.bind_eq, hbody, Run.between,
    executeBlock_line f e _ _ hlimits]
  cases f.bodyOutcome e m.store.scopes.size number
      (m.entered (f.names (m.store.scope scope) args)) <;> rfl

end Call

/-- **Functions without a name.** With at most one parameter the text makes a function with this
parameter and without defaults. However the machine goes on, as long as it holds the function, a call
with one argument for each parameter ends like the body, evaluated in a new scope: the names that the
scope of the definition has by then, and the arguments for the parameters. With two parameters or
more the text has no other value than a list. -/
theorem evaluate_lambda (e : Engine) (scope : Nat) {m : Machine} (hm : m.attached = true) :
    (f.params.length ≤ 1 →
      Expression.evaluate e scope f.text m = .ok (.function m.store.functions.size)
        { m with
          store := { m.store with
            functions := m.store.functions.push (f.function m.lineNumber scope) } } ∧
      ∀ (e' : Engine) (m' : Machine) (args : List Value),
        m'.store.functions[m.store.functions.size]? = some (f.function m.lineNumber scope) →
        args.length = f.params.length →
        (m'.callDepth : Int) < m'.limits.maxCallDepth →
        ((m'.entered (f.names (m'.store.scope scope) args)).charged
          (f.line m.lineNumber)).refusal? = none →
        Statement.apply e'.next.next (.function m.store.functions.size) args [] m' =
          Outcome.onMachine Machine.left (f.bodyOutcome e' m'.store.scopes.size m.lineNumber
            (m'.entered (f.names (m'.store.scope scope) args)))) ∧
    (2 ≤ f.params.length → ∀ v m', Expression.evaluate e scope f.text m = .ok v m' →
      ∃ ref, v = .list ref) := by
  refine ⟨fun h => ⟨f.evaluate_of_le_one e scope h hm, fun e' m' args href hargs hdepth hlimits =>
    f.apply_function href e' hargs hdepth hlimits⟩, fun h v m' hvalue => ?_⟩
  rw [f.evaluate_of_commas e scope h, Run.bind_eq] at hvalue
  split at hvalue
  · next vs m'' _ =>
    cases hvalue
    exact ⟨_, rfl⟩
  · cases hvalue

/-- The function `lambda x: x * k`. -/
def scaling : Lambda where
  gap := [' ']
  params := [['x']]
  body := "x * k".toList
  isBlank_gap := Rendering.isBlank_space
  gap_ne_nil _ := by decide
  isName_params := by decide
  lacks_body := by decide

/-- A machine with some functions and one scope, which holds `k`. -/
def holding (k : Int) (functions : Array Function) : Machine :=
  { store := { functions, scopes := #[[("k", .int k)]] } }

/-- The function is called with what `k` is at the time of the call. -/
theorem evaluate_lambda_scaling :
    Expression.evaluate (Engine.level 2) 0 "lambda x: x * k".toList (holding 1 #[]) =
      .ok (.function 0) (holding 1 #[scaling.function 0 0]) ∧
    ∃ m', Statement.apply (Engine.level 4) (.function 0) [.int 21] []
      (holding 2 #[scaling.function 0 0]) = .ok (.int 42) m' := by
  obtain ⟨hmade, hcall⟩ :=
    (scaling.evaluate_lambda (Engine.level 2) 0 (m := holding 1 #[]) rfl).1 (by decide)
  have hvalue := hcall (Engine.level 2) (holding 2 #[scaling.function 0 0]) [.int 21] rfl rfl
    (by decide) (Machine.refusal?_eq_none rfl (by decide) (by decide))
  let inner := (holding 2 #[scaling.function 0 0]).entered [("k", .int 2), ("x", .int 21)]
  have hbody : scaling.bodyOutcome (Engine.level 2) 1 0 inner =
      .ok (.int 42) (inner.charged (scaling.line 0)) := rfl
  exact ⟨hmade, _, hvalue.trans (congrArg (Outcome.onMachine Machine.left) hbody)⟩

/-- Two parameters: the comma between them cuts the text, and the value is a list of the pieces. -/
theorem evaluate_lambda_two :
    evaluate 0 "lambda a, b: a + b" {} {} =
      .ok (.list 0) { store := { lists := #[#[.str "lambda a", .str "b: ab"]] } } := by
  rfl

end Lambda

end SnippetGrader
