import SnippetGrader.Proofs.Layout.Reading
import SnippetGrader.Proofs.Written.Evaluation

/-!
# Texts with names in braces

A text with names to be filled in, written with every brace of the text doubled. Reading it goes past
a doubled brace as one character of the text, and from a single brace to the one that closes it; after
both it stands at the start of a piece again, however the braces of the two kinds touch. So the pieces
are the text as it was and the names, and each name gives the text of its value.
-/

namespace SnippetGrader.Written

open Text Source Rendering Expression

/-! ## Pieces -/

def doubled (text : List Char) : List Char :=
  text.flatMap fun c => if c == '{' || c == '}' then [c, c] else [c]

theorem piecesFrom_doubled (open_ text rest : List Char) :
    piecesFrom open_ 0 (doubled text ++ rest) = piecesFrom (text.reverse ++ open_) 0 rest := by
  induction text generalizing open_ with
  | nil => rfl
  | cons c text ih =>
    rw [doubled, List.flatMap_cons, ← doubled, List.append_assoc, List.reverse_cons,
      List.append_assoc, List.singleton_append, ← ih]
    by_cases hc : (c == '{' || c == '}') = true
    · simp [piecesFrom, hc]
    · rw [Bool.not_eq_true, Bool.or_eq_false_iff] at hc
      simp [piecesFrom, hc]

theorem piecesFrom_skip (open_ front rest : List Char) :
    piecesFrom open_ front.length (front ++ rest) = piecesFrom open_ 0 rest := by
  induction front with
  | nil => rfl
  | cons c front ih =>
    rw [List.length_cons, List.cons_append, piecesFrom, if_pos (Nat.succ_pos _),
      Nat.add_sub_cancel, ih]

/-- A brace is closed behind the plain text that follows it. -/
theorem matchingClose_brace {inner : List Char} (h : ∀ c ∈ inner, isPlain c = true)
    (rest : List Char) :
    matchingClose ('{' :: (inner ++ '}' :: rest)) 0 = some (inner.length + 1) := by
  have hscan : (scan ('{' :: (inner ++ '}' :: rest))).tail.find?
      (fun m => m.depth == 0 && isCloser m.char) = some ⟨inner.length + 1, '}', 0⟩ := by
    have hopen : scan ('{' :: (inner ++ '}' :: rest)) =
        ⟨0, '{', 0⟩ :: scanFrom ⟨.code, 1⟩ 1 (inner ++ '}' :: rest) := rfl
    rw [hopen, List.tail_cons, (Balanced.of_plain h).find?_scanFrom_append 0 1, Nat.add_comm 1]
    rfl
  have hkind : closerOf? '{' = some '}' := rfl
  simp [matchingClose, hkind, hscan]

theorem piecesFrom_field {name : List Char} (hname : isName name = true) (open_ rest : List Char) :
    piecesFrom open_ 0 ('{' :: (name ++ '}' :: rest)) =
      .text open_.reverse :: .field name :: piecesFrom [] 0 rest := by
  have hplain : ∀ c ∈ name, isPlain c = true := fun c hc =>
    isPlain_of_isWord (isWord_of_isName hname hc)
  have hsingle : ((name ++ '}' :: rest).head? == some '{') = false := by
    cases name with
    | nil => cases hname
    | cons c more =>
      have hc := isWord_of_isName hname List.mem_cons_self
      exact beq_eq_false_iff_ne.2 fun h => ne_of_isWord hc (by decide) (Option.some.inj h)
  have hclosing := piecesFrom_skip [] (name ++ ['}']) rest
  rw [List.length_append, List.length_singleton, List.append_assoc, List.singleton_append] at hclosing
  rw [piecesFrom, if_neg (Nat.lt_irrefl 0), hsingle, matchingClose_brace hplain]
  simp only [Bool.and_false, Bool.false_eq_true, if_false, beq_self_eq_true, if_true,
    Nat.add_sub_cancel, List.take_left, hclosing]

/-! ## What is filled in -/

/-- A piece of text between two fields. -/
structure Segment where
  text : List Char
  isBare : ∀ c ∈ text, c ≠ '"' ∧ c ≠ '\\'

/-- A name that is filled in: it is bound in a scope to a value that has a text. -/
structure Filling (m : Machine) (scope : Nat) where
  name : List Char
  value : Value
  text : String
  isName_name : isName name = true
  not_constant : String.ofList name ∉ ["None", "True", "False"]
  bound : (m.store.scope scope).get? (String.ofList name) = some value
  shown : value.displayText m.store = .ok text

namespace Filling

variable {m : Machine} {scope : Nat} (x : Filling m scope)

theorem isPlain_name : ∀ c ∈ x.name, isPlain c = true := fun _ hc =>
  isPlain_of_isWord (isWord_of_isName x.isName_name hc)

theorem not_isQuote_name : ∀ c ∈ x.name, isQuote c = false := fun _ hc =>
  (Balanced.of_plain x.isPlain_name).not_isQuote hc

theorem exists_head : ∃ c more, x.name = c :: more ∧ isNameStart c = true := by
  have hname := x.isName_name
  cases hx : x.name with
  | nil =>
    rw [hx] at hname
    cases hname
  | cons c more =>
    rw [hx, isName, Bool.and_eq_true] at hname
    exact ⟨c, more, rfl, hname.1⟩

theorem chain?_name : chain? x.name = some ⟨.name x.name, []⟩ := by
  obtain ⟨c, more, hx, hstart⟩ := x.exists_head
  have hword : ∀ d ∈ c :: more, isWord d = true := fun d hd =>
    isWord_of_isName x.isName_name (hx ▸ hd)
  have hsplit : splitName (c :: (more ++ [])) = (c :: more, []) :=
    splitName_word hword hstart nofun
  rw [List.append_nil, ← hx] at hsplit
  have hhead : splitHead? x.name = some (.name x.name, []) := by
    rw [splitHead?, opening?_eq_none x.not_isQuote_name, hsplit, hx]
    rfl
  rw [chain?, hhead]
  rfl

theorem evaluate_name (e : Engine) : Expression.evaluate e scope x.name m = .ok x.value m := by
  obtain ⟨c, more, hx, hstart⟩ := x.exists_head
  have hne (d : Char) (hd : isWord d = false) : c ≠ d :=
    ne_of_isWord (isWord_of_isNameStart hstart) hd
  have hnumber : Literal.isNumber x.name = false := by
    have hsign : Literal.dropSign x.name = c :: more := by
      simp [hx, Literal.dropSign, hne '+' (by decide), hne '-' (by decide)]
    refine isNumber_eq_false_of_head fun d hd => ?_
    rw [hsign] at hd
    cases hd
    exact ⟨isDecimalDigit_eq_false_of_isNameStart hstart, hne '.' (by decide)⟩
  have hlist : (x.name.head? == some '[' && isEnclosed x.name) = false := by
    simp [hx, hne '[' (by decide)]
  have hliteral := literal?_eq_none x.not_constant x.not_isQuote_name hnumber hlist e scope
  have hchain : chainValue? e scope x.name = pure none := by
    rw [chainValue?, x.chain?_name]
  have hvalue : nameValue? scope x.name m = .ok (some x.value) m := by
    have hlookup : Run.lookup? scope (String.ofList x.name) m = .ok (some x.value) m := by
      rw [← x.bound]
      rfl
    rw [nameValue?, if_pos x.isName_name, Run.bind_eq, hlookup]
    rfl
  have hsome : x.name.isEmpty = false := by
    rw [hx]
    rfl
  unfold Expression.evaluate
  simp only [trim_of_isName x.isName_name, hsome, hliteral, hchain, pure_bind, Bool.false_eq_true,
    if_false]
  rw [Run.bind_eq, hvalue]
  rfl

theorem ofText_name : Field.ofText x.name = ⟨x.name, none, []⟩ := by
  have hword : ∀ c ∈ x.name, isWord c = true := fun _ hc => isWord_of_isName x.isName_name hc
  have hcolon : headerColon? x.name = none := by
    have htokens := tokensFrom_plain (fun c hc =>
      ⟨x.isPlain_name c hc, isSymbolChar_eq_false_of_isWord (hword c hc)⟩) 0 []
    rw [List.append_nil] at htokens
    rw [headerColon?, tokens, htokens]
    rfl
  have hconversion : splitConversion x.name = (x.name, none) := by
    rw [splitConversion, trim_of_isName x.isName_name]
    split
    · next c rest hreverse =>
      have hmem : '!' ∈ x.name := List.mem_reverse.1 (by simp [hreverse])
      exact absurd (hword '!' hmem) (by decide)
    · rfl
  simp only [Field.ofText, hcolon, hconversion]

theorem readPart_name (e : Engine) :
    readPart e.next scope false (.field x.name) m = .ok (.text x.text.toList) m := by
  have hvalue : e.next.eval scope x.name m = .ok x.value m := x.evaluate_name e
  have hformat : (do Run.ofStop (x.value.format (← Run.store) [])) m = .ok x.text m := by
    rw [Run.store_bind, Value.format, List.isEmpty_nil, if_pos rfl, x.shown]
    rfl
  have hshown : fieldText e.next scope ⟨x.name, none, []⟩ m = .ok x.text m := by
    rw [fieldText, Run.bind_eq, hvalue]
    change Run.onFailure (do Run.ofStop (x.value.format (← Run.store) [])) _ m = _
    rw [Run.onFailure, hformat]
  rw [readPart, x.ofText_name, Run.map_eq, hshown]
  rfl

end Filling

theorem Segment.readPart_text (s : Segment) (e : Engine) (scope : Nat) (m : Machine) :
    readPart e scope false (.text s.text) m = .ok (.text s.text) m := by
  have hread : Constant.Reading.ofText s.text = .ok (.text s.text) := by
    have hslash : s.text.contains '\\' = false := by
      simpa using fun h => (s.isBare _ h).2 rfl
    rw [Constant.Reading.ofText, hslash]
    rfl
  rw [readPart, hread]
  rfl

/-! ## The whole text -/

/-- Computations that leave the machine as it is, one after the other. -/
theorem mapM_ok {α β : Type} {f : α → Run β} {m : Machine} {as : List α} {bs : List β}
    (h : List.Forall₂ (fun a b => f a m = .ok b m) as bs) : as.mapM f m = .ok bs m := by
  induction h with
  | nil => rfl
  | cons hab _ ih =>
    rw [List.mapM_cons, Run.bind_eq, hab]
    dsimp only
    rw [Run.bind_eq, ih]
    rfl

theorem textsFrom_map (i : Nat) (texts : List (List Char)) :
    textsFrom i (texts.map .text) = .ok texts := by
  induction texts generalizing i with
  | nil => rfl
  | cons text texts ih =>
    rw [List.map_cons, textsFrom, ih]
    rfl

section Literal

variable {body : List Char} (h : ∀ c ∈ body, c ≠ '"' ∧ c ≠ '\\')
include h

theorem tripled_bare : tripled '"' (body ++ ['"']) = false := by
  cases body with
  | nil => rfl
  | cons c body => simp [tripled_cons, (h c List.mem_cons_self).1]

theorem opening?_template :
    Literal.opening? ('f' :: marked '"' body) = some ⟨['f'], '"', false⟩ := by
  have hletters : ('f' :: marked '"' body).takeWhile Literal.isOpeningLetter = ['f'] := rfl
  rw [Literal.opening?, hletters]
  simp [marked, tripled_bare h, isQuote]

theorem literalLengthFrom_bare (n : Nat) :
    literalLengthFrom ⟨.single '"', 0⟩ n (body ++ ['"']) = n + body.length + 1 := by
  induction body generalizing n with
  | nil => rfl
  | cons c body ih =>
    rw [List.forall_mem_cons] at h
    have hstep : Reader.step ⟨.single '"', 0⟩ c (body ++ ['"']) = (⟨.single '"', 0⟩, .quoted) := by
      simp [Reader.step, h.1]
    rw [List.cons_append, literalLengthFrom, hstep]
    simp only [reduceCtorEq, beq_iff_eq, if_false, ih h.2, List.length_cons]
    omega

theorem stop_template : Literal.Opening.stop ⟨['f'], '"', false⟩ ('f' :: marked '"' body) =
    ('f' :: marked '"' body).length := by
  have hstep : Reader.step {} '"' (body ++ ['"']) = (⟨.single '"', 0⟩, .quoted) := by
    simp [Reader.step, isQuote, tripled_bare h]
  rw [Literal.Opening.stop, List.length_singleton, List.drop_one, List.tail_cons, marked,
    literalLength, literalLengthFrom, hstep]
  simp only [reduceCtorEq, beq_iff_eq, if_false, literalLengthFrom_bare h, List.length_cons,
    List.length_append, List.length_nil]
  omega

end Literal

theorem between_template (body : List Char) :
    Literal.Opening.between ⟨['f'], '"', false⟩ ('f' :: marked '"' body) = body := by
  simp [Literal.Opening.between, Literal.Opening.marks, marked]

section Template

variable {m : Machine} {scope : Nat}

/-- What stands between the marks of a text with fields. -/
def templateBody (first : Segment) (rest : List (Filling m scope × Segment)) : List Char :=
  doubled first.text ++ rest.flatMap fun p => '{' :: (p.1.name ++ '}' :: doubled p.2.text)

/-- A text with fields, as it is written. -/
def template (first : Segment) (rest : List (Filling m scope × Segment)) : List Char :=
  'f' :: marked '"' (templateBody first rest)

/-- The text with the fields filled in. -/
def filled (first : Segment) (rest : List (Filling m scope × Segment)) : List Char :=
  first.text ++ rest.flatMap fun p => p.1.text.toList ++ p.2.text

variable (first : Segment) (rest : List (Filling m scope × Segment))

theorem pieces_templateBody : pieces (templateBody first rest) =
    .text first.text :: rest.flatMap fun p => [.field p.1.name, .text p.2.text] := by
  induction rest generalizing first with
  | nil =>
    have hall := piecesFrom_doubled [] first.text []
    rw [List.append_nil] at hall
    rw [templateBody, List.flatMap_nil, List.append_nil, pieces, hall, piecesFrom, List.append_nil,
      List.reverse_reverse]
    rfl
  | cons p rest ih =>
    rw [templateBody, List.flatMap_cons, pieces, piecesFrom_doubled, List.append_nil,
      List.cons_append, List.append_assoc, List.cons_append, piecesFrom_field p.1.isName_name,
      List.reverse_reverse, ← templateBody, ← pieces, ih]
    rfl

/-- Braces of the text may touch those of the fields and each other. -/
example :
    pieces ['{', '{', '{', 'x', '}', '}', '}', '}', '}', '{', '{', '{', 'y', '}'] =
      [.text ['{'], .field ['x'], .text ['}', '}', '{'], .field ['y'], .text []] := by decide

/-- The texts of the pieces, when the fields are filled in. -/
def parts (first : Segment) (rest : List (Filling m scope × Segment)) : List (List Char) :=
  first.text :: rest.flatMap fun p => [p.1.text.toList, p.2.text]

theorem flatten_parts : (parts first rest).flatten = filled first rest := by
  rw [parts, filled, List.flatten_cons, List.flatMap_def, List.flatten_flatten, List.map_map]
  simp [List.flatMap_def, Function.comp_def]

theorem mapM_readPart (e : Engine) :
    (pieces (templateBody first rest)).mapM (readPart e.next scope false) m =
      .ok ((parts first rest).map .text) m := by
  rw [pieces_templateBody]
  refine mapM_ok (.cons (first.readPart_text e.next scope m) ?_)
  induction rest with
  | nil => exact .nil
  | cons p rest ih => exact .cons (p.1.readPart_name e) (.cons (p.2.readPart_text e.next scope m) ih)

theorem isBare_templateBody : ∀ c ∈ templateBody first rest, c ≠ '"' ∧ c ≠ '\\' := by
  have hsegment (s : Segment) : ∀ c ∈ doubled s.text, c ≠ '"' ∧ c ≠ '\\' := by
    intro c hc
    obtain ⟨d, hd, hc⟩ := List.mem_flatMap.1 hc
    have hcd : c = d := by
      split at hc
      · simpa using hc
      · simpa using hc
    exact hcd ▸ s.isBare d hd
  intro c hc
  rw [templateBody, List.mem_append, List.mem_flatMap] at hc
  obtain hc | ⟨p, -, hc⟩ := hc
  · exact hsegment first c hc
  · simp only [List.mem_cons, List.mem_append] at hc
    obtain rfl | hc | rfl | hc := hc
    · decide
    · have hword := isWord_of_isName p.1.isName_name hc
      exact ⟨ne_of_isWord hword (by decide), ne_of_isWord hword (by decide)⟩
    · decide
    · exact hsegment p.2 c hc

theorem evaluate_template (e : Engine) :
    Expression.evaluate e.next scope (template first rest) m =
      .ok (.str (String.ofList (filled first rest))) m := by
  have hbare := isBare_templateBody first rest
  have htrim : trim (template first rest) = template first rest :=
    Layout.trim_eq_self_iff.2 (Content.ends_enclosed (c := 'f') (by decide) (d := '"') (by decide)
      ('"' :: templateBody first rest))
  have hwords : String.ofList (template first rest) ∉ ["None", "True", "False"] :=
    not_constant ⟨'"', by simp [template, marked], by decide⟩
  have hnumber : Literal.isNumber (template first rest) = false :=
    isNumber_eq_false_of_head fun c hc => by
      cases hc
      decide
  have hnone : Literal.numberValue? (template first rest) = none := by
    simp [Literal.numberValue?, hnumber]
  have hliteral := literal?_string hwords hnone (opening?_template hbare) (stop_template hbare)
    e.next scope
  have hvalue : Expression.stringValue e.next scope ⟨['f'], '"', false⟩ (template first rest) m =
      .ok (.str (String.ofList (filled first rest))) m := by
    have htemplate : Literal.Opening.isTemplate ⟨['f'], '"', false⟩ = true := by decide
    have hraw : Literal.Opening.isRaw ⟨['f'], '"', false⟩ = false := by decide
    rw [Expression.stringValue, htemplate, if_pos rfl, template, between_template, hraw, Run.bind_eq,
      mapM_readPart]
    dsimp only
    rw [textsFrom_map, ← flatten_parts]
    rfl
  rw [evaluate_of_literal htrim (List.cons_ne_nil _ _) hliteral, hvalue]

/-- **Names are filled into a text.** A text with fields, each of them a name in braces that is bound
to a value with a text, and with every brace of the text between them doubled, is evaluated to this
text with the texts of the values in place of the fields: on every engine that can evaluate a name,
and so on every host that has a level for it. Without fields, braces that were doubled are thus as they
were. -/
theorem template_filled :
    (∀ e : Engine, Expression.evaluate e.next scope (template first rest) m =
      .ok (.str (String.ofList (filled first rest))) m) ∧
    ∀ host : Host, 0 < host.levels → evaluate scope (String.ofList (template first rest)) host m =
      .ok (.str (String.ofList (filled first rest))) m := by
  refine ⟨evaluate_template first rest, fun host hlevels => ?_⟩
  obtain ⟨n, hn⟩ := Nat.exists_eq_add_one.2 hlevels
  rw [evaluate, String.toList_ofList, Host.engine, hn, Engine.level_succ]
  exact evaluate_template first rest (Engine.level n)

end Template

theorem not_constant_singleton (c : Char) : String.ofList [c] ∉ ["None", "True", "False"] := by
  simp [← String.toList_inj]

/-- A machine with two names. -/
def answering : Machine :=
  { store := { lists := #[#[.none, .str "\x7d"]], scopes := #[[("x", .bool true), ("y", .list 0)]] } }

/-- The name `x`, bound to a truth value. -/
def fillingX : Filling answering 0 where
  name := ['x']
  value := .bool true
  text := "True"
  isName_name := rfl
  not_constant := not_constant_singleton _
  bound := rfl
  shown := rfl

/-- The name `y`, bound to a list with a brace in it. -/
def fillingY : Filling answering 0 where
  name := ['y']
  value := .list 0
  text := "[None, '\x7d']"
  isName_name := rfl
  not_constant := not_constant_singleton _
  bound := rfl
  shown := rfl

/-- Two names between braces that touch theirs. -/
theorem template_filled_braces :
    evaluate 0 "f\"\x7b\x7b\x7bx\x7d\x7d\x7d\x7b\x7b\x7by\x7d\"" {} answering =
      .ok (.str "\x7bTrue\x7d\x7b[None, '\x7d']") answering := by
  let first : Segment := ⟨['{'], by simp⟩
  let rest : List (Filling answering 0 × Segment) :=
    [(fillingX, ⟨['}', '{'], by simp⟩), (fillingY, ⟨[], by simp⟩)]
  have htemplate : String.ofList (template first rest) =
      "f\"\x7b\x7b\x7bx\x7d\x7d\x7d\x7b\x7b\x7by\x7d\"" := by
    rw [← String.toList_inj, String.toList_ofList]
    rfl
  have hfilled : String.ofList (filled first rest) = "\x7bTrue\x7d\x7b[None, '\x7d']" := by
    rw [← String.toList_inj, String.toList_ofList]
    rfl
  rw [← htemplate, ← hfilled]
  exact (template_filled first rest).2 {} (by decide)

end SnippetGrader.Written
