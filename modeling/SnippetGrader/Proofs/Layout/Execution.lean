import SnippetGrader.Proofs.Layout.Signature

/-!
# Execution of a written tree

What a node of a tree does, said in terms of its header and its suites, and that executing the lines
of a written tree does just this: every header finds its own suites and clauses again, takes the
lines of its node and no more, whichever of its suites is executed, and a block executes its nodes
one after the other.
-/

namespace SnippetGrader.Layout

open Text Source Statement Run Expression

/-! ## What a node does -/

/-- What a compound statement does once its header, suites and clauses are known. -/
def perform (e : Engine) (scope : Nat) (line : Line) (c : Compound) : Word → Run Flow
  | .conditional =>
    firstBranch e scope ((some c.head, c.lines) :: c.clauses.map fun cl =>
      (if cl.word == "elif" then some cl.head else none, cl.lines))
  | .whileLoop => do
    let stop ← whileTrue e scope c.head c.lines (← get).limits.maxLoop.toNat
    afterLoop e scope (c.clause? "else") stop
  | .forLoop =>
    match (findKeyword ["in"] c.head).head? with
    | none => fail (.form "invalid for statement")
    | some s => do
      let xs ← loopItems (← e.eval scope (c.head.drop s.stop))
      let stop ← forEach e scope (Target.ofText (c.head.take s.start)) c.lines xs
      afterLoop e scope (c.clause? "else") stop
  | .within => do
    (cutTopLevel ',' c.head).forM fun part => do
      let (expression, alias_) := splitAlias part
      let v ← e.eval scope expression
      if !(trim alias_).isEmpty then assign e scope (Target.ofText alias_) v
    e.block scope c.lines
  | .definition =>
    match definitionHead? line.text with
    | none => fail (.form "invalid function definition")
    | some h => do
      let (params, defaults) ← parameters e scope h.params
      let name := String.ofList h.name
      let f ← newFunction { name, params, defaults, body := c.lines, scope }
      bindName scope name f
      return .normal
  | .guarded => do
    let outcome ← attempt (guarded e scope c)
    let last ← match c.clause? "finally" with
      | some lines => e.block scope lines
      | none => pure .normal
    if last.isNormal then ofExcept outcome else return last
  | .elif | .otherwise | .handler | .cleanup => return .normal

/-! ## Handlers of headers -/

section Handlers

variable (e : Engine) (scope : Nat) {line : Line} {rest : List Line} {c : Compound}

theorem executeIf_eq (hc : compound "if" ["elif", "else"] ["else"] line rest = .ok c) :
    executeIf e scope line rest =
      (fun flow => (c.used, flow)) <$> perform e scope line c .conditional := by
  simp only [executeIf, hc, Run.ofExcept, pure_bind, perform, map_eq_pure_bind]

theorem executeWhile_eq (hc : compound "while" ["else"] ["else"] line rest = .ok c) :
    executeWhile e scope line rest =
      (fun flow => (c.used, flow)) <$> perform e scope line c .whileLoop := by
  simp only [executeWhile, hc, Run.ofExcept, pure_bind, perform, map_eq_pure_bind, bind_assoc]

theorem executeFor_eq (hc : compound "for" ["else"] ["else"] line rest = .ok c) {inline : List Char}
    (hheader : header "for" line = .ok ⟨c.head, inline⟩) :
    executeFor e scope line rest =
      (fun flow => (c.used, flow)) <$> perform e scope line c .forLoop := by
  simp only [executeFor, hheader, Run.ofExcept, pure_bind, perform]
  -- a header without its keyword fails before the block under it is read
  cases (findKeyword ["in"] c.head).head? with
  | none => rfl
  | some s => simp only [hc, pure_bind, map_eq_pure_bind, bind_assoc]

theorem executeWith_eq (hc : compound "with" [] [] line rest = .ok c) :
    executeWith e scope line rest =
      (fun flow => (c.used, flow)) <$> perform e scope line c .within := by
  simp only [executeWith, hc, Run.ofExcept, pure_bind, perform, map_eq_pure_bind, bind_assoc]

theorem executeTry_eq (hc : compound "try" ["except", "else", "finally"] [] line rest = .ok c) :
    executeTry e scope line rest =
      (fun flow => (c.used, flow)) <$> perform e scope line c .guarded := by
  have hlast (outcome : Except Failure Flow) (last : Flow) :
      (do
        if last.isNormal then return (c.used, ← Run.ofExcept outcome) else return (c.used, last)) =
        ((fun flow => (c.used, flow)) <$>
          if last.isNormal then Run.ofExcept outcome else return last : Run (Nat × Flow)) := by
    split
    · rw [map_eq_pure_bind]
    · rw [map_pure]
  have hread :
      Run.ofExcept (compound "try" ["except", "else", "finally"] [] line rest) = pure c := by
    rw [hc]
    rfl
  simp only [executeTry, hread, pure_bind, perform, map_bind]
  refine bind_congr fun outcome => ?_
  cases c.clause? "finally" with
  | none => exact hlast outcome .normal
  | some lines =>
    simp only [map_bind]
    exact bind_congr fun last => hlast outcome last

theorem defineFunction_eq
    (hbody : ∀ found, definitionHead? line.text = some found →
      body line (trim found.inline) rest = ⟨c.lines, c.used⟩) :
    defineFunction e scope line rest =
      (fun flow => (c.used, flow)) <$> perform e scope line c .definition := by
  simp only [defineFunction, perform]
  cases hfound : definitionHead? line.text with
  | none => rfl
  | some found => simp only [hbody found hfound, map_eq_pure_bind, bind_assoc, pure_bind]

end Handlers

section Compound

variable {first : Part} {more : List Part} (h : (Node.compound first more).wellFormed = true)
  {n : Nat} {later : List Line} (hlater : Ends n (first.word.followers.map Word.text) later)
  (k : Nat) (e : Engine) (scope : Nat)
include h hlater

/-- The suite of a function is its body. -/
theorem body_definition (hword : first.word = .definition) {found : DefinitionHead}
    (hfound : definitionHead? (Row.line k ⟨n, first.headline⟩).text = some found) :
    body (Row.line k ⟨n, first.headline⟩) (trim found.inline)
        (numbered (k + 1) ((Node.compound first more).ownRows n) ++ later) =
      ⟨(reading n k first more).lines, (reading n k first more).used⟩ := by
  obtain ⟨-, hwords, -, hfirst, -⟩ := (Node.wellFormed_compound_iff first more).1 h
  obtain ⟨-, hresult, -⟩ := (Part.wellFormed_iff first).1 hfirst
  have hinline : trim found.inline = [] := by
    have hread := definitionHead?_inline hfound
    rw [if_pos (hresult hword)] at hread
    rw [hread]
    rfl
  obtain rfl : more = [] := by
    cases more with
    | nil => rfl
    | cons p more =>
      rw [hword] at hwords
      cases hwords
  have hown : numbered (k + 1) ((Node.compound first []).ownRows n) = first.lines n k := by
    rw [Node.ownRows, Part.rowsAll, List.append_nil]
    rfl
  rw [hinline, hown, first.body_lines hfirst n k fun l hl => (hlater l hl).1]
  rfl

/-- The handler of a header takes the lines of its node, whichever of its suites is executed. -/
theorem executeKind_compound :
    executeKind e scope (Row.line k ⟨n, first.headline⟩)
        (numbered (k + 1) ((Node.compound first more).ownRows n) ++ later) first.word.kind =
      (fun flow => (((Node.compound first more).ownRows n).length, flow)) <$>
        perform e scope (Row.line k ⟨n, first.headline⟩) (reading n k first more) first.word := by
  have hread := compound_reading h hlater k
  have hdefinition := body_definition h hlater k
  have hused : (reading n k first more).used = ((Node.compound first more).ownRows n).length := by
    simp [reading, Node.ownRows, Part.lines]
  obtain ⟨hkind, -, -, hfirst, -⟩ := (Node.wellFormed_compound_iff first more).1 h
  obtain ⟨hhead, -⟩ := (Part.wellFormed_iff first).1 hfirst
  have hheader := hhead.header_headline n k
  rw [← hused]
  cases hword : first.word with
  | conditional =>
    rw [hword] at hread
    exact executeIf_eq e scope hread
  | whileLoop =>
    rw [hword] at hread
    exact executeWhile_eq e scope hread
  | forLoop =>
    rw [hword] at hread hheader
    exact executeFor_eq e scope hread hheader
  | within =>
    rw [hword] at hread
    exact executeWith_eq e scope hread
  | definition =>
    exact defineFunction_eq e scope fun found hfound => hdefinition hword hfound
  | guarded =>
    rw [hword] at hread
    exact executeTry_eq e scope hread
  | elif | otherwise | handler | cleanup =>
    rw [hword] at hkind
    exact absurd rfl hkind

end Compound

/-! ## Statements on one line -/

/-- Whether a statement of a kind stands on one line. -/
def isSimpleKind : StatementKind → Bool
  | .definition | .classDefinition | .guarded | .within | .forLoop | .whileLoop | .conditional
  | .clause => false
  | _ => true

theorem isSimpleKind_classify {text : List Char} (h : firstName text ∉ compoundWords) :
    isSimpleKind (classify text) = true := by
  have hkeyword {word : String} {kind : StatementKind} (hword : word ∉ compoundWords)
      (hkind : StatementKind.ofKeyword? word = some kind) : isSimpleKind kind = true := by
    unfold StatementKind.ofKeyword? at hkind
    split at hkind <;> cases hkind <;> first | rfl | exact absurd (by decide) hword
  have hcompound {word : String} {kind : StatementKind} (hword : word ∉ compoundWords)
      (hkind : StatementKind.ofCompound? word = some kind) : isSimpleKind kind = true := by
    unfold StatementKind.ofCompound? at hkind
    split at hkind <;> cases hkind <;> exact absurd (by decide) hword
  unfold classify
  simp only
  split
  · next kind hkind => exact hkeyword h hkind
  · split
    · next kind hkind => exact hcompound h hkind
    · split
      · rfl
      · split <;> rfl

theorem executeKind_simple {kind : StatementKind} (h : isSimpleKind kind = true) (e : Engine)
    (scope : Nat) (line : Line) (rest : List Line) :
    executeKind e scope line rest kind =
      (fun flow => (0, flow)) <$> (Prod.snd <$> executeKind e scope line [] kind) := by
  cases kind with
  | definition | classDefinition | guarded | within | forLoop | whileLoop | conditional | clause =>
    cases h
  | assignment =>
    simp only [executeKind]
    cases assignment? line.text with
    | none => rfl
    | some a => simp only [map_eq_pure_bind, bind_assoc, pure_bind]
  | _ => simp only [executeKind, map_eq_pure_bind, bind_assoc, pure_bind]

/-- A function with a colon in its annotation is executed like a statement on one line: it takes
none of the lines of its suite. -/
theorem executeKind_annotated {p : Part} (h : hasPlainResult p.head = false) (n k : Nat)
    (e : Engine) (scope : Nat) (rest : List Line) :
    executeKind e scope (Row.line k ⟨n, p.headline⟩) rest .definition =
      (fun flow => (0, flow)) <$>
        (Prod.snd <$> executeKind e scope (Row.line k ⟨n, p.headline⟩) [] .definition) := by
  simp only [executeKind, defineFunction]
  cases hfound : definitionHead? (Row.line k ⟨n, p.headline⟩).text with
  | none => rfl
  | some found =>
    have hcolon := definitionHead?_inline hfound
    rw [h, if_neg Bool.false_ne_true] at hcolon
    have hne : (trim found.inline).isEmpty = false :=
      List.isEmpty_eq_false_iff.2 (List.ne_nil_of_mem (mem_trim_of_mem hcolon (by decide)))
    simp only [body, hne, Bool.false_eq_true, if_false, map_eq_pure_bind, bind_assoc, pure_bind]

theorem IsHead.classify_headline {p : Part} (h : IsHead p.head) (n : Nat) :
    classify (expandTabsFrom 4 n p.headline) = p.word.kind := by
  simp only [classify, h.firstName_headline n]
  cases p.word <;> rfl

/-! ## Nodes -/

namespace Node

/-- The line that a node starts on. -/
def line (n k : Nat) (t : Node) : Line := Row.line k ⟨n, t.headline⟩

/-- What a node does that starts on line `k` at indentation `n`. -/
def run (e : Engine) (scope n k : Nat) : Node → Run Flow
  | .simple text =>
    Prod.snd <$> executeKind e scope ((Node.simple text).line n k) []
      (classify ((Node.simple text).line n k).text)
  | .compound first more =>
    perform e scope ((Node.compound first more).line n k) (reading n k first more) first.word

/-- Executes a node. A failure gets the line on which it happened. -/
def visit (e : Engine) (scope n k : Nat) (t : Node) : Run Flow := do
  modify fun m => { m with lineNumber := k }
  onFailure (do tick; t.run e scope n k) fun f =>
    fail (f.locate k (String.ofList (t.line n k).text))

/-- Executes nodes one after the other until one ends the block. -/
def visitAll (e : Engine) (scope n k : Nat) : List Node → Run Flow
  | [] => return .normal
  | t :: rest => do
    let flow ← t.visit e scope n k
    if flow.isNormal then visitAll e scope n (k + (t.rows n).length) rest else return flow

end Node

theorem onFailure_map {α β : Type} (g : α → β) (x : Run α) (h : Failure → Failure) :
    onFailure (g <$> x) (fun f => fail (h f)) = g <$> onFailure x fun f => fail (h f) := by
  funext m
  simp only [onFailure, Functor.map, EStateM.map]
  cases x m with
  | ok a m' => rfl
  | error s m' => cases s <;> rfl

/-- The handler of the line that a node starts on takes the lines of the node. -/
theorem executeKind_node {t : Node} (h : t.wellFormed = true) {n : Nat} {later : List Line}
    (hlater : ∀ w : Word, Ends n (w.followers.map Word.text) later) (k : Nat) (e : Engine)
    (scope : Nat) :
    executeKind e scope (t.line n k) (numbered (k + 1) (t.ownRows n) ++ later)
        (classify (t.line n k).text) =
      (fun flow => ((t.ownRows n).length, flow)) <$> t.run e scope n k := by
  cases t with
  | simple text =>
    have hsimple : IsSimple text := of_decide_eq_true h
    have hword : firstName ((Node.simple text).line n k).text ∉ compoundWords := by
      rw [Node.line, Row.line, firstName_expandTabsFrom]
      exact hsimple.word
    exact executeKind_simple (isSimpleKind_classify hword) e scope _ _
  | compound first more =>
    obtain ⟨-, -, -, hfirst, -⟩ := (Node.wellFormed_compound_iff first more).1 h
    obtain ⟨hhead, -⟩ := (Part.wellFormed_iff first).1 hfirst
    have hkind : classify ((Node.compound first more).line n k).text = first.word.kind :=
      hhead.classify_headline n
    rw [hkind]
    exact executeKind_compound h (hlater first.word) k e scope

theorem executeLine_node {t : Node} (h : t.wellFormed = true) {n : Nat} {later : List Line}
    (hlater : ∀ w : Word, Ends n (w.followers.map Word.text) later) (k : Nat) (e : Engine)
    (scope : Nat) :
    executeLine e scope (t.line n k) (numbered (k + 1) (t.ownRows n) ++ later) =
      (fun flow => ((t.ownRows n).length, flow)) <$> t.visit e scope n k := by
  have hkind := executeKind_node h hlater k e scope
  simp only [executeLine, Node.visit, hkind, map_bind]
  refine bind_congr fun _ => ?_
  rw [← onFailure_map, map_bind]
  rfl

/-! ## Blocks -/

theorem executeFrom_skip (e : Engine) (scope : Nat) (lines rest : List Line) :
    executeFrom e scope lines.length (lines ++ rest) = executeFrom e scope 0 rest := by
  induction lines with
  | nil => rfl
  | cons l lines ih =>
    rw [List.length_cons, List.cons_append, executeFrom, if_pos (Nat.succ_pos _)]
    exact ih

theorem numbered_node (t : Node) (n k : Nat) (rows : List Row) :
    numbered k (t.rows n ++ rows) =
      t.line n k :: (numbered (k + 1) (t.ownRows n) ++ numbered (k + (t.rows n).length) rows) := by
  rw [numbered_append, Node.rows_eq, numbered]
  rfl

theorem executeBlock_nodes {ts : List Node} (h : Node.allWellFormed ts = true) (e : Engine)
    (scope n k : Nat) :
    executeBlock e scope (numbered k (Node.rowsAll n ts)) = Node.visitAll e scope n k ts := by
  rw [executeBlock]
  induction ts generalizing k with
  | nil => rfl
  | cons t ts ih =>
    rw [Node.allWellFormed, Bool.and_eq_true] at h
    have hlater (w : Word) := ends_nodes h.2 w n (k + (t.rows n).length)
    have hline := executeLine_node h.1 hlater k e scope
    have hskip := executeFrom_skip e scope (numbered (k + 1) (t.ownRows n))
      (numbered (k + (t.rows n).length) (Node.rowsAll n ts))
    rw [length_numbered] at hskip
    rw [Node.rowsAll, numbered_node, executeFrom, if_neg (Nat.lt_irrefl 0), hline, bind_map_left,
      Node.visitAll]
    simp only [hskip, ih h.2]

/-- The suites of a tree: the nodes at its top and those under its headers. -/
inductive SuiteOf (ts : List Node) : List Node → Prop
  | top : SuiteOf ts ts
  | under {us : List Node} {first p : Part} {more : List Part} (h : SuiteOf ts us)
      (hnode : Node.compound first more ∈ us) (hpart : p ∈ first :: more) : SuiteOf ts p.suite

theorem mem_wellFormed {ts : List Node} (h : Node.allWellFormed ts = true) {t : Node}
    (ht : t ∈ ts) : t.wellFormed = true := by
  induction ts with
  | nil => cases ht
  | cons u ts ih =>
    rw [Node.allWellFormed, Bool.and_eq_true] at h
    obtain rfl | ht := List.mem_cons.1 ht
    · exact h.1
    · exact ih h.2 ht

theorem mem_allWellFormed {ps : List Part} (h : Part.allWellFormed ps = true) {p : Part}
    (hp : p ∈ ps) : p.wellFormed = true := by
  induction ps with
  | nil => cases hp
  | cons q ps ih =>
    rw [Part.allWellFormed, Bool.and_eq_true] at h
    obtain rfl | hp := List.mem_cons.1 hp
    · exact h.1
    · exact ih h.2 hp

theorem SuiteOf.allWellFormed {ts us : List Node} (hus : SuiteOf ts us)
    (h : Node.allWellFormed ts = true) : Node.allWellFormed us = true := by
  induction hus with
  | top => exact h
  | @under us first p more hus hnode hpart ih =>
    obtain ⟨-, -, -, hfirst, hmore⟩ :=
      (Node.wellFormed_compound_iff first more).1 (mem_wellFormed ih hnode)
    have hp : p.wellFormed = true := by
      obtain rfl | hpart := List.mem_cons.1 hpart
      · exact hfirst
      · exact mem_allWellFormed hmore hpart
    exact ((Part.wellFormed_iff p).1 hp).2.2.2.2

theorem allWellFormed_append {before later : List Node}
    (h : Node.allWellFormed (before ++ later) = true) : Node.allWellFormed later = true := by
  induction before with
  | nil => exact h
  | cons t before ih =>
    rw [List.cons_append, Node.allWellFormed, Bool.and_eq_true] at h
    exact ih h.2

/-- The lines of a written tree are its rows, and its structure is found again in them: in every
suite the line that a node starts on takes the lines of the node and executes what the node does,
and the block executes the nodes of the suite one after the other. -/
theorem execution_of_source {ts : List Node} (h : Node.allWellFormed ts = true) :
    splitLines (source ts) = numbered 1 (Node.rowsAll 0 ts) ∧
      ∀ us, SuiteOf ts us → ∀ (e : Engine) (scope n k : Nat),
        (∀ before t later, us = before ++ t :: later →
          executeLine e scope (t.line n k)
              (numbered (k + 1) (t.ownRows n) ++
                numbered (k + (t.rows n).length) (Node.rowsAll n later)) =
            (fun flow => ((t.ownRows n).length, flow)) <$> t.visit e scope n k) ∧
        executeBlock e scope (numbered k (Node.rowsAll n us)) = Node.visitAll e scope n k us := by
  refine ⟨splitLines_source h, fun us hus e scope n k => ?_⟩
  have hsuite := hus.allWellFormed h
  refine ⟨fun before t later hsplit => ?_, executeBlock_nodes hsuite e scope n k⟩
  rw [hsplit] at hsuite
  have hrest := allWellFormed_append hsuite
  rw [Node.allWellFormed, Bool.and_eq_true] at hrest
  exact executeLine_node hrest.1 (fun w => ends_nodes hrest.2 w n _) k e scope

/-- A tree with every kind of header, whose suites are indented by different widths. -/
def nestedTree : List Node :=
  [.compound (.mk .definition " f(n)".toList 2
      [.compound (.mk .conditional " n > 0".toList 3 [.simple "return n".toList])
        [.mk .elif " n < 0".toList 1 [.simple "return 0 - n".toList],
          .mk .otherwise [] 4 [.simple "pass".toList]]]) [],
    .compound (.mk .guarded [] 4
      [.compound (.mk .forLoop " x in [1, 2]".toList 4
        [.compound (.mk .whileLoop " x".toList 1
            [.compound (.mk .within " lock as y".toList 2 [.simple "x = f(x - 1)".toList]) []])
          [.mk .otherwise [] 1 [.simple "print(x)".toList]]]) []])
      [.mk .handler " ValueError as e".toList 2 [.simple "print(e)".toList],
        .mk .cleanup [] 2 [.simple "y = 0".toList]]]

theorem execution_of_source_nested :
    Node.allWellFormed nestedTree = true ∧
      (splitLines (source nestedTree)).map (fun l => (l.indent, String.ofList l.text)) =
        [(0, "def f(n):"), (2, "if n > 0:"), (5, "return n"), (2, "elif n < 0:"),
          (3, "return 0 - n"), (2, "else:"), (6, "pass"), (0, "try:"), (4, "for x in [1, 2]:"),
          (8, "while x:"), (9, "with lock as y:"), (11, "x = f(x - 1)"), (8, "else:"),
          (9, "print(x)"), (0, "except ValueError as e:"), (2, "print(e)"), (0, "finally:"),
          (2, "y = 0")] ∧
      executeBlock (Engine.level 9) 0 (splitLines (source nestedTree)) =
        Node.visitAll (Engine.level 9) 0 0 1 nestedTree := by
  have hwell : Node.allWellFormed nestedTree = true := by decide +kernel
  obtain ⟨hlines, hsuites⟩ := execution_of_source hwell
  rw [hlines]
  exact ⟨hwell, by decide +kernel, (hsuites nestedTree .top (Engine.level 9) 0 0 1).2⟩

/-- The colon of an annotation ends the head of a function, even in brackets, where the colon of
another header is not found: the function gets a body of its own line and the suite is left to the
block. -/
theorem executeLine_annotated :
    let head := " f() -> dict[str: int]".toList
    let t : Node := .compound (.mk .definition head 4 [.simple "return 1".toList]) []
    IsHead head ∧ IsSimple "return 1".toList ∧
      splitLines (source [t]) = t.line 0 1 :: numbered 2 (t.ownRows 0) ∧
      (t.ownRows 0).length = 1 ∧
      (match executeLine (Engine.level 9) 0 (t.line 0 1) (numbered 2 (t.ownRows 0))
          { store := { scopes := #[[]] } } with
        | .ok (used, _) m => some (used, m.store.functions.toList.map Function.body)
        | .error _ _ => none) = some (0, [[⟨"int]:".toList, 1, 1⟩]]) := by
  decide +kernel

end SnippetGrader.Layout
