import Mathlib.Order.Monotone.Basic
import SnippetGrader.Proofs.Indentation.Twins
import SnippetGrader.Proofs.Layout.Execution

/-!
# Execution depends on the order of indentations alone

Each statement finds its parts by comparing indentations, so on two lists of lines that say the same
and are indented in the same order it does the same: the parts that it finds say the same again.
Functions keep the lines of their bodies, and a call executes them later, on an engine that does not
tell them apart either. So all levels of the interpreter do the same on both lists. Line numbers end
up in failures and in functions, and nothing else depends on them.

A program that is indented anew, by any widths that grow with the old ones, has the same outcome,
and leaves the same machine up to the bodies of functions.
-/

namespace SnippetGrader.Indentation

open Source Statement

variable {view : View}

/-- Everything may be asked for. -/
def free : Reach :=
  ⟨fun _ => True, fun _ _ => True, fun _ => True, fun _ => True, fun _ => True, True⟩

theorem free_readsAll : free.ReadsAll := fun _ => trivial

namespace Even

variable {e : Engine} (he : Even view e) (scope : Nat)
include he

/-! ## Branches and loops -/

theorem firstBranch {bs bs' : List (Option (List Char) × List Line)}
    (h : List.Forall₂ (fun b b' => b.1 = b'.1 ∧ SameOrder view.placed b.2 b'.2) bs bs') :
    Twins view (Statement.firstBranch e scope bs) (Statement.firstBranch e scope bs') := by
  induction h with
  | nil => exact .pure _
  | @cons b b' bs bs' hb hbs ih =>
    obtain ⟨condition, lines⟩ := b
    obtain ⟨condition', lines'⟩ := b'
    obtain ⟨hcondition, hlines⟩ := hb
    obtain rfl : condition = condition' := hcondition
    have htaken := he.block scope lines lines' hlines
    cases condition with
    | none => exact htaken
    | some condition =>
      refine (he.eval scope condition).bind fun v =>
        (he.twins (.truthy (R := free) v)).bind fun b => ?_
      cases b with
      | true => exact htaken
      | false => exact ih

section Loops

variable {lines lines' : List Line} (h : SameOrder view.placed lines lines')
include h

theorem forEach (target : List Char) (vs : List Value) :
    Twins view (Statement.forEach e scope (Expression.Target.ofText target) lines vs)
      (Statement.forEach e scope (Expression.Target.ofText target) lines' vs) := by
  induction vs with
  | nil => exact .pure _
  | cons v vs ih =>
    have hassign := he.twins (Composed.assigned scope free_readsAll trivial target v)
    refine hassign.bind fun _ => (he.block scope lines lines' h).bind fun flow => ?_
    cases flow with
    | normal => exact ih
    | continued => exact ih
    | broke => exact .pure _
    | returned w => exact .pure _

theorem whileTrue (condition : List Char) (fuel : Nat) :
    Twins view (Statement.whileTrue e scope condition lines fuel)
      (Statement.whileTrue e scope condition lines' fuel) := by
  induction fuel with
  | zero => exact .pure _
  | succ fuel ih =>
    refine (he.eval scope condition).bind fun v =>
        (he.twins (.truthy (R := free) v)).bind fun b => ?_
    cases b with
    | false => exact .pure _
    | true =>
      refine (he.block scope lines lines' h).bind fun flow => ?_
      cases flow with
      | normal => exact ih
      | continued => exact ih
      | broke => exact .pure _
      | returned w => exact .pure _

end Loops

theorem afterLoop {o o' : Option (List Line)} (h : Option.Rel (SameOrder view.placed) o o')
    (stop : LoopEnd) :
    Twins view (Statement.afterLoop e scope o stop) (Statement.afterLoop e scope o' stop) := by
  cases stop with
  | finished =>
    cases h with
    | none => exact .pure _
    | some hlines => exact he.block scope _ _ hlines
  | limited =>
    have hlimited : Composed free fun e => Statement.afterLoop e scope none .limited :=
      .afterLoop scope trivial (fun lines hl => absurd hl (Option.not_mem_none lines)) .limited
        fun _ => trivial
    exact he.twins hlimited
  | broke => exact .pure _
  | returned v => exact .pure _

end Even

/-! ## Compound statements -/

/-- The words of the statements that execute their bodies at once. -/
def flowWords : List Layout.Word := [.conditional, .whileLoop, .forLoop, .within]

/-- The number of lines that are taken, and some more. -/
def later (more : Nat) (r : Nat × Flow) : Nat × Flow := (r.1 + more, r.2)

theorem later_zero : later 0 = id := by
  funext r
  exact rfl

theorem header_of_compound {keyword : String} {words last : List String} {line : Line}
    {rest : List Line} {c : Compound} (h : compound keyword words last line rest = .ok c) :
    ∃ inline, header keyword line = .ok ⟨c.head, inline⟩ := by
  unfold compound at h
  cases hhead : header keyword line with
  | error f =>
    rw [hhead] at h
    cases h
  | ok head =>
    rw [hhead] at h
    dsimp only [bind, Except.bind] at h
    split at h
    · cases h
    · cases h
      exact ⟨head.inline, rfl⟩

section Unread

variable (e : Engine) (scope : Nat) {line : Line} {rest : List Line} {f : Failure}

theorem executeIf_unread (h : compound "if" ["elif", "else"] ["else"] line rest = .error f) :
    executeIf e scope line rest = Run.fail f := by
  unfold executeIf
  rw [h]
  exact rfl

theorem executeWhile_unread (h : compound "while" ["else"] ["else"] line rest = .error f) :
    executeWhile e scope line rest = Run.fail f := by
  unfold executeWhile
  rw [h]
  exact rfl

theorem executeWith_unread (h : compound "with" [] [] line rest = .error f) :
    executeWith e scope line rest = Run.fail f := by
  unfold executeWith
  rw [h]
  exact rfl

/-- The keyword of a header is looked for before the bodies are read. -/
theorem executeFor_unread (h : compound "for" ["else"] ["else"] line rest = .error f) :
    executeFor e scope line rest = Run.fail
      (match header "for" line with
        | .error g => g
        | .ok head =>
          if (findKeyword ["in"] head.head).head?.isNone then .form "invalid for statement"
          else f) := by
  unfold executeFor
  rw [h]
  cases header "for" line with
  | error g => exact rfl
  | ok head =>
    simp only [Run.ofExcept, pure_bind]
    cases (findKeyword ["in"] head.head).head? with
    | none => exact rfl
    | some s => exact rfl

end Unread

section Compounds

variable {e : Engine} (he : Even view e) (scope : Nat)
include he

/-- What a compound statement does depends on its header and on what its bodies say. -/
theorem Even.perform {c c' : Compound} (hc : CompoundAlike view.placed c c') (l l' : Line)
    {w : Layout.Word} (hw : w ∈ flowWords) :
    Twins view (Layout.perform e scope l c w) (Layout.perform e scope l' c' w) := by
  have helse := rel_clause? hc "else"
  unfold Layout.perform
  rw [hc.head]
  cases w with
  | conditional =>
    refine he.firstBranch scope (.cons ⟨rfl, hc.lines⟩ ?_)
    refine List.forall₂_map_left_iff.2 (List.forall₂_map_right_iff.2 (hc.clauses.imp ?_))
    intro cl cl' hcl
    exact ⟨by rw [hcl.word, hcl.head], hcl.lines⟩
  | whileLoop =>
    have hloop (limit : Nat) : Twins view
        (Statement.whileTrue e scope c'.head c.lines limit >>=
          Statement.afterLoop e scope (c.clause? "else"))
        (Statement.whileTrue e scope c'.head c'.lines limit >>=
          Statement.afterLoop e scope (c'.clause? "else")) :=
      (he.whileTrue scope hc.lines c'.head limit).bind fun stop => he.afterLoop scope helse stop
    exact Twins.setting.bind fun setting => hloop setting.2.toNat
  | forLoop =>
    cases (findKeyword ["in"] c'.head).head? with
    | none => exact .fail (.refl _)
    | some s =>
      exact (he.eval scope _).bind fun v =>
        (he.twins (Composed.loopItems (R := free) v)).bind fun xs =>
          (he.forEach scope hc.lines _ xs).bind fun stop => he.afterLoop scope helse stop
  | within =>
    exact (he.twins (Composed.withItems scope trivial free_readsAll c'.head)).bind fun _ =>
      he.block scope _ _ hc.lines
  | _ => exact absurd hw (by decide)

/-- A statement whose parts are read alike is executed alike. The second one may take more lines. -/
theorem Even.executeKind_flow {w : Layout.Word} (hw : w ∈ flowWords) {line line' : Line}
    {rest rest' : List Line} {more : Nat}
    (hread : Both (fun c c' => CompoundAlike view.placed c c' ∧ c.used + more = c'.used)
      (compound w.text (w.followers.map Layout.Word.text) (w.closers.map Layout.Word.text) line rest)
      (compound w.text (w.followers.map Layout.Word.text) (w.closers.map Layout.Word.text) line'
        rest'))
    (hhead : Both (fun h h' => h.head = h'.head) (header w.text line) (header w.text line')) :
    Twins view (later more <$> Statement.executeKind e scope line rest w.kind)
      (Statement.executeKind e scope line' rest' w.kind) := by
  have hdone {c c' : Compound} (hc : CompoundAlike view.placed c c' ∧ c.used + more = c'.used) :
      Twins view (later more <$> (fun flow => (c.used, flow)) <$> Layout.perform e scope line c w)
        ((fun flow => (c'.used, flow)) <$> Layout.perform e scope line' c' w) := by
    rw [← comp_map, ← hc.2]
    exact (he.perform scope hc.1 line line' hw).map _
  generalize hr : compound w.text _ _ line rest = r at hread
  generalize hr' : compound w.text _ _ line' rest' = r' at hread
  cases hread with
  | ok hc =>
    have hperform := hdone hc
    cases w with
    | conditional =>
      rwa [← Layout.executeIf_eq e scope hr, ← Layout.executeIf_eq e scope hr'] at hperform
    | whileLoop =>
      rwa [← Layout.executeWhile_eq e scope hr, ← Layout.executeWhile_eq e scope hr'] at hperform
    | forLoop =>
      obtain ⟨inline, hline⟩ := header_of_compound hr
      obtain ⟨inline', hline'⟩ := header_of_compound hr'
      rwa [← Layout.executeFor_eq e scope hr hline, ← Layout.executeFor_eq e scope hr' hline']
        at hperform
    | within =>
      rwa [← Layout.executeWith_eq e scope hr, ← Layout.executeWith_eq e scope hr'] at hperform
    | _ => exact absurd hw (by decide)
  | error f =>
    have hfail {x y : Run (Nat × Flow)} {g : Failure} (hx : x = Run.fail g) (hy : y = Run.fail g) :
        Twins view (later more <$> x) y := by
      rw [hx, hy]
      exact fun _ _ h => .error (.failed (.refl g)) h
    cases w with
    | conditional => exact hfail (executeIf_unread e scope hr) (executeIf_unread e scope hr')
    | whileLoop => exact hfail (executeWhile_unread e scope hr) (executeWhile_unread e scope hr')
    | within => exact hfail (executeWith_unread e scope hr) (executeWith_unread e scope hr')
    | forLoop =>
      have hfor := executeFor_unread e scope hr
      have hfor' := executeFor_unread e scope hr'
      change Both _ (header "for" line) (header "for" line') at hhead
      generalize header "for" line = h at hhead hfor
      generalize header "for" line' = h' at hhead hfor'
      cases hhead with
      | error g => exact hfail hfor hfor'
      | ok hhead =>
        dsimp only at hfor hfor'
        rw [hhead] at hfor
        exact hfail hfor hfor'
    | _ => exact absurd hw (by decide)

end Compounds

section Headed

variable {p : Line × Line} {ps : List (Line × Line)} (h : Alike view.placed (p :: ps))
  {e : Engine} (he : Even view e) (scope : Nat)
include h he

namespace Even

theorem executeTry : Twins view (Statement.executeTry e scope p.1 (ps.map Prod.fst))
    (Statement.executeTry e scope p.2 (ps.map Prod.snd)) := by
  have hboth := compound_both h "try" ["except", "else", "finally"] []
  rw [executeTry_eq, executeTry_eq]
  refine .ofBoth hboth fun c c' hc => ?_
  rw [hc.2]
  exact (he.executeGuarded hc.1 scope).bind fun flow => .pure _

theorem defineFunction : Twins view (Statement.defineFunction e scope p.1 (ps.map Prod.fst))
    (Statement.defineFunction e scope p.2 (ps.map Prod.snd)) := by
  unfold Statement.defineFunction
  rw [h.text p List.mem_cons_self]
  cases definitionHead? p.2.text with
  | none => exact .fail (.refl _)
  | some head =>
    obtain ⟨hlines, hused⟩ := body_sameOrder h (Text.trim head.inline)
    dsimp only
    rw [hused]
    refine (he.twins (Composed.parameters scope (free_readsAll.reads _))).bind fun params =>
      Twins.bind (Twins.newFunction ?_) fun f => (Twins.bindName scope _ f).bind fun _ => .pure _
    exact ⟨rfl, hlines⟩

end Even

end Headed

namespace Even

variable {e : Engine} (he : Even view e) (scope : Nat)
include he

omit he scope in
theorem findSome?_eq {ps : List (Line × Line)} (h : Alike view.placed ps) {α : Type}
    (f : List Char → Option α) :
    ((ps.map Prod.fst).findSome? fun l => f l.text) =
      (ps.map Prod.snd).findSome? fun l => f l.text := by
  induction ps with
  | nil => rfl
  | cons p ps ih =>
    have htext := h.text p List.mem_cons_self
    have hrest := ih (h.of_subset (List.subset_cons_self p ps))
    simp only [List.map_cons, List.findSome?_cons, htext, hrest]

omit scope in
theorem classField (ps : List (Line × Line)) (h : Alike view.placed ps) :
    Twins view (Statement.classField e (ps.map Prod.fst))
      (Statement.classField e (ps.map Prod.snd)) := by
  induction ps with
  | nil => exact .pure _
  | cons p ps ih =>
    have hrest : Alike view.placed ps := h.of_subset (List.subset_cons_self p ps)
    simp only [List.map_cons]
    unfold Statement.classField
    rw [h.text p List.mem_cons_self]
    cases initParams? p.2.text with
    | none => exact ih hrest
    | some text =>
      -- the initializer has as many lines in both, and the field is looked for in their texts
      have hinner := findSome?_eq (hrest.of_subset
        (List.take_subset (blockLength p.1.indent (ps.map Prod.fst)) ps)) selfField?
      rw [List.map_take, List.map_take] at hinner
      dsimp only
      rw [hinner, h.blockLength_eq]
      exact (Twins.newScope []).bind fun scope =>
        (he.twins (Composed.parameters scope (free_readsAll.reads _))).bind fun params => .pure _

section Statements

variable {p : Line × Line} {ps : List (Line × Line)} (h : Alike view.placed (p :: ps))
include h

theorem defineClass : Twins view (Statement.defineClass e scope p.1 (ps.map Prod.fst))
    (Statement.defineClass e scope p.2 (ps.map Prod.snd)) := by
  unfold Statement.defineClass
  rw [h.text p List.mem_cons_self]
  cases classHead? p.2.text with
  | none => exact .fail (.refl _)
  | some head =>
    obtain ⟨⟨qs, hqs, hfst, hsnd⟩, hused⟩ := body_sameOrder h (Text.trim head.inline)
    dsimp only
    rw [hused, ← hfst, ← hsnd]
    exact (he.classField qs hqs).bind fun field =>
      (he.twins (R := free) (.newTemplate _)).bind fun t =>
        (Twins.bindName scope _ t).bind fun _ => .pure _

theorem executeKind (kind : StatementKind) :
    Twins view (Statement.executeKind e scope p.1 (ps.map Prod.fst) kind)
      (Statement.executeKind e scope p.2 (ps.map Prod.snd) kind) := by
  -- the statements on one line look at nothing but its text
  have hline (hsame : Statement.executeKind e scope p.1 (ps.map Prod.fst) kind =
      Statement.executeKind e scope p.2 (ps.map Prod.snd) kind) :
      Twins view (Statement.executeKind e scope p.1 (ps.map Prod.fst) kind)
        (Statement.executeKind e scope p.2 (ps.map Prod.snd) kind) := by
    rw [hsame]
    exact he.twins (Composed.executeKind (R := free) scope trivial free_readsAll p.2 _
      ⟨⟨fun _ _ => trivial, fun _ _ => trivial⟩, trivial⟩ kind)
  have htext := h.text p List.mem_cons_self
  have hflow (w : Layout.Word) (hw : w ∈ flowWords) :
      Twins view (Statement.executeKind e scope p.1 (ps.map Prod.fst) w.kind)
        (Statement.executeKind e scope p.2 (ps.map Prod.snd) w.kind) := by
    have hkind : Twins view
        (later 0 <$> Statement.executeKind e scope p.1 (ps.map Prod.fst) w.kind)
        (Statement.executeKind e scope p.2 (ps.map Prod.snd) w.kind) :=
      he.executeKind_flow scope hw (compound_both h _ _ _)
        ((Both.of_eq (header_eq h w.text)).imp fun _ _ hhead => by rw [hhead])
    rwa [later_zero, id_map] at hkind
  cases kind with
  | definition => exact he.defineFunction h scope
  | classDefinition => exact he.defineClass scope h
  | guarded => exact he.executeTry h scope
  | within => exact hflow .within (by decide)
  | forLoop => exact hflow .forLoop (by decide)
  | whileLoop => exact hflow .whileLoop (by decide)
  | conditional => exact hflow .conditional (by decide)
  | clause =>
    unfold Statement.executeKind
    rw [h.blockLength_eq]
    exact .pure _
  | _ => exact hline (by unfold Statement.executeKind; rw [htext])

end Statements

/-! ## Blocks -/

theorem executeFrom (skip : Nat) (ps : List (Line × Line)) (h : Alike view.placed ps) :
    Twins view (Statement.executeFrom e scope skip (ps.map Prod.fst))
      (Statement.executeFrom e scope skip (ps.map Prod.snd)) := by
  induction ps generalizing skip with
  | nil => exact .pure _
  | cons p ps ih =>
    have hrest (skip : Nat) := ih skip (h.of_subset (List.subset_cons_self p ps))
    simp only [List.map_cons]
    unfold Statement.executeFrom
    split
    · exact hrest (skip - 1)
    · have htext := h.text p List.mem_cons_self
      have hkind := he.executeKind scope h (classify p.1.text)
      have hline : Twins view (Statement.executeLine e scope p.1 (ps.map Prod.fst))
          (Statement.executeLine e scope p.2 (ps.map Prod.snd)) := by
        refine .executeLine (fun hp => h.number hp p List.mem_cons_self) htext ?_
        rwa [← htext]
      refine hline.bind fun result => ?_
      obtain ⟨used, flow⟩ := result
      dsimp only
      split
      · exact hrest used
      · exact .pure flow

theorem executeBlock {lines lines' : List Line} (h : SameOrder view.placed lines lines') :
    Twins view (Statement.executeBlock e scope lines) (Statement.executeBlock e scope lines') := by
  obtain ⟨ps, hps, rfl, rfl⟩ := h
  exact he.executeFrom scope 0 ps hps

end Even

/-! ## All levels -/

theorem even_level (n : Nat) : Even view (Engine.level n) := by
  induction n with
  | zero =>
    have hstop {α : Type} : Twins view (throw (.exhausted .evaluation) : Run α)
      (throw (.exhausted .evaluation)) := fun _ _ h => .error (.exhausted .evaluation) h
    exact ⟨fun _ _ => hstop, fun _ _ _ => hstop, fun _ _ _ _ => hstop⟩
  | succ n ih =>
    exact ⟨fun scope text => ih.twins (Composed.evaluate scope text),
      fun v args keywords => ih.twins (Composed.apply_calls v args keywords),
      fun scope _ _ h => ih.executeBlock scope h⟩

/-- A line that is indented anew. -/
def reindent (g : Nat → Nat) (l : Line) : Line := { l with indent := g l.indent }

theorem sameOrder_reindent {g : Nat → Nat} (hg : StrictMono g) (lines : List Line) :
    SameOrder view.placed lines (lines.map (reindent g)) := by
  have hpair : ∀ p ∈ lines.map fun l => (l, reindent g l), p.2 = reindent g p.1 := by
    intro p hp
    obtain ⟨l, -, rfl⟩ := List.mem_map.1 hp
    rfl
  refine ⟨lines.map fun l => (l, reindent g l), ⟨fun p hp => ?_, fun _ p hp => ?_,
    fun p hp q hq => ?_⟩, ?_, ?_⟩
  · rw [hpair p hp]
    rfl
  · rw [hpair p hp]
    rfl
  · rw [hpair p hp, hpair q hq]
    exact hg.le_iff_le.symm
  · exact (List.map_map ..).trans (List.map_id lines)
  · exact List.map_map ..

/-- A block that is indented anew, by widths that grow with the old ones, has the same outcome: the
same flow or failure, and the same machine apart from the bodies of functions. So the report and the
inputs that are left are the same. Both executions start on one machine, so they find one clock. -/
theorem executeBlock_reindent {g : Nat → Nat} (hg : StrictMono g) (n scope : Nat)
    (lines : List Line) (m : Machine) :
    let r : Outcome Flow := executeBlock (Engine.level n) scope lines m
    let r' : Outcome Flow := executeBlock (Engine.level n) scope (lines.map (reindent g)) m
    r'.onMachine Machine.bodiless = r.onMachine Machine.bodiless ∧
      Outcome.report r' = Outcome.report r ∧
      (Outcome.after r').inputs = (Outcome.after r).inputs := by
  intro r r'
  have htwins : OutcomeAlike .strict r r' :=
    (even_level n).executeBlock scope (sameOrder_reindent hg lines) m m (.refl m)
  have hsame := htwins.onMachine_bodiless trivial
  -- a report and the inputs that are left can be read off a machine without bodies
  refine ⟨hsame.symm, ?_, ?_⟩
  · have hreport (r : Outcome Flow) : Outcome.report (r.onMachine Machine.bodiless) =
        Outcome.report r := by cases r <;> rfl
    rw [← hreport r', ← hreport r, hsame]
  · have hinputs (r : Outcome Flow) : (Outcome.after (r.onMachine Machine.bodiless)).inputs =
        (Outcome.after r).inputs := by cases r <;> rfl
    rw [← hinputs r', ← hinputs r, hsame]

/-- A block with lines at columns 1, 9 and 10 has the same report with these lines at 1, 81 and
100. -/
theorem executeBlock_reindent_squares :
    let g : Nat → Nat := fun n => n * n
    let lines : List Line := [⟨"def f(n):".toList, 1, 1⟩, ⟨"while n:".toList, 9, 2⟩,
      ⟨"return n".toList, 10, 3⟩, ⟨"print(f(7))".toList, 1, 4⟩]
    let m : Machine := { store := { scopes := #[[]] } }
    StrictMono g ∧
      Outcome.report (executeBlock (Engine.level 20) 0 (lines.map (reindent g)) m) =
        Outcome.report (executeBlock (Engine.level 20) 0 lines m) := by
  intro g lines m
  have hg : StrictMono g := fun a b h => Nat.mul_self_lt_mul_self h
  exact ⟨hg, (executeBlock_reindent hg 20 0 lines m).2.1⟩

/-- A block that tells the time, and the same block indented anew on a machine with another clock. -/
theorem executeBlock_reindent_clocks :
    let g : Nat → Nat := fun n => n * n
    let lines : List Line := [⟨"import time".toList, 0, 1⟩, ⟨"if True:".toList, 0, 2⟩,
      ⟨"print(time.time() > 1600000000)".toList, 2, 3⟩]
    let m (seconds : Float) : Machine :=
      { store := { scopes := #[[]], host := (Host.showing seconds).toSurroundings } }
    StrictMono g ∧
      (Outcome.report
        (executeBlock (Engine.level 20) 0 (lines.map (reindent g)) (m 1700000000))).output = "True" ∧
      (Outcome.report (executeBlock (Engine.level 20) 0 lines (m 1500000000))).output = "False" := by
  intro g lines m
  refine ⟨fun a b h => Nat.mul_self_lt_mul_self h, ?_, ?_⟩
  · decide +kernel
  · decide +kernel

end SnippetGrader.Indentation
