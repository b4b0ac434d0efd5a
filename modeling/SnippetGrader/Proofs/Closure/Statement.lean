import SnippetGrader.Proofs.Closure.Expression

/-!
# What statements refer to

Statements, blocks and calls above an engine that only adds things only add things themselves, and
so every engine is one that does (`Engine.level_keeps`).
-/

namespace SnippetGrader

open Text Source

/-- The value with which a loop ends is in the store. -/
def Statement.LoopEnd.Within (s : Store) : Statement.LoopEnd → Prop
  | .returned v => v.Within s
  | _ => True

namespace Keeps

variable {S : Store} {C : Prop} {v : Value}

/-! ## Statements on one line -/

theorem changedValue (op : Operator) {current : Value} (hcurrent : C → current.Within S)
    (hv : C → v.Within S) : Keeps S C (Value.Within S) (Statement.changedValue op current v) := by
  unfold Statement.changedValue
  split
  · exact .bind items fun _ => .checked
      (growList fun h _ hxs => Array.forall_mem_append.2 ⟨hxs, h.2⟩) fun _ =>
        pure fun h => hcurrent h.1
  · exact operate _ hcurrent hv

theorem importNames (scope : Nat) (lib : Library) (parts : List (List Char)) :
    Keeps S C (fun _ => True) (Statement.importNames scope lib parts) := by
  refine forM fun part _ => ?_
  dsimp only
  split
  · next v hv => exact bindName fun _ => Library.attribute?_within hv
  · exact pure fun _ => trivial

theorem importLibraries (scope : Nat) (parts : List (List Char)) :
    Keeps S C (fun _ => True) (Statement.importLibraries scope parts) := by
  refine forM fun part _ => ?_
  dsimp only
  split
  · exact bindName fun _ => trivial
  · exact pure fun _ => trivial

theorem executeImport (scope : Nat) (text : List Char) :
    Keeps S C (fun _ => True) (Statement.executeImport scope text) := by
  unfold Statement.executeImport
  split
  · dsimp only
    split
    · exact importNames scope _ _
    · exact pure fun _ => trivial
  · exact importLibraries scope _

theorem holdsException (scope : Nat) (name : String) :
    Keeps S C (fun _ => True) (Statement.holdsException scope name) := by
  refine .seq lookup? fun v => ?_
  split <;> exact pure fun _ => trivial

section Engine

variable {e : Engine} (he : e.Keeps S)
include he

theorem executeAssignment (scope : Nat) (a : Assignment) :
    Keeps S C (fun _ => True) (Statement.executeAssignment e scope a) := by
  unfold Statement.executeAssignment
  cases Statement.changeOperator? a.symbol with
  | some op =>
    exact .bind he.eval fun v => .bind he.eval fun current =>
      .bind (changedValue op And.right fun h => h.1.2) fun w => assign he scope _ And.right
  | none => exact .bind he.eval fun v => forM fun target _ => assign he scope _ And.right

theorem executeReturn (scope : Nat) (text : List Char) :
    Keeps S C (Flow.Within S) (Statement.executeReturn e scope text) :=
  .bind he.eval fun _ => pure And.right

theorem raiseValue (scope : Nat) (text : List Char) :
    Keeps S C (Flow.Within S) (Statement.raiseValue e scope text) := by
  unfold Statement.raiseValue
  refine .seq he.eval fun v => ?_
  split
  · exact fail _
  · exact fail _

theorem raiseKind (scope : Nat) (kind : String) (text : List Char) :
    Keeps S C (Flow.Within S) (Statement.raiseKind e scope kind text) := by
  unfold Statement.raiseKind
  refine .checked (fail _) fun _ => .seq (arguments he scope text) fun p => ?_
  dsimp only
  split
  · exact .seq display fun _ => fail _
  · exact fail _

theorem executeRaise (scope : Nat) (text : List Char) :
    Keeps S C (Flow.Within S) (Statement.executeRaise e scope text) := by
  unfold Statement.executeRaise
  refine ite (.seq get fun m => ?_) ?_
  · split
    · exact failed _ _
    · exact failed _ _
  · dsimp only
    split
    · exact raiseValue he scope _
    · exact .seq (holdsException scope _) fun b => ite (raiseValue he scope _) (raiseKind he scope _ _)

theorem executeAssert (scope : Nat) (text : List Char) :
    Keeps S C (fun _ => True) (Statement.executeAssert e scope text) := by
  unfold Statement.executeAssert
  split
  · exact pure fun _ => trivial
  · refine .seq he.eval fun v => .seq truthy fun b => ite ?_ (pure fun _ => trivial)
    split
    · exact .seq he.eval fun w => .seq display fun _ => fail _
    · exact .seq (P := fun _ => True) (pure fun _ => trivial) fun _ => fail _

theorem executePrint (scope : Nat) (text : List Char) :
    Keeps S C (fun _ => True) (Statement.executePrint e scope text) :=
  .seq (arguments he scope _) fun p => print p.1 p.2

/-! ## Definitions -/

theorem defineFunction (scope : Nat) (line : Line) (rest : List Line) :
    Keeps S C (fun p => p.2.Within S) (Statement.defineFunction e scope line rest) := by
  unfold Statement.defineFunction
  cases definitionHead? line.text with
  | none => exact fail _
  | some h =>
    exact .bind (parameters he scope _) fun p => .bind (newFunction fun h => h.2) fun f =>
      .seq (bindName And.right) fun _ => pure fun _ => trivial

omit he in
theorem firstDefault_within {params : List String} {defaults : Scope}
    (h : defaults.Within S) : (Statement.firstDefault params defaults).Within S := by
  unfold Statement.firstDefault
  split
  · next p _ =>
    cases hv : defaults.get? p with
    | none => trivial
    | some v => exact h.get? hv
  · trivial

theorem classField (lines : List Line) :
    Keeps S C (fun p => p.2.Within S) (Statement.classField e lines) := by
  induction lines with
  | nil => exact pure fun _ => trivial
  | cons line rest ih =>
    unfold Statement.classField
    cases initParams? line.text with
    | none => exact ih
    | some text =>
      exact .seq (newScope fun _ => .nil) fun scope => .bind (parameters he scope text) fun p =>
        pure fun h => firstDefault_within h.2

theorem defineClass (scope : Nat) (line : Line) (rest : List Line) :
    Keeps S C (fun p => p.2.Within S) (Statement.defineClass e scope line rest) := by
  unfold Statement.defineClass
  cases classHead? line.text with
  | none => exact fail _
  | some h =>
    exact .bind (classField he _) fun p => .bind (newTemplate fun h => h.2) fun t =>
      .seq (bindName And.right) fun _ => pure fun _ => trivial

/-! ## Conditions and loops -/

theorem firstBranch (scope : Nat) (branches : List (Option (List Char) × List Line)) :
    Keeps S C (Flow.Within S) (Statement.firstBranch e scope branches) := by
  induction branches with
  | nil => exact pure fun _ => trivial
  | cons b branches ih =>
    obtain ⟨condition, lines⟩ := b
    cases condition with
    | none => exact he.block
    | some condition => exact .seq he.eval fun v => .seq truthy fun b => ite he.block ih

theorem forEach (scope : Nat) (target : Expression.Target) (lines : List Line) {vs : List Value}
    (hvs : C → Value.AllWithin S vs) : Keeps S C (Statement.LoopEnd.Within S)
      (Statement.forEach e scope target lines vs) := by
  induction vs generalizing C with
  | nil => exact pure fun _ => trivial
  | cons v vs ih =>
    have hrest (hC : C) : Value.AllWithin S vs := (List.forall_mem_cons.1 (hvs hC)).2
    unfold Statement.forEach
    refine .seq (assign he scope target fun hC => hvs hC v List.mem_cons_self) fun _ =>
      .bind he.block fun flow => ?_
    cases flow with
    | broke => exact pure fun _ => trivial
    | returned w => exact pure And.right
    | normal => exact ih fun h => hrest h.1
    | continued => exact ih fun h => hrest h.1

theorem whileTrue (scope : Nat) (condition : List Char) (lines : List Line) (fuel : Nat) :
    Keeps S C (Statement.LoopEnd.Within S)
      (Statement.whileTrue e scope condition lines fuel) := by
  induction fuel generalizing C with
  | zero => exact pure fun _ => trivial
  | succ fuel ih =>
    unfold Statement.whileTrue
    refine .seq he.eval fun v => .seq truthy fun b => ite (.bind he.block fun flow => ?_)
      (pure fun _ => trivial)
    cases flow with
    | broke => exact pure fun _ => trivial
    | returned w => exact pure And.right
    | normal => exact ih
    | continued => exact ih

omit he in
theorem warn (text : String) : Keeps S C (fun _ => True) (Statement.warn text) := by
  refine modify (fun m => ?_) fun m => ?_
  all_goals split <;> rfl

theorem afterLoop (scope : Nat) (otherwise : Option (List Line)) {stop : Statement.LoopEnd}
    (hstop : C → stop.Within S) :
    Keeps S C (Flow.Within S) (Statement.afterLoop e scope otherwise stop) := by
  cases stop with
  | finished =>
    cases otherwise with
    | none => exact pure fun _ => trivial
    | some lines => exact he.block
  | broke => exact pure fun _ => trivial
  | returned v => exact pure hstop
  | limited => exact .seq get fun m => .seq (warn _) fun _ => pure fun _ => trivial

omit he in
theorem loopItems (v : Value) : Keeps S C (Value.AllWithin S) (Statement.loopItems v) := by
  refine .bind sequence? fun o => pure fun h => ?_
  cases o with
  | none => nofun
  | some xs => exact h.2 xs rfl

theorem executeIf (scope : Nat) (line : Line) (rest : List Line) :
    Keeps S C (fun p => p.2.Within S) (Statement.executeIf e scope line rest) :=
  .seq (check _) fun _ => .bind (firstBranch he scope _) fun _ => pure And.right

theorem executeFor (scope : Nat) (line : Line) (rest : List Line) :
    Keeps S C (fun p => p.2.Within S) (Statement.executeFor e scope line rest) := by
  unfold Statement.executeFor
  refine .seq (check _) fun h => ?_
  split
  · exact fail _
  · exact .seq (check _) fun c => .seq he.eval fun v => .bind (loopItems v) fun xs =>
      .bind (forEach he scope _ _ And.right) fun stop =>
        .bind (afterLoop he scope _ And.right) fun _ => pure And.right

theorem executeWhile (scope : Nat) (line : Line) (rest : List Line) :
    Keeps S C (fun p => p.2.Within S) (Statement.executeWhile e scope line rest) :=
  .seq (check _) fun _ => .seq get fun _ => .bind (whileTrue he scope _ _ _) fun _ =>
    .bind (afterLoop he scope _ And.right) fun _ => pure And.right

theorem executeWith (scope : Nat) (line : Line) (rest : List Line) :
    Keeps S C (fun p => p.2.Within S) (Statement.executeWith e scope line rest) := by
  refine .seq (check _) fun c => .seq (forM fun part _ => ?_) fun _ => .bind he.block fun _ =>
    pure And.right
  exact .bind he.eval fun v => ite (assign he scope _ And.right) (pure fun _ => trivial)

/-! ## Failures and their handlers -/

theorem handle (scope : Nat) (handlers : List Statement.Clause) (f : Failure) :
    Keeps S C (Flow.Within S) (Statement.handle e scope handlers f) := by
  unfold Statement.handle
  split
  · exact fail _
  · have rest {C : Prop} (lines : List Line) : Keeps S C (Flow.Within S) (do
        modifyThe Machine fun m => { m with handling := f :: m.handling }
        Run.finally' (e.block scope lines)
          (modifyThe Machine fun m => { m with handling := m.handling.tail })) :=
      .seq (modify (fun _ => rfl) fun _ => rfl) fun _ =>
        finally' he.block (fun _ => rfl) fun _ => rfl
    exact ite (.bind newException fun v => .seq (bindName And.right) fun _ => rest _) (rest _)

theorem guarded (scope : Nat) (c : Statement.Compound) :
    Keeps S C (Flow.Within S) (Statement.guarded e scope c) := by
  unfold Statement.guarded
  refine .bind (attempt he.block) fun r => ?_
  cases r with
  | error f => exact ite (fail f) (handle he scope _ f)
  | ok flow =>
    have hflow (h : C ∧ ∀ a, (.ok flow : Except Failure Flow) = .ok a → a.Within S) :
        flow.Within S := h.2 flow rfl
    dsimp only
    split
    · exact ite he.block (pure hflow)
    · exact pure hflow

theorem executeTry (scope : Nat) (line : Line) (rest : List Line) :
    Keeps S C (fun p => p.2.Within S) (Statement.executeTry e scope line rest) := by
  unfold Statement.executeTry
  refine .seq (check _) fun c => .bind (attempt (guarded he scope c)) fun outcome => ?_
  have last {C : Prop} (h : C → Yields (Flow.Within S) outcome) (flow : Flow)
      (hflow : C → flow.Within S) : Keeps S C (fun p : Nat × Flow => p.2.Within S)
        (if flow.isNormal then do return (c.used, ← Run.ofExcept outcome) else return (c.used, flow)) :=
    ite (.bind (ofExcept h) fun _ => pure And.right) (pure hflow)
  split
  · exact .bind he.block fun flow => last (fun h => h.1.2) flow And.right
  · exact .bind (pure (Q := Flow.Within S) fun _ => trivial) fun flow =>
      last (fun h => h.1.2) flow And.right

/-! ## Lines and blocks -/

theorem executeKind (scope : Nat) (line : Line) (rest : List Line) (kind : StatementKind) :
    Keeps S C (fun p => p.2.Within S) (Statement.executeKind e scope line rest kind) := by
  have done {C : Prop} : Keeps S C (fun p : Nat × Flow => p.2.Within S) (return (0, .normal)) :=
    pure fun _ => trivial
  cases kind with
  | definition => exact defineFunction he scope line rest
  | classDefinition => exact defineClass he scope line rest
  | importing => exact .seq (executeImport scope _) fun _ => done
  | guarded => exact executeTry he scope line rest
  | returning => exact .bind (executeReturn he scope _) fun _ => pure And.right
  | raising => exact .bind (executeRaise he scope _) fun _ => pure And.right
  | pass => exact done
  | scoping => exact done
  | breaking => exact pure fun _ => trivial
  | continuing => exact pure fun _ => trivial
  | within => exact executeWith he scope line rest
  | assertion => exact .seq (executeAssert he scope _) fun _ => done
  | assignment =>
    unfold Statement.executeKind
    cases assignment? line.text with
    | none => exact done
    | some a => exact .seq (executeAssignment he scope a) fun _ => done
  | printing => exact .seq (executePrint he scope _) fun _ => done
  | forLoop => exact executeFor he scope line rest
  | whileLoop => exact executeWhile he scope line rest
  | conditional => exact executeIf he scope line rest
  | clause => exact pure fun _ => trivial
  | expression => exact .seq he.eval fun _ => done

theorem executeLine (scope : Nat) (line : Line) (rest : List Line) :
    Keeps S C (fun p => p.2.Within S) (Statement.executeLine e scope line rest) :=
  .seq (modify (fun _ => rfl) fun _ => rfl) fun _ =>
    onFailure (.seq tick fun _ => executeKind he scope line rest _) fun _ => fail _

theorem executeFrom (scope skip : Nat) (lines : List Line) :
    Keeps S C (Flow.Within S) (Statement.executeFrom e scope skip lines) := by
  induction lines generalizing C skip with
  | nil => exact pure fun _ => trivial
  | cons line rest ih =>
    unfold Statement.executeFrom
    exact ite (ih _) (.bind (executeLine he scope line rest) fun p => ite (ih _) (pure And.right))

theorem executeBlock (scope : Nat) (lines : List Line) :
    Keeps S C (Flow.Within S) (Statement.executeBlock e scope lines) :=
  executeFrom he scope 0 lines

end Engine

/-! ## Calls -/

theorem callFunction {e : Engine} (he : e.Keeps S) {f : Function} {args : List Value}
    {keywords : Keywords} (hf : C → f.defaults.Within S) (hargs : C → Value.AllWithin S args)
    (hkeywords : C → Scope.Within S keywords) :
    Keeps S C (Value.Within S) (Statement.callFunction e f args keywords) := by
  unfold Statement.callFunction
  refine .bind get fun m => ite (failed _ _) ?_
  refine .bind (ofExcept fun h => callScope_within (hf h.1) (h.2.store.scope f.scope) (hargs h.1)
    (hkeywords h.1)) fun names => .seq (newScope And.right) fun scope =>
      .seq (modify (fun _ => rfl) fun _ => rfl) fun _ =>
        .bind (finally' he.block (fun _ => rfl) fun _ => rfl) fun flow => pure fun h => ?_
  cases flow with
  | returned v => exact h.2
  | _ => trivial

theorem apply {e : Engine} (he : e.Keeps S) (v : Value) {args : List Value} {keywords : Keywords}
    (hargs : C → Value.AllWithin S args) (hkeywords : C → Scope.Within S keywords) :
    Keeps S C (Value.Within S) (Statement.apply e v args keywords) := by
  cases v with
  | builtin f => exact invoke he f hargs hkeywords
  | native f => exact native f args keywords
  | function ref =>
    refine ite (failed _ _) (.bind store fun s => ?_)
    cases hf : s.functions[ref]? with
    | none => exact pure fun _ => trivial
    | some f =>
      exact callFunction he (fun h => h.2.functions f (Array.mem_of_getElem? hf))
        (fun h => hargs h.1) fun h => hkeywords h.1
  | template ref =>
    refine .seq (check _) fun p => .bind store fun s => ?_
    cases ht : s.templates[ref]? with
    | none => exact pure fun _ => trivial
    | some t =>
      exact instantiate (fun h => h.2.templates t (Array.mem_of_getElem? ht)) fun h => hargs h.1
  | _ => exact fail _

end Keeps

/-! ## All levels -/

theorem Engine.level_keeps (S : Store) (n : Nat) : (Engine.level n).Keeps S := by
  induction n with
  | zero => exact ⟨.throw _, fun _ _ => .throw _, .throw _⟩
  | succ n ih =>
    exact ⟨.evaluate ih _ _, fun hargs hkeywords => .apply ih _ hargs hkeywords,
      .executeBlock ih _ _⟩

end SnippetGrader
