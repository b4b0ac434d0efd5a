import SnippetGrader.Proofs.Composition.Expression

/-!
# The composition of statements

A statement may evaluate any text and call any value, but the blocks that it executes weigh less
than the lines on which it stands, and it binds names in its own scope alone. Calling a value asks
for calls with one argument at most, apart from the body of a function of the program.
-/

namespace SnippetGrader

open Text Source Statement

/-- Any text may be evaluated and any value called, blocks that weigh less than `lines` may be
executed, their lines have numbers of `lines`, and warnings may be given. No name may be bound. -/
def Reach.lighter (lines : List Line) : Reach :=
  ⟨fun _ => True, fun _ _ => True, fun inner => weight inner < weight lines, fun _ => False,
    fun n => n ∈ lines.map (·.number), True⟩

/-- The same, and names may be bound in one scope. -/
def Reach.within (scope : Nat) (lines : List Line) : Reach := (Reach.lighter lines).adding scope

/-- What is inside the statements on some lines may be executed: lighter blocks may be, and lines
of these numbers. -/
structure Reach.Covers (R : Reach) (lines : List Line) : Prop where
  blocks : ∀ inner, weight inner < weight lines → R.blocks inner
  numbers : ∀ n ∈ lines.map (·.number), R.numbers n

/-- The statements on some lines may be executed: what is inside them may be, and they may give
warnings. -/
structure Reach.Admits (R : Reach) (lines : List Line) : Prop extends R.Covers lines where
  warns : R.warns

theorem Reach.within_admits (scope : Nat) (lines : List Line) :
    (Reach.within scope lines).Admits lines :=
  ⟨⟨fun _ h => h, fun _ h => h⟩, trivial⟩

theorem Reach.Covers.runs {R : Reach} {inner lines : List Line} (h : R.Covers lines)
    (hinside : Inside inner lines) : R.Runs inner :=
  ⟨h.blocks _ hinside.weight_lt, fun l hl => h.numbers _ (hinside.numbers l hl)⟩

theorem Reach.Admits.tail {R : Reach} {line : Line} {rest : List Line}
    (h : R.Admits (line :: rest)) : R.Admits rest where
  blocks inner hlt := h.blocks inner (by rw [weight_cons]; omega)
  numbers n hn := h.numbers n (List.mem_cons_of_mem _ hn)
  warns := h.warns

/-- All texts may be evaluated. -/
def Reach.ReadsAll (R : Reach) : Prop := ∀ text, R.texts text

theorem Reach.ReadsAll.reads {R : Reach} (h : R.ReadsAll) (n : Nat) : R.Reads n :=
  fun text _ => h text

namespace Composed

variable {R : Reach}

/-! ## Statements on one line -/

theorem changedValue (op : Operator) (current v : Value) :
    Composed R fun _ => Statement.changedValue op current v := by
  unfold Statement.changedValue
  split
  · exact .bind (items _) fun _ => .checked (growList _ _) fun _ => pure _
  · exact operate _ _ _

section Imports

variable (scope : Nat) (hscope : R.scopes scope)
include hscope

theorem importNames (lib : Library) (parts : List (List Char)) :
    Composed R fun _ => Statement.importNames scope lib parts := by
  refine forM parts fun part _ => ?_
  dsimp only
  split
  · exact .bindName _ hscope _ _
  · exact pure _

theorem importLibraries (parts : List (List Char)) :
    Composed R fun _ => Statement.importLibraries scope parts := by
  refine forM parts fun part _ => ?_
  dsimp only
  split
  · exact .bindName _ hscope _ _
  · exact pure _

theorem executeImport (text : List Char) :
    Composed R fun _ => Statement.executeImport scope text := by
  unfold Statement.executeImport
  split
  · dsimp only
    split
    · exact importNames _ hscope _ _
    · exact pure _
  · exact importLibraries _ hscope _

end Imports

theorem holdsException (scope : Nat) (name : String) :
    Composed R fun _ => Statement.holdsException scope name := by
  unfold Statement.holdsException
  refine .bind (lookup? scope name) fun v => ?_
  split <;> exact pure _

section Texts

variable (scope : Nat) (hR : R.ReadsAll)
include hR

theorem value (text : List Char) : Composed R fun e => e.eval scope text :=
  .eval scope text (hR text)

theorem assigned (hscope : R.scopes scope) (text : List Char) (v : Value) :
    Composed R fun e => Expression.assign e scope (Expression.Target.ofText text) v :=
  assignText scope hscope (hR.reads _) v

theorem executeAssignment (hscope : R.scopes scope) (a : Assignment) :
    Composed R fun e => Statement.executeAssignment e scope a := by
  unfold Statement.executeAssignment
  cases changeOperator? a.symbol with
  | some op =>
    exact .bind (value scope hR _) fun v => .bind (value scope hR _) fun current =>
      .bind (changedValue op current v) fun w => assigned scope hR hscope a.target w
  | none =>
    exact .bind (value scope hR _) fun v => forM _ fun target _ => assigned scope hR hscope target v

theorem executeReturn (text : List Char) :
    Composed R fun e => Statement.executeReturn e scope text :=
  .bind (value scope hR _) fun _ => pure _

theorem raiseValue (text : List Char) : Composed R fun e => Statement.raiseValue e scope text := by
  unfold Statement.raiseValue
  refine .bind (value scope hR text) fun v => ?_
  cases v with
  | exception ref kind message => exact fail _ rfl
  | _ => exact fail _ rfl

theorem raiseKind (kind : String) (text : List Char) :
    Composed R fun e => Statement.raiseKind e scope kind text := by
  unfold Statement.raiseKind
  refine .checked (fail _ rfl) fun _ => .bind (arguments scope (hR.reads _)) fun (args, _) => ?_
  cases args with
  | nil => exact fail _ rfl
  | cons v args => exact .bind (display v) fun _ => fail _ rfl

theorem raiseOperand (text : List Char) : Composed R fun e => (do
    let operand := raisedText text
    match raisedCall? operand with
    | none => Statement.raiseValue e scope operand
    | some (name, inner) =>
      let kind := String.ofList name
      if ← Statement.holdsException scope kind then Statement.raiseValue e scope operand
      else Statement.raiseKind e scope kind (inner.getD []) : Run Flow) := by
  dsimp only
  cases raisedCall? (raisedText text) with
  | none => exact raiseValue scope hR _
  | some p =>
    exact .bind (holdsException scope _) fun b =>
      .ite (fun _ => raiseValue scope hR _) fun _ => raiseKind scope hR _ _

theorem executeRaise (text : List Char) :
    Composed R fun e => Statement.executeRaise e scope text := by
  have rest := raiseOperand scope hR text
  unfold Statement.executeRaise
  refine .ite (fun _ => ?_) fun _ => rest
  convert Composed.raiseAgain (R := R) (α := Flow) using 2
  funext m
  rw [Run.get_bind, Run.raiseAgain, Run.context_bind, Machine.context]
  cases m.handling <;> rfl

theorem executeAssert (text : List Char) :
    Composed R fun e => Statement.executeAssert e scope text := by
  unfold Statement.executeAssert
  cases cutTopLevel ',' (text.drop 6) with
  | nil => exact pure _
  | cons condition rest =>
    refine .bind (value scope hR condition) fun v => .bind (truthy v) fun b =>
      .ite (fun _ => ?_) fun _ => pure _
    cases rest with
    | nil => exact .bind (pure "") fun _ => fail _ rfl
    | cons text rest =>
      exact .bind (value scope hR text) fun w => .bind (display w) fun _ => fail _ rfl

theorem executePrint (text : List Char) :
    Composed R fun e => Statement.executePrint e scope text :=
  .bind (arguments scope (hR.reads _)) fun p => print p.1 p.2

/-! ## Definitions -/

theorem defineFunction (hscope : R.scopes scope) (line : Line) (rest : List Line)
    (hb : R.Covers (line :: rest)) :
    Composed R fun e => Statement.defineFunction e scope line rest := by
  unfold Statement.defineFunction
  cases hhead : definitionHead? line.text with
  | none => exact fail _ rfl
  | some h =>
    have hname := definitionHead?_name hhead
    exact .bind (parameters scope (hR.reads _)) fun p =>
      .bind (.define (fun _ => _)
        (fun _ l hl => .inl (hb.numbers _ (body_numbers line _ rest l hl))) (fun _ _ => rfl)
        fun _ hlambda => absurd hlambda hname) fun f =>
          .bind (.bindName scope hscope _ f) fun _ => pure _

omit scope in
theorem classField (lines : List Line) : Composed R fun e => Statement.classField e lines := by
  induction lines with
  | nil => exact pure _
  | cons line rest ih =>
    unfold Statement.classField
    cases initParams? line.text with
    | none => exact ih
    | some text =>
      exact .bind (.newScope []) fun scope => .bind (parameters scope (hR.reads _)) fun p => pure _

theorem defineClass (hscope : R.scopes scope) (line : Line) (rest : List Line) :
    Composed R fun e => Statement.defineClass e scope line rest := by
  unfold Statement.defineClass
  cases classHead? line.text with
  | none => exact fail _ rfl
  | some h =>
    exact .bind (classField hR _) fun p => .bind (newTemplate _) fun t =>
      .bind (.bindName scope hscope _ t) fun _ => pure _

end Texts

/-! ## Conditions and loops -/

section Blocks

variable (scope : Nat) (hscope : R.scopes scope) (hR : R.ReadsAll)
include hscope

include hR in
theorem firstBranch (branches : List (Option (List Char) × List Line))
    (h : ∀ b ∈ branches, R.Runs b.2) :
    Composed R fun e => Statement.firstBranch e scope branches := by
  induction branches with
  | nil => exact pure _
  | cons b branches ih =>
    obtain ⟨condition, lines⟩ := b
    have taken := block scope hscope lines (h _ List.mem_cons_self)
    cases condition with
    | none => exact taken
    | some condition =>
      exact .bind (value scope hR condition) fun v => .bind (truthy v) fun b =>
        .ite (fun _ => taken) fun _ => ih fun b hb => h b (List.mem_cons_of_mem _ hb)

/-- What follows a loop, which gives a warning if the loop ended at the limit of rounds. -/
theorem afterLoop {otherwise : Option (List Line)} (h : ∀ lines ∈ otherwise, R.Runs lines)
    (stop : LoopEnd) (hwarns : stop = .limited → R.warns) :
    Composed R fun e => Statement.afterLoop e scope otherwise stop := by
  cases stop with
  | finished =>
    cases otherwise with
    | none => exact pure _
    | some lines => exact .block scope hscope lines (h lines rfl)
  | broke => exact pure _
  | returned v => exact pure _
  | limited =>
    change Composed R fun e => Run.setting >>= fun c =>
      Statement.warn ("While iterations limited to " ++ toString c.2) >>= fun _ => _
    exact .bind .setting fun c => .bind (.warn _ (hwarns rfl)) fun _ => pure _

include hR in
/-- A loop over items, together with what follows it; such a loop has no limit of rounds. -/
theorem forEach (target : List Char) {lines : List Line} (h : R.Runs lines)
    {otherwise : Option (List Line)} (ho : ∀ lines ∈ otherwise, R.Runs lines) (vs : List Value) :
    Composed R fun e =>
      Statement.forEach e scope (Expression.Target.ofText target) lines vs >>=
        Statement.afterLoop e scope otherwise := by
  have hafter (stop : LoopEnd) (hstop : stop ≠ .limited) :
      Composed R fun e => Statement.afterLoop e scope otherwise stop :=
    afterLoop scope hscope ho stop fun heq => absurd heq hstop
  induction vs with
  | nil => exact hafter .finished nofun
  | cons v vs ih =>
    simp only [Statement.forEach, bind_assoc]
    refine .bind (assigned scope hR hscope target v) fun _ =>
      .bind (.block scope hscope lines h) fun flow => ?_
    cases flow with
    | normal => exact ih
    | continued => exact ih
    | broke => exact hafter .broke nofun
    | returned w => exact hafter (.returned w) nofun

include hR in
theorem whileTrue (condition : List Char) {lines : List Line} (h : R.Runs lines) (fuel : Nat) :
    Composed R fun e => Statement.whileTrue e scope condition lines fuel := by
  induction fuel with
  | zero => exact pure _
  | succ fuel ih =>
    refine .bind (value scope hR condition) fun v => .bind (truthy v) fun b =>
      .ite (fun _ => .bind (.block scope hscope lines h) fun flow => ?_) fun _ => pure _
    cases flow with
    | normal => exact ih
    | continued => exact ih
    | broke => exact pure _
    | returned w => exact pure _

omit hscope in
theorem loopItems (v : Value) : Composed R fun _ => Statement.loopItems v :=
  .bind (sequence? v) fun _ => pure _

include hR in
/-- What is evaluated and bound in the header of `with`. -/
theorem withItems (head : List Char) : Composed R fun e =>
    (cutTopLevel ',' head).forM fun part => (do
      let (expression, alias_) := splitAlias part
      let v ← e.eval scope expression
      if !(trim alias_).isEmpty then
        Expression.assign e scope (Expression.Target.ofText alias_) v : Run Unit) := by
  refine forM _ fun part _ => ?_
  exact .bind (value scope hR _) fun v =>
    .ite (fun _ => assigned scope hR hscope _ v) fun _ => pure _

omit hscope in
/-- The result of reading a compound statement, with where its bodies come from. -/
theorem compound {α : Type} (keyword : String) (words last : List String) (line : Line)
    (rest : List Line) {k : Compound → Engine → Run α}
    (hb : R.Covers (line :: rest))
    (hk : ∀ c : Compound, (∀ lines ∈ c.bodies, R.Runs lines) → Composed R (k c)) :
    Composed R fun e => Run.ofExcept (Statement.compound keyword words last line rest) >>=
      fun c => k c e := by
  cases h : Statement.compound keyword words last line rest with
  | error f =>
    have hf := compound_unplaced keyword words last line rest
    rw [h] at hf
    exact fail f hf
  | ok c =>
    refine hk c fun lines hl => hb.runs ?_
    obtain ⟨hlines, hclauses⟩ := compound_inside h
    obtain rfl | hl := List.mem_cons.1 hl
    · exact hlines
    · obtain ⟨cl, hcl, rfl⟩ := List.mem_map.1 hl
      exact hclauses cl hcl

omit hscope in
theorem clause_bodies {c : Compound} {word : String} {lines : List Line}
    (h : lines ∈ c.clause? word) : lines ∈ c.bodies := by
  obtain ⟨cl, hcl, rfl⟩ := Option.map_eq_some_iff.1 h
  have hmem := (List.mem_filter.1 (List.mem_of_getLast? hcl)).1
  exact List.mem_cons_of_mem _ (List.mem_map_of_mem hmem)

omit hscope in
/-- The body of the handler that is executed is among the bodies. -/
theorem handlerOf?_bodies {c : Compound} {f : Failure} {clause : Clause}
    (h : handlerOf? c.handlers f = some clause) : clause.lines ∈ c.bodies := by
  have hmem : clause ∈ c.handlers := by
    obtain h | ⟨-, h⟩ := Option.orElse_eq_some .. |>.1 h
    · exact List.mem_of_find?_eq_some h
    · exact List.mem_of_head? h
  exact List.mem_cons_of_mem _ (List.mem_map_of_mem (List.mem_filter.1 hmem).1)

section Statements

variable (line : Line) (rest : List Line)

section Covered

variable (hb : R.Covers (line :: rest))
include hR hb

theorem executeIf : Composed R fun e => Statement.executeIf e scope line rest := by
  refine compound _ _ _ line rest hb fun c hc => .bind (firstBranch scope hscope hR _ ?_) fun _ =>
    pure _
  intro b hbranch
  obtain rfl | hbranch := List.mem_cons.1 hbranch
  · exact hc _ List.mem_cons_self
  · obtain ⟨cl, hcl, rfl⟩ := List.mem_map.1 hbranch
    exact hc _ (List.mem_cons_of_mem _ (List.mem_map_of_mem hcl))

theorem executeFor : Composed R fun e => Statement.executeFor e scope line rest := by
  unfold Statement.executeFor
  refine bindExcept (by simp) fun h => ?_
  cases (findKeyword ["in"] h.head).head? with
  | none => exact fail _ rfl
  | some s =>
    refine compound _ _ _ line rest hb fun c hc => ?_
    refine .bind (value scope hR _) fun v => .bind (loopItems v) fun xs => ?_
    have helse : ∀ lines ∈ c.clause? "else", R.Runs lines := fun lines hl =>
      hc lines (clause_bodies hl)
    have hloop := forEach scope hscope hR (c.head.take s.start) (hc _ List.mem_cons_self) helse xs
    simpa only [bind_assoc] using Composed.bind hloop fun flow => pure (c.used, flow)

theorem executeWhile (hwarns : R.warns) :
    Composed R fun e => Statement.executeWhile e scope line rest := by
  refine compound _ _ _ line rest hb fun c hc => ?_
  change Composed R fun e => Run.setting >>= fun ctx => do
    let stop ← Statement.whileTrue e scope c.head c.lines ctx.2.toNat
    return (c.used, ← Statement.afterLoop e scope (c.clause? "else") stop)
  exact .bind .setting fun ctx =>
    .bind (whileTrue scope hscope hR _ (hc _ List.mem_cons_self) _) fun stop =>
      .bind (afterLoop scope hscope (fun lines hl => hc lines (clause_bodies hl)) stop
        fun _ => hwarns) fun _ => pure _

theorem executeWith : Composed R fun e => Statement.executeWith e scope line rest :=
  compound _ _ _ line rest hb fun c hc => .bind (withItems scope hscope hR c.head) fun _ =>
    .bind (.block scope hscope _ (hc _ List.mem_cons_self)) fun _ => pure _

omit hR in
theorem executeTry : Composed R fun e => Statement.executeTry e scope line rest := by
  simp only [executeTry_eq]
  exact compound _ _ _ line rest hb fun c hc => .bind (.guarded scope hscope c hc) fun _ =>
    pure _

theorem executeOther {kind : StatementKind} (hkind : kind ≠ .whileLoop) :
    Composed R fun e => Statement.executeKind e scope line rest kind := by
  cases kind with
  | definition => exact defineFunction scope hR hscope line rest hb
  | classDefinition => exact defineClass scope hR hscope line rest
  | importing => exact .bind (executeImport scope hscope _) fun _ => pure _
  | guarded => exact executeTry scope hscope line rest hb
  | returning => exact .bind (executeReturn scope hR _) fun _ => pure _
  | raising => exact .bind (executeRaise scope hR _) fun _ => pure _
  | pass => exact pure _
  | scoping => exact pure _
  | breaking => exact pure _
  | continuing => exact pure _
  | within => exact executeWith scope hscope hR line rest hb
  | assertion => exact .bind (executeAssert scope hR _) fun _ => pure _
  | assignment =>
    unfold Statement.executeKind
    cases assignment? line.text with
    | none => exact .bind (pure ()) fun _ => pure _
    | some a => exact .bind (executeAssignment scope hR hscope a) fun _ => pure _
  | printing => exact .bind (executePrint scope hR _) fun _ => pure _
  | forLoop => exact executeFor scope hscope hR line rest hb
  | whileLoop => exact absurd rfl hkind
  | conditional => exact executeIf scope hscope hR line rest hb
  | clause => exact pure _
  | expression => exact .bind (value scope hR _) fun _ => pure _

end Covered

variable (hb : R.Admits (line :: rest))
include hR hb

theorem executeKind (kind : StatementKind) :
    Composed R fun e => Statement.executeKind e scope line rest kind := by
  by_cases hkind : kind = .whileLoop
  · subst hkind
    exact executeWhile scope hscope hR line rest hb.toCovers hb.warns
  · exact executeOther scope hscope hR line rest hb.toCovers hkind

theorem executeLine : Composed R fun e => Statement.executeLine e scope line rest :=
  .line scope line rest (hb.numbers _ List.mem_cons_self) (executeKind scope hscope hR line rest hb _)

end Statements

end Blocks

/-! ## Blocks and calls -/

theorem executeFrom (scope : Nat) (hscope : R.scopes scope) (hR : R.ReadsAll) (skip : Nat)
    (lines : List Line) (hb : R.Admits lines) :
    Composed R fun e => Statement.executeFrom e scope skip lines := by
  induction lines generalizing skip with
  | nil => exact pure _
  | cons line rest ih =>
    have later (skip : Nat) : Composed R fun e => Statement.executeFrom e scope skip rest :=
      ih skip hb.tail
    unfold Statement.executeFrom
    exact .ite (fun _ => later _) fun _ => .bind (executeLine scope hscope hR line rest hb) fun p =>
      .ite (fun _ => later p.1) fun _ => pure p.2

/-- A block is put together from the blocks inside its statements. -/
theorem executeBlock (scope : Nat) (lines : List Line) :
    Composed (Reach.within scope lines) fun e => Statement.executeBlock e scope lines :=
  executeFrom scope ((Reach.lighter _).adding_scope scope) (fun _ => trivial) 0 lines
    (Reach.within_admits scope lines)

/-- A program is put together from the blocks inside its statements, and binds names in the scope
that is made for it. -/
theorem program (code : String) :
    Composed (Reach.lighter (splitLines code.toList)) (SnippetGrader.program code) :=
  .inside [] fun scope => executeBlock scope _

theorem templateCall (v : Value) (ref : Nat) (args : List Value) (keywords : Keywords) :
    Composed R fun _ => (do
      let _ ← Run.ofExcept (templateSignature.bind (v :: args) keywords)
      match (← Run.store).templates[ref]? with
      | some t => Statement.instantiate ref t args
      | none => return .none : Run Value) := by
  refine bindExcept (by simp) fun _ => .looking (fun _ => rfl) fun s => ?_
  cases s.templates[ref]? with
  | none => exact pure _
  | some t => exact instantiate ref t args

theorem functionCall (ref : Nat) (args : List Value) (keywords : Keywords) :
    Composed R fun e => Statement.apply e (.function ref) args keywords :=
  .checked (fail Statement.selfGivenTwice rfl) fun _ => .call ref args keywords

theorem apply_calls (v : Value) (args : List Value) (keywords : Keywords) :
    Composed Reach.callbacks fun e => Statement.apply e v args keywords := by
  cases v with
  | builtin f =>
    have hcalls (x : Value) : Reach.callbacks.calls [x] [] := ⟨⟨x, rfl⟩, rfl⟩
    exact invoke hcalls f args keywords
  | native f => exact native f args keywords
  | function ref => exact functionCall ref args keywords
  | template ref => exact templateCall _ ref args keywords
  | _ => exact fail _ rfl

end Composed

/-! ## All levels -/

/-- All that an engine offers has a property. -/
structure Engine.All (P : {α : Type} → Run α → Prop) (e : Engine) : Prop where
  eval : ∀ scope text, P (e.eval scope text)
  apply : ∀ v args keywords, P (e.apply v args keywords)
  block : ∀ scope lines, P (e.block scope lines)

/-- A property of exhaustion that what is put together above a level has if the level has it holds
of all levels. -/
theorem Engine.all_level {P : {α : Type} → Run α → Prop}
    (hstop : ∀ {α : Type}, P (throw (.exhausted .evaluation) : Run α))
    (hstep : ∀ (n : Nat), (Engine.level n).All P →
      ∀ {R : Reach} {α : Type} {x : Engine → Run α}, Composed R x → P (x (Engine.level n)))
    (n : Nat) : (Engine.level n).All P := by
  induction n with
  | zero => exact ⟨fun _ _ => hstop, fun _ _ _ => hstop, fun _ _ => hstop⟩
  | succ n ih =>
    exact ⟨fun scope text => hstep n ih (Composed.evaluate scope text),
      fun v args keywords => hstep n ih (Composed.apply_calls v args keywords),
      fun scope lines => hstep n ih (Composed.executeBlock scope lines)⟩

end SnippetGrader
