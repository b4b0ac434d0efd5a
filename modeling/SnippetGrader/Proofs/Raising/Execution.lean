import SnippetGrader.Proofs.Raising.Reading

/-!
# Raising and catching by name

What a program does that raises an error of its own and catches it by its name. The error that is
raised has the name as its kind and the text in quotes as its message (`executeRaise_raising`), and
a clause that gives the name catches it (`catches_own`) and binds it to an exception, which is
printed as its message (`executeBlock_printing`). Only the two kinds with which a run is ended from
outside are caught by no clause, also when the program raises them itself.
-/

namespace SnippetGrader.Raising

open Text Source Statement Expression Rendering Layout
open Written (Passes LiteralBody marked)
open Operation (name isWord_text)

/-! ## Raising -/

/-- The failure of a program that raises an error on a line. -/
def failure (x : Identifier) (message : List Char) (number : Nat) : Failure :=
  { kind := name x
    message := String.ofList message
    line := some number
    text := some (String.ofList (raising x message)) }

theorem IsMessage.stringValue_marked {message : List Char} (hm : IsMessage message) :
    Literal.stringValue ⟨[], '"', false⟩ (marked '"' message) =
      pure (.str (String.ofList message)) :=
  hm.literalBody.stringValue_marked (by decide) hm.isPrintable (Written.unescape?_plain hm.slash)

section Raise

variable (x : Identifier) {message : List Char} (hm : IsMessage message)

theorem operand_head : ∀ c ∈ (operand message).head?, isWord c = false := by
  rintro c ⟨⟩
  decide

theorem classify_raising : classify (raising x message) = .raising := by
  have hsplit : splitName (raising x message) =
      ("raise".toList, ' ' :: (x.text ++ operand message)) :=
    splitName_word (c := 'r') (w := "aise".toList) (List.all_eq_true.1 (by decide)) (by decide)
      (by simp; decide)
  have hfirst : firstName (raising x message) = "raise" := by
    rw [firstName, hsplit]
    rfl
  rw [classify, hfirst]
  rfl

/-- The name and the argument of the error that is raised. -/
theorem raisedCall?_operand :
    raisedCall? (x.text ++ operand message) = some (x.text, some (marked '"' message)) := by
  have hsplit : splitName (x.text ++ operand message) = (x.text, operand message) :=
    Operation.splitName_text x operand_head
  obtain ⟨c, more, hx, -⟩ := x.exists_head
  have hname : name? (x.text ++ operand message) = some (x.text, operand message) := by
    rw [name?, hsplit, hx]
    rfl
  have hstart : trimStart (operand message) = '(' :: (marked '"' message ++ [')']) := rfl
  have hlast : (marked '"' message ++ [')']).getLast? = some ')' := List.getLast?_concat
  rw [raisedCall?, hname]
  simp [hstart, hlast]

theorem trim_drop_raising : trim ((raising x message).drop 5) = x.text ++ operand message := by
  have hdrop : (raising x message).drop 5 = [' '] ++ (x.text ++ operand message) := rfl
  rw [hdrop, trim_append_left isBlank_space]
  exact trim_named x (show isBlank ')' = false by decide) ('(' :: marked '"' message)

include hm

theorem raisedText_raising : raisedText (raising x message) = x.text ++ operand message := by
  have hfrom : findKeyword ["from"] (x.text ++ operand message) = [] := by
    have hword : "from" ∈ reservedWords := by decide
    obtain ⟨before, hfind⟩ := Operation.findKeyword_text x operand_head [] hword
    have hpasses : Passes (lacks 'f') 0 (operand message) :=
      passes_operand hm (fun _ => rfl) (by decide) (by decide)
    rw [hfind, Written.findKeywordFrom_eq_nil [] rfl hpasses.admits]
  rw [raisedText, trim_drop_raising, hfrom]
  rfl

/-- The error has the name as its kind, unless the name is bound to an exception. -/
theorem executeRaise_raising (e : Engine) (scope : Nat) {m : Machine}
    (hfree : ∀ id kind text, (m.store.scope scope).get? (name x) ≠ some (.exception id kind text)) :
    executeRaise e.next scope (raising x message) m =
      .error (.failed { kind := name x, message := String.ofList message }) m := by
  have hbare : (trim ((raising x message).drop 5)).isEmpty = false := by
    obtain ⟨c, more, hx, -⟩ := x.exists_head
    rw [trim_drop_raising, hx]
    rfl
  have hholds : holdsException scope (name x) m = .ok false m := by
    have hlookup : Run.lookup? scope (name x) m =
        .ok ((m.store.scope scope).get? (name x)) m := rfl
    rw [holdsException, Run.bind_eq, hlookup]
    cases hbound : (m.store.scope scope).get? (name x) with
    | none => rfl
    | some v =>
      cases v with
      | exception id kind text => exact absurd hbound (hfree id kind text)
      | _ => rfl
  have hkind : raiseKind e.next scope (name x) (marked '"' message) =
      Run.fail { kind := name x, message := String.ofList message } := by
    have hne : (marked '"' message).isEmpty = false := rfl
    rw [raiseKind, hne, hm.literalBody.arguments_marked (by decide) hm.stringValue_marked]
    rfl
  have hname : String.ofList x.text = name x := rfl
  rw [executeRaise]
  simp only [hbare, Bool.false_eq_true, if_false, raisedText_raising x hm, raisedCall?_operand, hname]
  rw [Run.bind_eq, hholds]
  simp only [Bool.false_eq_true, if_false, Option.getD_some, hkind]
  rfl

theorem executeLine_raising (e : Engine) (scope indent number : Nat) (rest : List Line) {m : Machine}
    (hstart : (m.charged ⟨raising x message, indent, number⟩).refusal? = none)
    (hfree : ∀ id kind text, (m.store.scope scope).get? (name x) ≠ some (.exception id kind text)) :
    executeLine e.next scope ⟨raising x message, indent, number⟩ rest m =
      .error (.failed (failure x message number)) (m.charged ⟨raising x message, indent, number⟩) := by
  have hraise := executeRaise_raising x hm e scope
    (m := m.charged ⟨raising x message, indent, number⟩) hfree
  rw [executeLine_eq, hstart, classify_raising]
  unfold executeKind
  dsimp only
  rw [Run.bind_eq, hraise]
  rfl

end Raise

/-! ## Catching -/

/-- The word before a name for the error is found behind a text without spaces. -/
theorem findFrom_as {w : List Char} (hw : ' ' ∉ w) (i : Nat) :
    findFrom " as ".toList i (w ++ " as e".toList) = some (i + w.length) := by
  induction w generalizing i with
  | nil => rfl
  | cons c w ih =>
    rw [List.mem_cons, not_or] at hw
    have hc : (" as ".toList).isPrefixOf (c :: (w ++ " as e".toList)) = false := by
      simp [List.isPrefixOf, hw.1]
    rw [List.cons_append, findFrom, hc, if_neg Bool.false_ne_true, ih hw.2, List.length_cons]
    congr 1
    omega

section Catch

variable (x : Identifier)

theorem splitAlias_naming : splitAlias (naming x) = (x.text, ['e']) := by
  have hspace : ' ' ∉ x.text := fun hc => absurd (isWord_text x hc) (by decide)
  have hdrop : (x.text ++ " as e".toList).drop (x.text.length + " as ".toList.length) = ['e'] := by
    rw [← List.drop_drop, List.drop_left]
    rfl
  rw [naming, splitAlias, cutAround?, find?, findFrom_as hspace, Nat.zero_add, Option.map_some,
    List.take_left, hdrop]

/-- A clause with a name catches the errors of this kind. -/
theorem catches_own : catches (naming x) (name x) = true := by
  have htrimBy : trimBy (fun c => c == '(' || c == ')') x.text = x.text := by
    refine trimBy_eq_self fun c hc => ?_
    have hword := isWord_text x hc
    simp [ne_of_isWord hword (d := '(') (by decide), ne_of_isWord hword (d := ')') (by decide)]
  have hcut : cutAt ',' x.text = [x.text] := by
    have hcomma : ',' ∉ x.text := fun hc => absurd (isWord_text x hc) (by decide)
    have hlines : cutAt ',' ([','].intercalate [x.text]) = [x.text] :=
      cutAt_intercalate (List.cons_ne_nil _ _) (List.forall_mem_singleton.2 hcomma)
    rwa [List.intercalate_singleton] at hlines
  have htrim : trim x.text = x.text := trim_of_isName x.isName_text
  have hname : (String.ofList x.text == name x) = true := beq_self_eq_true _
  rw [catches, splitAlias_naming]
  simp only [htrim, htrimBy, hcut, List.any_cons, hname, Bool.or_true, Bool.true_or]

end Catch

/-! ## Printing what was caught -/

def nameE : Identifier := ⟨['e'], by decide, by decide⟩

theorem executePrint_printing (e : Engine) (scope : Nat) {m : Machine} {id : Nat}
    {kind text : String}
    (hbound : (m.store.scope scope).get? "e" = some (.exception id kind text)) :
    executePrint e.next scope printing m = Run.write (text ++ "\n") m := by
  have hargs : Expression.arguments e.next scope ['e'] =
      e.next.eval scope ['e'] >>= fun v => pure ([v], []) := rfl
  have hvalue : e.next.eval scope ['e'] m = .ok (.exception id kind text) m := by
    have hname : e.next.eval scope ['e'] = nameE.denote scope := Tree.evaluate_identifier e scope nameE
    have hlookup : Run.lookup? scope (String.ofList nameE.text) m =
        .ok (some (.exception id kind text)) m := by
      rw [← hbound]
      rfl
    rw [hname, Identifier.denote, Run.bind_eq, hlookup]
    rfl
  have hinner : (printing.drop 6).dropLast = ['e'] := rfl
  have hprint : Expression.print [.exception id kind text] [] m = Run.write (text ++ "\n") m :=
    rfl
  rw [executePrint, hinner, hargs, bind_assoc, Run.bind_eq, hvalue]
  exact hprint

/-! ## Running the program -/

theorem catching_clause (m : Machine) (scope : Nat) (x : Identifier) (f : Failure) :
    catching m scope (naming x) f =
      { m with
        store := { m.store with
          exceptions := m.store.exceptions + 1
          scopes := m.store.scopes.modify scope fun names =>
            names.set "e" (.exception m.store.exceptions f.kind f.message) }
        handling := f :: m.handling } := by
  rw [catching, splitAlias_naming]
  rfl

theorem get?_catching {m : Machine} {scope : Nat} {names : Scope}
    (hscope : m.store.scopes[scope]? = some names) (x : Identifier) (f : Failure) :
    ((catching m scope (naming x) f).store.scope scope).get? "e" =
      some (.exception m.store.exceptions f.kind f.message) := by
  rw [catching_clause, Store.scope]
  simp only [Array.getElem?_modify, hscope, if_true, Option.map_some, Option.getD_some]
  exact Scope.get?_set names "e" _

def raisedOn (x : Identifier) (message : List Char) (m : Machine) : Machine :=
  (m.charged openingLine).charged (raisingLine x message)

/-- The machine after the error was caught and its message was printed. -/
def caughtOn (x : Identifier) (message : List Char) (scope : Nat) (m : Machine) : Machine :=
  let caught := catching (raisedOn x message m) scope (naming x) (failure x message 2)
  released ((caught.charged printingLine).printed (String.ofList message ++ "\n"))

section Run

/-- A machine under the usual limits that executes so many more statements in time. -/
structure Allows (m : Machine) (statements : Nat) : Prop where
  limits : m.limits = {}
  steps : m.steps + statements ≤ 100000
  inTime : ∀ n ≤ m.steps + statements, ¬m.host.clock.Expired m.limits.maxTime n

theorem Allows.charged {m : Machine} {statements : Nat} (h : Allows m (statements + 1)) (l : Line) :
    Allows (m.charged l) statements ∧ (m.charged l).refusal? = none := by
  have hsteps : (m.charged l).steps + statements = m.steps + (statements + 1) := by
    change m.steps + 1 + statements = _
    omega
  have hallows : Allows (m.charged l) statements :=
    ⟨h.limits, hsteps ▸ h.steps, fun n hn => h.inTime n (hsteps ▸ hn)⟩
  exact ⟨hallows, Machine.refusal?_eq_none h.limits (hallows.inTime _ (Nat.le_add_right _ _))
    (Nat.le_of_add_right_le hallows.steps)⟩

variable (x : Identifier) {message : List Char} (hm : IsMessage message) {scope : Nat}
  {m : Machine}

/-- The clause prints the message of the failure that it caught. -/
theorem executeBlock_printing {rest : Nat} (h : Allows m (rest + 1)) (e : Engine) {names : Scope}
    (hscope : m.store.scopes[scope]? = some names) (f : Failure)
    (hwritten : m.written + f.message.length < 20000) :
    executeBlock e.next scope [printingLine] (catching m scope (naming x) f) =
      .ok .normal (((catching m scope (naming x) f).charged printingLine).printed
        (f.message ++ "\n")) := by
  have hbound := get?_catching hscope x f
  have hsame : Allows (catching m scope (naming x) f) (rest + 1) ∧
      (catching m scope (naming x) f).written = m.written := by
    rw [catching_clause]
    exact ⟨⟨h.limits, h.steps, h.inTime⟩, rfl⟩
  generalize catching m scope (naming x) f = caught at hbound hsame ⊢
  obtain ⟨hcaught, hcaughtWritten⟩ := hsame
  have hstart := (hcaught.charged printingLine).2
  have hprint := executePrint_printing e scope (m := caught.charged printingLine) hbound
  have hfits : ¬ (((caught.charged printingLine).counted (f.message ++ "\n")).written : Int) >
      (caught.charged printingLine).limits.maxOutputChars := by
    have hcounted : ((caught.charged printingLine).counted (f.message ++ "\n")).written =
        caught.written + (f.message ++ "\n").length := rfl
    have hlength : (f.message ++ "\n").length = f.message.length + 1 := String.length_append _ _
    have hlimit : (caught.charged printingLine).limits.maxOutputChars = 20000 := by
      have hcharged : (caught.charged printingLine).limits = caught.limits := rfl
      rw [hcharged, hcaught.limits]
    omega
  have hkind : classify printing = .printing := by decide
  rw [Run.write_eq, if_neg hfits] at hprint
  have hline : executeLine e.next scope printingLine [] caught =
      .ok (0, .normal) ((caught.charged printingLine).printed (f.message ++ "\n")) := by
    have htext : printingLine.text = printing := rfl
    rw [executeLine_eq, hstart, htext, hkind]
    unfold executeKind
    dsimp only
    rw [htext, Run.bind_eq, hprint]
    rfl
  rw [executeBlock_singleton, hline]

variable {rest : Nat} (h : Allows m (rest + 3))
include hm h

theorem block_raising (e : Engine) (hscope : m.store.scopes[scope]? = some []) :
    e.next.next.block scope [raisingLine x message] (m.charged openingLine) =
      .error (.failed (failure x message 2)) (raisedOn x message m) := by
  have hfree (id : Nat) (kind text : String) :
      ((m.charged openingLine).store.scope scope).get? (name x) ≠
        some (.exception id kind text) := by
    have hnames : (m.charged openingLine).store.scope scope = [] := by
      have hstore : (m.charged openingLine).store = m.store := rfl
      rw [hstore, Store.scope, hscope]
      rfl
    rw [hnames]
    simp [Scope.get?]
  have hstart : (raisedOn x message m).refusal? = none :=
    ((h.charged openingLine).1.charged (raisingLine x message)).2
  have hline := executeLine_raising x hm e scope 4 2 [] hstart hfree
  rw [Engine.next_block, executeBlock_singleton]
  unfold raisingLine
  rw [hline]
  rfl

/-- How the body with its clause ends depends only on the kind that is raised. -/
theorem guarded_compound (e : Engine) (hscope : m.store.scopes[scope]? = some [])
    (hwritten : m.written + message.length < 20000) :
    guarded e.next.next scope (guardedCompound x message) (m.charged openingLine) =
      if isFatal (failure x message 2) then
        .error (.failed (failure x message 2)) (raisedOn x message m)
      else .ok .normal (caughtOn x message scope m) := by
  have hbody := block_raising x hm h e hscope
  have hhandlers : (guardedCompound x message).handlers = (guardedCompound x message).clauses := rfl
  have hhandler : handlerOf? (guardedCompound x message).clauses (failure x message 2) =
      some ⟨"except", naming x, [printingLine]⟩ := by
    have hcatches : catches (naming x) (failure x message 2).kind = true :=
      catches_own x
    have hfind : (guardedCompound x message).clauses.find?
        (fun h => catches h.head (failure x message 2).kind) =
          some ⟨"except", naming x, [printingLine]⟩ := List.find?_cons_of_pos hcatches
    rw [handlerOf?, hfind]
    rfl
  have hprint := executeBlock_printing x (m := raisedOn x message m)
    ((h.charged openingLine).1.charged (raisingLine x message)).1 e hscope (failure x message 2)
    (by rwa [failure, String.length_ofList])
  rw [guarded_eq, Run.rescue]
  have hlines : (guardedCompound x message).lines = [raisingLine x message] := rfl
  rw [hlines, hbody]
  dsimp only
  by_cases hfatal : isFatal (failure x message 2) = true
  · rw [if_pos hfatal]
    simp only [hfatal, Bool.or_true, if_true]
    rfl
  · have hany : ((guardedCompound x message).handlers.isEmpty ||
        isFatal (failure x message 2)) = false := by
      rw [Bool.not_eq_true] at hfatal
      rw [hfatal]
      rfl
    rw [if_neg hfatal, hany, if_neg Bool.false_ne_true, hhandlers, handle_eq, hhandler]
    dsimp only
    rw [Run.between, Engine.next_block, hprint]
    rfl

/-- The whole statement takes the four lines of the program. -/
theorem executeLine_opening (e : Engine) (hscope : m.store.scopes[scope]? = some [])
    (hwritten : m.written + message.length < 20000) :
    executeLine e.next.next scope openingLine [raisingLine x message, clauseLine x, printingLine] m =
      if isFatal (failure x message 2) then
        .error (.failed (failure x message 2)) (raisedOn x message m)
      else .ok (3, .normal) (caughtOn x message scope m) := by
  have htry : executeTry e.next.next scope openingLine
      [raisingLine x message, clauseLine x, printingLine] =
        executeGuarded e.next.next scope (guardedCompound x message) >>=
          fun flow => pure (3, flow) := by
    rw [Statement.executeTry_eq, compound_rows]
    rfl
  have hstart : (m.charged openingLine).refusal? = none := (h.charged openingLine).2
  have hkind : classify openingLine.text = .guarded := by decide
  have hguarded := guarded_compound x hm h e hscope hwritten
  rw [executeLine_eq, hstart, hkind]
  unfold executeKind
  dsimp only
  rw [htry, Run.bind_eq, executeGuarded, Run.rescue, hguarded]
  by_cases hfatal : isFatal (failure x message 2) = true
  · rw [if_pos hfatal, if_pos hfatal]
    rfl
  · rw [if_neg hfatal, if_neg hfatal]
    rfl

end Run

theorem outputLines_caughtOn (x : Identifier) {message : List Char} (hm : IsMessage message)
    (scope : Nat) {m : Machine} (hfinished : m.finished = #[]) (hpending : m.pending = "") :
    (caughtOn x message scope m).outputLines = [String.ofList message] := by
  have hline : '\n' ∉ message := fun hc => absurd (hm.isPrintable _ hc) (by decide)
  have hreleased (m : Machine) : (released m).outputLines = m.outputLines := rfl
  rw [caughtOn, hreleased]
  exact Machine.outputLines_printed hfinished hpending hline

theorem run_eq {x : Identifier} {kind message : String} (hkind : kind.toList = x.text)
    (hm : IsMessage message.toList) (hlength : message.length < 20000) {host : Host}
    (hhost : host.Suffices {} 2 3) (inputs : Inputs) :
    run {} inputs (guardedRaise kind message) host =
      if isFatal (failure x message.toList 2) then ⟨[], [], some (failure x message.toList 2)⟩
      else ⟨[message], [], none⟩ := by
  obtain ⟨store, values, scope, hscope, hstore, hrun⟩ := exists_run_eq {} inputs host
  let m : Machine := { limits := {}, store, inputs := values }
  have hfits : m.written + message.toList.length < 20000 := by
    rwa [String.length_toList, Nat.zero_add]
  have hallows : Allows m (0 + 3) := by
    have hclock : m.host.clock = host.clock := congrArg _ hstore
    refine ⟨rfl, (by decide : 0 + 3 ≤ 100000), fun n hn => ?_⟩
    rw [hclock]
    exact hhost.inTime n (hn.trans_eq (Nat.zero_add 3))
  obtain ⟨n, hn⟩ := hhost.exists_engine_eq
  have hline := executeLine_opening x hm hallows (Engine.level n) hscope hfits
  have hblock : executeBlock host.engine scope
      [openingLine, raisingLine x message.toList, clauseLine x, printingLine] =
        executeLine host.engine scope openingLine
          [raisingLine x message.toList, clauseLine x, printingLine] >>= fun p =>
            if p.2.isNormal then executeFrom host.engine scope p.1
              [raisingLine x message.toList, clauseLine x, printingLine]
            else pure p.2 := rfl
  have hengine : (Engine.level n).next.next = host.engine := hn.symm
  rw [hengine] at hline
  rw [hrun, splitLines_guardedRaise hkind hm, numbered_rows x hm, hblock, Run.bind_eq, hline]
  by_cases hfatal : isFatal (failure x message.toList 2) = true
  · rw [if_pos hfatal, if_pos hfatal]
    rfl
  · have hlines := outputLines_caughtOn x hm scope (m := m) rfl rfl
    rw [String.ofList_toList] at hlines
    rw [if_neg hfatal, if_neg hfatal, ← hlines]
    rfl

/-- **An error that a program raises itself is caught by its name.** Whatever the name and the
message are, the program prints the message and succeeds, unless the name is one of the two kinds
with which a run is ended from outside: those are caught by no clause, and the run ends with the
error that was raised. -/
theorem run_guardedRaise {kind message : String} (hname : isName kind.toList = true)
    (hkeyword : kind ∉ reservedWords) (hmessage : IsMessage message.toList)
    (hlength : message.length ≤ 1000) {host : Host} (hhost : host.Suffices {} 2 3)
    (inputs : Inputs) :
    let r := run {} inputs (guardedRaise kind message) host
    (kind ≠ "StepLimitError" ∧ kind ≠ "TimeoutError" →
      r.success = true ∧ r.output = message ∧ r.lines = [message] ∧ r.warnings = []) ∧
    (kind = "StepLimitError" ∨ kind = "TimeoutError" →
      r.success = false ∧ r.lines = [] ∧ ∃ f, r.failure = some f ∧
        f.kind = kind ∧ f.message = message ∧ f.line = some 2) := by
  intro r
  let x : Identifier := ⟨kind.toList, hname, by rwa [String.ofList_toList]⟩
  have hrun : r = _ := run_eq (x := x) rfl hmessage (by omega) hhost inputs
  have hkind : (failure x message.toList 2).kind = kind := String.ofList_toList
  have hfatal : isFatal (failure x message.toList 2) = true ↔
      kind = "StepLimitError" ∨ kind = "TimeoutError" := by
    rw [isFatal, hkind, Bool.or_eq_true, beq_iff_eq, beq_iff_eq]
  constructor
  · rintro ⟨hstep, htime⟩
    have hcaught : ¬isFatal (failure x message.toList 2) = true := by
      rw [hfatal]
      exact not_or.2 ⟨hstep, htime⟩
    rw [hrun, if_neg hcaught]
    exact ⟨rfl, String.intercalate_singleton, rfl, rfl⟩
  · intro hended
    rw [hrun, if_pos (hfatal.2 hended)]
    exact ⟨rfl, rfl, _, rfl, hkind, String.ofList_toList, rfl⟩

theorem run_guardedRaise_custom :
    guardedRaise "Custom" "#1: too late" =
      "try:\n    raise Custom(\"#1: too late\")\nexcept Custom as e:\n    print(e)" ∧
    (run {} (.items []) (guardedRaise "Custom" "#1: too late")).success = true ∧
    (run {} (.items []) (guardedRaise "Custom" "#1: too late")).output = "#1: too late" := by
  have hname : isName "Custom".toList = true := by decide
  have hmessage : IsMessage "#1: too late".toList :=
    ⟨List.all_eq_true.1 (by decide), by simp [isQuote], by decide⟩
  obtain ⟨hcaught, -⟩ := run_guardedRaise hname (by decide) hmessage (by decide)
    (Host.suffices_usual (by decide) 3) (.items [])
  obtain ⟨hsuccess, houtput, -⟩ := hcaught ⟨by decide, by decide⟩
  exact ⟨rfl, hsuccess, houtput⟩

/-- The kind with which a run is ended that takes too long is not caught. -/
theorem run_guardedRaise_timeout :
    isName "TimeoutError".toList = true ∧ "TimeoutError" ∉ reservedWords ∧
    IsMessage "late".toList ∧ "late".length ≤ 1000 ∧
    (run {} (.items []) (guardedRaise "TimeoutError" "late")).success = false ∧
    (run {} (.items []) (guardedRaise "TimeoutError" "late")).output = "" := by
  refine ⟨by decide, by decide, ⟨List.all_eq_true.1 (by decide), by simp [isQuote], by decide⟩,
    by decide, ?_, ?_⟩
  · decide +kernel
  · decide +kernel

end SnippetGrader.Raising
