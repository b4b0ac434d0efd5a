import SnippetGrader.Grading.Verdict
import SnippetGrader.Proofs.Layout.Lines
import SnippetGrader.Proofs.Operation.Enclosed
import SnippetGrader.Proofs.Written.Evaluation

/-!
# Printing a text between quotation marks

The program that prints one text, written between double marks. Whatever the text holds, the marks
hide it: the line has no comment, is not cut, is no assignment and passes one argument. Only its tabs
are not kept, because a source line is read with its tabs expanded, also between quotation marks.
-/

namespace SnippetGrader.Printout

open Text Source Statement Layout
open Operation (enclosed)
open Rendering (isPlain forall_of_all)
open Written (Passes LiteralBody marked)

/-! ## The line -/

/-- A text that stands for itself between double marks. -/
structure IsVerbatim (text : List Char) : Prop where
  mark : '"' ∉ text
  slash : '\\' ∉ text
  newline : '\n' ∉ text

instance (text : List Char) : Decidable (IsVerbatim text) :=
  decidable_of_iff ('"' ∉ text ∧ '\\' ∉ text ∧ '\n' ∉ text)
    ⟨fun ⟨hmark, hslash, hnewline⟩ => ⟨hmark, hslash, hnewline⟩,
      fun ⟨hmark, hslash, hnewline⟩ => ⟨hmark, hslash, hnewline⟩⟩

def call (text : List Char) : List Char := "print".toList ++ enclosed (marked '"' text)

theorem call_enclosed (text : List Char) :
    call text = "print".toList ++ enclosed (marked '"' text) := rfl

theorem call_eq (text : List Char) : call text = "print(\"".toList ++ (text ++ "\")".toList) := by
  have hopen : call text = "print(\"".toList ++ ((text ++ ['"']) ++ [')']) := rfl
  rw [hopen, List.append_assoc text]
  rfl

/-- A text with the tabs expanded from the column on which it stands in the call. -/
def shown (text : List Char) : List Char := expandTabsFrom 4 7 text

theorem shown_eq_self_iff {text : List Char} : shown text = text ↔ '\t' ∉ text := by
  refine ⟨fun h htab => ?_, fun h => expandTabsFrom_eq_self h 7⟩
  rw [← h] at htab
  exact tab_not_mem_expandTabsFrom 7 text htab

theorem matchingClose_drop (text : List Char) (i : Nat) :
    matchingClose text i = (matchingClose (text.drop i) 0).map (i + ·) := by
  rw [matchingClose, matchingClose, List.drop_zero]
  cases text.drop i <;> simp

namespace IsVerbatim

variable {text : List Char} (h : IsVerbatim text)
include h

theorem chars : ∀ c ∈ text, c ≠ '"' ∧ c ≠ '\\' ∧ c ≠ '\n' := fun _ hc =>
  ⟨fun heq => h.mark (heq ▸ hc), fun heq => h.slash (heq ▸ hc), fun heq => h.newline (heq ▸ hc)⟩

theorem literalBody : LiteralBody '"' text := .of_plain h.chars

theorem isVerbatim_shown : IsVerbatim (shown text) := by
  have hmem {c : Char} (hspace : c ≠ ' ') (hc : c ∉ text) : c ∉ shown text := fun hwide =>
    (mem_expandTabsFrom hwide).elim hspace hc
  exact ⟨hmem (by decide) h.mark, hmem (by decide) h.slash, hmem (by decide) h.newline⟩

theorem passes_marked {p : Char → Place → Bool} (hquoted : ∀ c, p c .quoted = true) :
    Passes p 1 (marked '"' text) :=
  .marked hquoted (by decide) h.literalBody

/-- The reader meets no code but the name and the parentheses. -/
theorem passes_call {p : Char → Place → Bool} (hquoted : ∀ c, p c .quoted = true)
    (hp : ∀ c ∈ "print()".toList, p c (.code 0) = true) : Passes p 0 (call text) := by
  have hword : ∀ c ∈ "print".toList, isPlain c = true ∧ c ∈ "print()".toList :=
    forall_of_all (by decide)
  have hname : Passes p 0 "print".toList := .plain fun c hc =>
    ⟨(hword c hc).1, hp c (hword c hc).2⟩
  have hgroup : Passes p 0 (enclosed (marked '"' text)) :=
    (h.passes_marked hquoted).bracket .round (hp '(' (by decide)) (hp ')' (by decide))
  refine hname.append hgroup ?_
  rintro c ⟨⟩
  decide

theorem passes_hidden : Passes Operation.hidden 1 (marked '"' text) :=
  h.passes_marked fun _ => rfl

/-- No symbol of the text is seen, so the call is no assignment. -/
theorem tokens_call : tokens (call text) = [] := by
  have hword : ∀ c ∈ "print".toList, isPlain c = true ∧ Symbol.isSymbolChar c = false :=
    forall_of_all (by decide)
  rw [tokens, call_enclosed, Rendering.tokensFrom_plain hword]
  exact Operation.tokensFrom_enclosed h.passes_hidden _

theorem matchingClose_call : matchingClose (call text) 5 = some ((call text).length - 1) := by
  have hlength : (call text).length - 1 = 5 + ((marked '"' text).length + 1) := by
    simp [call_enclosed, enclosed]
    omega
  have hdrop : (call text).drop 5 = enclosed (marked '"' text) := rfl
  rw [matchingClose_drop, hdrop, Operation.matchingClose_enclosed h.passes_hidden, hlength,
    Option.map_some]

/-- The line is a call of `print`, whatever the text holds. -/
theorem classify_call : classify (call text) = .printing := by
  have hfirst : firstName (call text) = "print" := rfl
  have hassign : assignment? (call text) = none := by
    rw [assignment?, h.tokens_call]
    rfl
  have hprint : isPrintCall (call text) = true := by
    rw [isPrintCall, h.matchingClose_call, beq_self_eq_true]
    rfl
  rw [classify, hfirst, hassign, hprint]
  rfl

theorem isLine_call : IsLine (call text) := by
  -- what is quoted is admitted by both, so only the name and the parentheses are looked at
  have hcomment : Passes noComment 0 (call text) :=
    h.passes_call (fun _ => rfl) (forall_of_all (by decide))
  have hsemicolon : Passes (lacks ';') 0 (call text) :=
    h.passes_call (fun _ => rfl) (forall_of_all (by decide))
  have hend : call text = 'p' :: ("rint(".toList ++ marked '"' text ++ [')']) := rfl
  have hlast : (call text).getLast? = some ')' := by
    rw [hend, ← List.cons_append, List.getLast?_concat]
  refine .of_admits (List.cons_ne_nil _ _) ?_ ?_ ?_ hcomment.after hcomment.admits hsemicolon.admits
  · rw [hend]
    exact trim_eq_self_iff.2 (Written.Content.ends_enclosed (by decide) (by decide) _)
  · have hhead : (call text).head? = some 'p' := rfl
    rw [hhead]
    decide
  · rw [hlast]
    decide

end IsVerbatim

/-- Tabs between the marks are expanded with those of the line. -/
theorem expandTabs_call (text : List Char) : expandTabs 4 (call text) = call (shown text) := by
  have hend (column : Nat) : expandTabsFrom 4 column "\")".toList = "\")".toList :=
    expandTabsFrom_eq_self (by decide) column
  have hstart : expandTabsFrom 4 0 "print(\"".toList = "print(\"".toList ∧
      columnAfter 0 "print(\"".toList = 7 := by decide
  rw [expandTabs, call_eq, expandTabsFrom_append, expandTabsFrom_append, hend, hstart.1, hstart.2,
    call_eq, shown]

/-- The line that is executed. -/
def line (text : List Char) : Line := ⟨call text, 0, 1⟩

namespace IsVerbatim

variable {text : List Char} (h : IsVerbatim text)
include h

theorem splitLines_call : splitLines (call text) = [line (shown text)] := by
  have hstands : Row.Stands ⟨0, call text⟩ := by
    constructor
    · have hwide : expandTabsFrom 4 0 (call text) = call (shown text) := expandTabs_call text
      rw [hwide]
      exact h.isVerbatim_shown.isLine_call
    · simp [call_enclosed, enclosed, marked, h.newline]
  have hlines := splitLines_rows (List.forall_mem_singleton.2 hstands)
  have hrow : Row.line 1 ⟨0, call text⟩ = line (shown text) := by
    have hwide : expandTabsFrom 4 0 (call text) = call (shown text) := expandTabs_call text
    rw [Row.line, hwide]
    rfl
  have hsource : ['\n'].intercalate [Row.source ⟨0, call text⟩] = call text :=
    List.intercalate_singleton
  rw [List.map_singleton, hsource] at hlines
  rw [hlines, numbered, hrow]
  rfl

/-! ## The run -/

theorem executePrint_call (e : Engine) (scope : Nat) :
    executePrint e.next scope (call text) = Run.write (String.ofList text ++ "\n") := by
  have hinner : ((call text).drop 6).dropLast = marked '"' text := by
    have hcall : (call text).drop 6 = marked '"' text ++ [')'] := rfl
    rw [hcall, List.dropLast_concat]
  have hvalue := Written.stringValue_verbatim (by decide) h.chars
  have hprint : Expression.print [.str (String.ofList text)] [] =
      Run.write (String.ofList text ++ "\n") := rfl
  rw [executePrint, hinner, h.literalBody.arguments_marked (by decide) hvalue, pure_bind]
  exact hprint

theorem executeLine_call (e : Engine) (scope : Nat) {m : Machine}
    (hstart : (m.charged (line text)).refusal? = none) :
    executeLine e.next scope (line text) [] m =
      Outcome.onFailure (fun f => f.locate 1 (String.ofList (call text)))
        ((Run.write (String.ofList text ++ "\n") >>= fun _ => pure (0, Flow.normal))
          (m.charged (line text))) := by
  have hkind : classify (line text).text = .printing := h.classify_call
  rw [executeLine_eq, hstart, hkind, ← h.executePrint_call e scope]
  rfl

end IsVerbatim

/-- The program that prints a text. -/
def printout (text : String) : String := "print(\"" ++ text ++ "\")"

theorem toList_printout (text : String) : (printout text).toList = call text.toList := by
  rw [printout, String.toList_append, String.toList_append, List.append_assoc, call_eq]

/-- The failure of a program that prints too long a text. -/
def tooLong (text : List Char) : Failure :=
  { kind := "OutputLimitError"
    message := "Output length limit reached"
    line := some 1
    text := some (String.ofList (call (shown text))) }

section Run

variable {text : String} (h : IsVerbatim text.toList) {limits : Limits}
  (hsteps : 1 ≤ limits.maxSteps)
include h hsteps

theorem run_eq {host : Host} (hhost : host.Suffices limits 1 1) (inputs : Inputs) :
    run limits inputs (printout text) host =
      if ((shown text.toList).length : Int) < limits.maxOutputChars then
        ⟨[String.ofList (shown text.toList)], [], none⟩
      else ⟨[], [], some (tooLong text.toList)⟩ := by
  obtain ⟨store, values, scope, -, hstore, hrun⟩ := exists_run_eq limits inputs host
  let m : Machine := { limits, store, inputs := values }
  have hwide := h.isVerbatim_shown
  generalize hshown : shown text.toList = wide at hwide
  have htime : ¬(m.charged (line wide)).Late := by
    have hclock : (m.charged (line wide)).host.clock = host.clock := congrArg _ hstore
    rw [Machine.Late, hclock]
    exact hhost.inTime 1 (Nat.le_refl 1)
  have hcharged : (m.charged (line wide)).refusal? = none :=
    Machine.refusal?_eq_none_of_le hsteps htime
  obtain ⟨n, hn⟩ := hhost.exists_engine_eq
  have hline := hwide.executeLine_call (Engine.level n) scope hcharged
  have hengine : (Engine.level n).next = host.engine := hn.symm
  -- the line end is written with the text and counts as well
  have hcounted : (((m.charged (line wide)).counted (String.ofList wide ++ "\n")).written : Int) =
      wide.length + 1 := by
    have hlength : (String.ofList wide ++ "\n").length = wide.length + 1 := by
      rw [String.length_append, String.length_ofList]
      rfl
    have hwritten : ((m.charged (line wide)).counted (String.ofList wide ++ "\n")).written =
        0 + (String.ofList wide ++ "\n").length := rfl
    rw [hwritten, hlength, Nat.zero_add, Int.natCast_succ]
  rw [hrun, toList_printout, h.splitLines_call, hshown, executeBlock_singleton, ← hengine, hline,
    Run.bind_eq, Run.write_eq, hcounted]
  have hlimit : (m.charged (line wide)).limits = limits := rfl
  rw [hlimit]
  by_cases hfits : (wide.length : Int) < limits.maxOutputChars
  · have hprinted : ¬(wide.length : Int) + 1 > limits.maxOutputChars := by omega
    have hlines := Machine.outputLines_printed (m := m.charged (line wide)) rfl rfl hwide.newline
    rw [if_neg hprinted, if_pos hfits, ← hlines]
    rfl
  · have hrefused : (wide.length : Int) + 1 > limits.maxOutputChars := by omega
    rw [if_pos hrefused, if_neg hfits, tooLong, hshown]
    rfl

/-- **A program that prints one text outputs the text with its tabs expanded.** The text may hold any
characters but a double mark, a backslash and a line feed. Whether the program succeeds depends only
on the length of what is shown, and where it does the output is the text itself if and only if the
text has no tab. A challenge is met as far as what is shown matches the expected answer. -/
theorem run_printout {host : Host} (hhost : host.Suffices limits 1 1) (inputs : Inputs) :
    let r := run limits inputs (printout text) host
    (((shown text.toList).length : Int) < limits.maxOutputChars →
      r.success = true ∧ r.output.toList = shown text.toList ∧ r.warnings = [] ∧
      (r.output = text ↔ '\t' ∉ text.toList) ∧
      ∀ (c : Grading.Challenge) (hosts : Grading.Hosts) (expected : String),
        c.expected = some expected → (hosts 0).Suffices limits 1 1 →
          (Grading.evaluate limits (printout text) c hosts).success =
            Grading.outputMatches (shown text.toList) expected.toList) ∧
    (limits.maxOutputChars ≤ ((shown text.toList).length : Int) →
      r.success = false ∧ r.output = "" ∧ r.failure = some (tooLong text.toList) ∧
      ∀ (c : Grading.Challenge) (hosts : Grading.Hosts),
        c.hasCases = false → (hosts 0).Suffices limits 1 1 →
          (Grading.evaluate limits (printout text) c hosts).success = false) := by
  intro r
  have hrun : r = _ := run_eq h hsteps hhost inputs
  constructor
  · intro hfits
    rw [if_pos hfits] at hrun
    have houtput : Report.output ⟨[String.ofList (shown text.toList)], [], none⟩ =
        String.ofList (shown text.toList) := String.intercalate_singleton
    rw [hrun]
    refine ⟨rfl, by rw [houtput, String.toList_ofList], rfl, ?_,
      fun c hosts expected hexpected hserved => ?_⟩
    · rw [houtput, ← shown_eq_self_iff, ← String.toList_inj, String.toList_ofList]
    · have hgraded : run limits (.items []) (printout text) (hosts 0) = _ :=
        run_eq h hsteps hserved (.items [])
      rw [if_pos hfits] at hgraded
      have hcases : c.hasCases = false := by
        rw [Grading.Challenge.hasCases, hexpected]
        rfl
      have hjudged (report : Report) : (Grading.judgeOnce (some expected) report).success =
          (report.success && Grading.outputMatches report.output.toList expected.toList) := rfl
      rw [Grading.evaluate, hcases, if_neg Bool.false_ne_true, hexpected, hjudged, hgraded, houtput,
        String.toList_ofList]
      rfl
  · intro hlong
    rw [if_neg (Int.not_lt.2 hlong)] at hrun
    refine ⟨by rw [hrun]; rfl, by rw [hrun]; rfl, by rw [hrun], fun c hosts hcases hserved => ?_⟩
    have hgraded : run limits (.items []) (printout text) (hosts 0) = _ :=
      run_eq h hsteps hserved (.items [])
    rw [if_neg (Int.not_lt.2 hlong)] at hgraded
    rw [Grading.evaluate, hcases, hgraded]
    rfl

end Run

/-- What would be a comment, a separator or a keyword outside of the marks is printed. -/
theorem run_printout_symbols :
    (run {} (.items []) (printout "# it's [x for x in y]; if a: b, c")).output =
      "# it's [x for x in y]; if a: b, c" ∧
    (Grading.evaluate {} (printout "# it's [x for x in y]; if a: b, c")
      { expected := some " # it's  [x for x in y]; if a: b, c\n" }).success = true := by
  have hverbatim : IsVerbatim "# it's [x for x in y]; if a: b, c".toList := by decide
  have hsteps : 1 ≤ ({} : Limits).maxSteps := by decide
  have hhost : Host.Suffices {} {} 1 1 := Host.suffices_usual (by decide) 1
  obtain ⟨hfits, -⟩ := run_printout hverbatim hsteps hhost (.items [])
  obtain ⟨-, -, -, hsame, hgrade⟩ := hfits (by decide)
  refine ⟨hsame.2 (by decide), ?_⟩
  rw [hgrade { expected := some " # it's  [x for x in y]; if a: b, c\n" } (fun _ => {}) _ rfl hhost]
  decide

/-- A tab between the marks is printed as spaces. -/
theorem run_printout_tab :
    IsVerbatim "a\tb".toList ∧ (("a\tb".length : Nat) : Int) < ({} : Limits).maxOutputChars ∧
      (run {} (.items []) (printout "a\tb")).output = "a    b" ∧ "a    b" ≠ "a\tb" := by
  refine ⟨by decide, by decide, ?_, by decide⟩
  decide +kernel

end SnippetGrader.Printout
