import SnippetGrader.Proofs.Indentation.Execution
import SnippetGrader.Proofs.Layout.Pieces

/-!
# Bodies on the line of their header

The body of a header stands behind its colon, where semicolons put the statements apart, or in the
block below, one statement on a line. Both are read as the same statements under the same header,
and the clauses that follow are the same, so both are executed alike, whatever statements the body
has and whatever lines come after it. What differs are the numbers of lines and their indentation, which
functions and failures keep, and the text of the line that the header stands on.
-/

namespace SnippetGrader

/-! ## Outcomes without places -/

/-- A line without its place. -/
def Source.Line.placeless (l : Source.Line) : Source.Line := { l with indent := 0, number := 0 }

/-- A failure without the number of its line. The text of the line is changed. -/
def Failure.placeless (g : String → String) (f : Failure) : Failure :=
  { f with line := f.line.map fun _ => 0, text := f.text.map g }

/-- A machine that remembers no places. -/
def Machine.placeless (g : String → String) (m : Machine) : Machine :=
  { m with
    lineNumber := 0
    handling := m.handling.map (·.placeless g)
    store := { m.store with
      functions := m.store.functions.map fun f => { f with body := f.body.map (·.placeless) } } }

/-- An outcome in which nothing says where it came about. -/
def Outcome.placeless {α : Type} (g : String → String) (r : Outcome α) : Outcome α :=
  (r.onFailure (·.placeless g)).onMachine (·.placeless g)

namespace Indentation

open Text Source Statement Layout

section Placeless

variable {view : View} {g : String → String} (hg : ∀ t t', view.texts t t' → g t = g t')

omit hg in
theorem FunctionAlike.placeless_eq {f f' : Function} (h : FunctionAlike view.placed f f') :
    { f with body := f.body.map Line.placeless } =
      { f' with body := f'.body.map Line.placeless } := by
  obtain ⟨ps, hps, hfst, hsnd⟩ := h.body
  have hbody : f.body.map Line.placeless = f'.body.map Line.placeless := by
    rw [← hfst, ← hsnd, List.map_map, List.map_map]
    refine List.map_congr_left fun p hp => ?_
    have htext := hps.text p hp
    simp only [Function.comp_apply, Line.placeless, htext]
  have hrest := congrArg (fun q : Function => { q with body := f.body.map Line.placeless }) h.rest
  calc { f with body := f.body.map Line.placeless }
      = { f' with body := f.body.map Line.placeless } := hrest
    _ = { f' with body := f'.body.map Line.placeless } := by rw [hbody]

include hg

theorem FailureAlike.placeless_eq {f f' : Failure} (h : FailureAlike view f f') :
    f.placeless g = f'.placeless g := by
  have hline : (f.line.map fun _ => 0) = f'.line.map fun _ => 0 := by
    have hlocated := h.located
    cases hf : f.line <;> cases hf' : f'.line <;> rw [hf, hf'] at hlocated <;>
      first | exact rfl | cases hlocated
  have htext : f.text.map g = f'.text.map g := by
    have hrel := h.text
    generalize f.text = t at hrel ⊢
    generalize f'.text = t' at hrel ⊢
    cases hrel with
    | none => exact rfl
    | some h =>
      obtain rfl | h := h
      · exact rfl
      · exact congrArg some (hg _ _ h)
  rw [Failure.placeless, Failure.placeless, h.kind, h.message, hline, htext]

theorem MachineAlike.placeless_eq {m m' : Machine} (h : MachineAlike view m m') :
    m.placeless g = m'.placeless g := by
  have hhandling : m.handling.map (·.placeless g) = m'.handling.map (·.placeless g) :=
    List.forall₂_eq_eq_eq ▸ List.forall₂_map_left_iff.2 (List.forall₂_map_right_iff.2
      (h.handling.imp fun f f' hf => hf.placeless_eq hg))
  have hfunctions :
      (m.store.functions.map fun f => { f with body := f.body.map Line.placeless }) =
        m'.store.functions.map fun f => { f with body := f.body.map Line.placeless } := by
    rw [← Array.toList_inj, Array.toList_map, Array.toList_map]
    exact List.forall₂_eq_eq_eq ▸ List.forall₂_map_left_iff.2 (List.forall₂_map_right_iff.2
      (h.functions.imp fun f f' hf => hf.placeless_eq))
  have hbare (m : Machine) : m.placeless g =
      { m.bare with
        handling := m.handling.map (·.placeless g)
        store := { m.bare.store with
          functions := m.store.functions.map fun f =>
            { f with body := f.body.map Line.placeless } } } := rfl
  rw [hbare, hbare, h.rest, hhandling, hfunctions]

theorem OutcomeAlike.placeless_eq {α : Type} {r r' : Outcome α} (h : OutcomeAlike view r r') :
    r.placeless g = r'.placeless g := by
  cases h with
  | ok a h => exact congrArg (EStateM.Result.ok a) (h.placeless_eq hg)
  | error hstop h =>
    cases hstop with
    | failed hf =>
      have hmachine := h.placeless_eq hg
      have hfailure := hf.placeless_eq hg
      simp only [Outcome.placeless, Outcome.onFailure, Outcome.onMachine, hmachine, hfailure]
    | exhausted n => exact congrArg (EStateM.Result.error _) (h.placeless_eq hg)

end Placeless

/-! ## Reading both forms -/

/-- A statement that may share its line. -/
structure IsShared (text : List Char) : Prop where
  nonempty : text ≠ []
  trimmed : trim text = text
  closed : Reader.after {} text = {}
  semicolon : Reader.admits (lacks ';') {} text = true

/-- The header of a statement that executes its body at once, up to its colon. -/
structure IsFlowHead (w : Word) (head : List Char) : Prop where
  word : w ∈ flowWords
  name : firstName head = w.text
  closed : Reader.after {} head = {}
  colon : Reader.admits (lacks ':') {} head = true

/-- Statements on one line. -/
def shared (ss : List (List Char)) : List Char := [';', ' '].intercalate ss

section Shared

variable {ss : List (List Char)} (h : ∀ s ∈ ss, IsShared s)
include h

theorem isPiece_shared : ∀ s ∈ ss, IsPiece ';' s := fun s hs =>
  ⟨(h s hs).closed, (h s hs).semicolon, (h s hs).trimmed, (h s hs).nonempty⟩

theorem trim_shared : trim (shared ss) = shared ss := trim_joinBy (isPiece_shared h)

theorem shared_ne_nil (hne : ss ≠ []) : shared ss ≠ [] := by
  obtain ⟨s, ss, rfl⟩ := List.exists_cons_of_ne_nil hne
  exact joinBy_ne_nil (h s List.mem_cons_self).nonempty ss

/-- Semicolons put the statements of a line apart again. -/
theorem cutTopLevel_shared : cutTopLevel ';' (shared ss) = ss :=
  cutTopLevel_joinBy (isPiece_shared h) (by decide) (by decide)

theorem body_shared (hne : ss ≠ []) (l : Line) (rest : List Line) :
    body l (shared ss) rest = ⟨ss.map (⟨·, l.indent + 1, l.number⟩), 0⟩ := by
  have hinline : (shared ss).isEmpty = false :=
    List.isEmpty_eq_false_iff.2 (shared_ne_nil h hne)
  have hparts : (ss.filter fun part => !part.isEmpty) = ss :=
    List.filter_eq_self.2 fun s hs => by simp [(h s hs).nonempty]
  simp only [body, hinline, Bool.false_eq_true, if_false, cutTopLevel_shared h, hparts]

end Shared

theorem body_below {i j : Nat} (hij : i < j) {lines rest : List Line} (hne : lines ≠ [])
    (hlines : ∀ l ∈ lines, l.indent = j) (hrest : ∀ l ∈ rest.head?, l.indent ≤ i)
    (text : List Char) (number : Nat) :
    body ⟨text, i, number⟩ [] (lines ++ rest) = ⟨lines, lines.length⟩ := by
  obtain ⟨first, more, rfl⟩ := List.exists_cons_of_ne_nil hne
  have hfirst : first.indent = j := hlines first List.mem_cons_self
  have hblock : ((first :: more) ++ rest).takeWhile (fun l => first.indent ≤ l.indent) =
      first :: more := by
    rw [List.takeWhile_append_of_pos fun l hl => by simp [hfirst, hlines l hl]]
    cases rest with
    | nil => simp
    | cons l rest =>
      have hl := hrest l rfl
      rw [List.takeWhile_cons_of_neg (by simp; omega), List.append_nil]
  have hlength : blockLength i ((first :: more) ++ rest) = (first :: more).length := by
    rw [List.cons_append] at hblock ⊢
    rw [blockLength, if_neg (by omega), hblock]
  simp only [body, List.isEmpty_nil, if_true, hlength, List.take_left]

section Header

variable {w : Word} {head : List Char} (h : IsFlowHead w head)
include h

theorem IsFlowHead.headerColon? (tail : List Char) (htail : ∀ c ∈ tail.head?, c = ' ') :
    headerColon? (head ++ ':' :: tail) = some head.length := by
  have hfind := find?_colon_append (b := ':' :: tail) (by simp) (Reader.fits_code 0 head) h.colon 0
    (Nat.zero_le _)
  have hsymbol : Symbol.at? (':' :: tail) = some .colon := by
    cases tail with
    | nil => exact rfl
    | cons c tail =>
      rw [htail c rfl]
      exact rfl
  have hcolon : tokensFrom {} head.length 0 (':' :: tail) =
      ⟨head.length, .colon⟩ :: tokensFrom {} (head.length + 1) 0 tail := by
    have hstep : Reader.step {} ':' tail = ({}, .code 0) := rfl
    simp only [tokensFrom, hstep, hsymbol, Nat.lt_irrefl, gt_iff_lt, if_false, beq_self_eq_true,
      if_true]
    exact rfl
  rw [Source.headerColon?, tokens, hfind, h.closed, Nat.zero_add, hcolon]
  exact rfl

theorem IsFlowHead.header_eq (tail : List Char) (htail : ∀ c ∈ tail.head?, c = ' ')
    (i number : Nat) :
    header w.text ⟨head ++ ':' :: tail, i, number⟩ =
      .ok ⟨trim (head.drop w.text.length), trim tail⟩ := by
  have hdrop : (head ++ ':' :: tail).drop (head.length + 1) = tail := by
    rw [← List.drop_drop, List.drop_left]
    exact rfl
  simp only [header, h.headerColon? tail htail, List.take_left, hdrop]

theorem IsFlowHead.firstName_line (tail : List Char) :
    firstName (head ++ ':' :: tail) = w.text := by
  have hname := h.name
  have hwords : (head ++ ':' :: tail).takeWhile isWord = head.takeWhile isWord := by
    have hstop : (':' :: tail).takeWhile isWord = [] := List.takeWhile_cons_of_neg (by decide)
    rw [List.takeWhile_append, hstop, List.append_nil]
    split
    · next hall => exact ((List.takeWhile_prefix isWord).eq_of_length hall).symm
    · exact rfl
  cases head with
  | nil =>
    refine absurd hname ?_
    cases w <;> decide
  | cons c head =>
    rw [firstName_eq] at hname ⊢
    rw [hwords]
    exact hname

theorem IsFlowHead.classify_eq (tail : List Char) : classify (head ++ ':' :: tail) = w.kind := by
  have hname := h.firstName_line tail
  unfold classify
  dsimp only
  rw [hname]
  cases w with
  | conditional | whileLoop | forLoop | within => exact rfl
  | _ => exact absurd h.word (by decide)

end Header

/-! ## Executing both forms -/

/-- The lines of a block are passed over. -/
theorem executeFrom_later (e : Engine) (scope used : Nat) (lines rest : List Line) :
    executeFrom e scope (used + lines.length) (lines ++ rest) = executeFrom e scope used rest := by
  induction lines with
  | nil => exact rfl
  | cons l lines ih =>
    rw [List.length_cons, List.cons_append, executeFrom, if_pos (by omega)]
    exact ih

section Forms

variable {w : Word} {head : List Char} (hhead : IsFlowHead w head) {ss : List (List Char)}
  (hne : ss ≠ []) (hss : ∀ s ∈ ss, IsShared s) {i j : Nat} (hij : i < j) (number number' : Nat)
  {lines rest : List Line} (htext : lines.map Line.text = ss) (hlines : ∀ l ∈ lines, l.indent = j)
  (hrest : ∀ l ∈ rest.head?, l.indent ≤ i)

/-- What failures may name instead of one another: the line of the header in both forms. -/
def forms (head : List Char) (ss : List (List Char)) : View where
  placed := False
  texts t t' :=
    t = String.ofList (head ++ ':' :: ' ' :: shared ss) ∧ t' = String.ofList (head ++ [':'])

include hhead hne hss hij htext hlines hrest

/-- The same header, body and clauses are found, behind the lines of the body in the second form. -/
theorem compound_forms (words last : List String) :
    Both (fun c c' => CompoundAlike False c c' ∧ c.used + lines.length = c'.used)
      (compound w.text words last ⟨head ++ ':' :: ' ' :: shared ss, i, number⟩ rest)
      (compound w.text words last ⟨head ++ [':'], i, number'⟩ (lines ++ rest)) := by
  have hshared : trim (' ' :: shared ss) = shared ss :=
    (trim_append_left Rendering.isBlank_space (shared ss)).trans (trim_shared hss)
  have hheader := hhead.header_eq (' ' :: shared ss) (by rintro c ⟨⟩; exact rfl) i number
  have hheader' : header w.text ⟨head ++ [':'], i, number'⟩ =
      .ok ⟨trim (head.drop w.text.length), []⟩ := hhead.header_eq [] (by simp) i number'
  have hbody := body_shared hss hne ⟨head ++ ':' :: ' ' :: shared ss, i, number⟩ rest
  have hlinesne : lines ≠ [] := by
    rintro rfl
    exact hne htext.symm
  have hbody' := body_below hij hlinesne hlines hrest (head ++ [':']) number'
  have hsame : SameOrder False (ss.map fun s => ⟨s, i + 1, number⟩) lines := by
    refine sameOrder_flat (i := i + 1) (j := j) ?_ ?_ hlines False.elim
    · rw [List.map_map, htext]
      exact List.map_id ss
    · intro l hl
      obtain ⟨s, -, rfl⟩ := List.mem_map.1 hl
      exact rfl
  rw [hshared] at hheader
  simp only [compound, hheader, hheader', bind, Except.bind, hbody, hbody', clausesFrom_skip]
  cases clausesFrom i words last 0 rest with
  | error f => exact .error f
  | ok r =>
    refine .ok ⟨⟨rfl, hsame, clausesAlike_refl r.1⟩, ?_⟩
    dsimp only
    omega

variable {e : Engine} (he : Even (forms head ss) e) (scope : Nat)
include he

/-- Both forms do the same. The second one takes the lines of its body, too. -/
theorem executeLine_forms :
    Twins (forms head ss)
      (later lines.length <$>
        executeLine e scope ⟨head ++ ':' :: ' ' :: shared ss, i, number⟩ rest)
      (executeLine e scope ⟨head ++ [':'], i, number'⟩ (lines ++ rest)) := by
  have hcompound := compound_forms hhead hne hss hij number number' htext hlines hrest
    (w.followers.map Word.text) (w.closers.map Word.text)
  have hheads : Both (fun h h' => h.head = h'.head)
      (header w.text ⟨head ++ ':' :: ' ' :: shared ss, i, number⟩)
      (header w.text ⟨head ++ [':'], i, number'⟩) := by
    rw [hhead.header_eq _ (by rintro c ⟨⟩; exact rfl), hhead.header_eq [] (by simp)]
    exact .ok rfl
  have hkind := he.executeKind_flow scope hhead.word hcompound hheads
  rw [← id_map (executeLine e scope ⟨head ++ [':'], i, number'⟩ (lines ++ rest))]
  refine .map_executeLine (later lines.length) id False.elim (.inr ⟨rfl, rfl⟩) ?_
  rw [id_map, hhead.classify_eq, hhead.classify_eq]
  exact hkind

theorem executeBlock_forms :
    Twins (forms head ss)
      (executeBlock e scope (⟨head ++ ':' :: ' ' :: shared ss, i, number⟩ :: rest))
      (executeBlock e scope (⟨head ++ [':'], i, number'⟩ :: (lines ++ rest))) := by
  have hline := executeLine_forms hhead hne hss hij number number' htext hlines hrest he scope
  let next (r : Nat × Flow) : Run Flow :=
    if r.2.isNormal then executeFrom e scope r.1 (lines ++ rest) else return r.2
  have hnext (r : Nat × Flow) : next (later lines.length r) =
      if r.2.isNormal then executeFrom e scope r.1 rest else return r.2 := by
    have hskip := executeFrom_later e scope r.1 lines rest
    simp only [next, later, hskip]
  have hstep (l : Line) (more : List Line) : executeBlock e scope (l :: more) =
      executeLine e scope l more >>= fun r =>
        if r.2.isNormal then executeFrom e scope r.1 more else return r.2 := by
    rw [executeBlock, executeFrom, if_neg (Nat.lt_irrefl 0)]
  have hfirst : executeBlock e scope (⟨head ++ ':' :: ' ' :: shared ss, i, number⟩ :: rest) =
      later lines.length <$> executeLine e scope ⟨head ++ ':' :: ' ' :: shared ss, i, number⟩ rest >>=
        next := by
    rw [hstep, bind_map_left]
    exact bind_congr fun r => (hnext r).symm
  rw [hfirst, hstep]
  refine hline.bind fun r => ?_
  dsimp only [next]
  split
  · obtain ⟨ps, hps, hfst, hsnd⟩ :
        SameOrder (forms head ss).placed (lines ++ rest) (lines ++ rest) := .refl _
    have hfrom := he.executeFrom scope r.1 ps hps
    rwa [hfst, hsnd] at hfrom
  · exact .pure r.2

end Forms

/-- A body means the same on the line of its header and in the block below: on every machine, and so
on one clock. -/
theorem executeBlock_inline {w : Word} {head : List Char} (hhead : IsFlowHead w head)
    {ss : List (List Char)} (hne : ss ≠ []) (hss : ∀ s ∈ ss, IsShared s) {i j : Nat} (hij : i < j)
    (number number' : Nat) {lines rest : List Line} (htext : lines.map Line.text = ss)
    (hlines : ∀ l ∈ lines, l.indent = j) (hrest : ∀ l ∈ rest.head?, l.indent ≤ i)
    (n scope : Nat) (m : Machine) :
    let inline := head ++ ':' :: ' ' :: shared ss
    let sameLine (t : String) : String :=
      if t = String.ofList inline then String.ofList (head ++ [':']) else t
    Outcome.placeless sameLine
        (executeBlock (Engine.level n) scope (⟨inline, i, number⟩ :: rest) m) =
      Outcome.placeless sameLine
        (executeBlock (Engine.level n) scope (⟨head ++ [':'], i, number'⟩ :: (lines ++ rest)) m) := by
  intro inline sameLine
  have hforms := executeBlock_forms hhead hne hss hij number number' htext hlines hrest
    (even_level n) scope m m (.refl m)
  refine hforms.placeless_eq fun t t' h => ?_
  obtain ⟨rfl, rfl⟩ := h
  simp only [sameLine, inline, if_true]
  split <;> exact rfl

/-- A loop whose body holds a function and a further header, with what follows the loop. -/
theorem executeBlock_inline_loop :
    let head := "while n > 0".toList
    let ss := ["n = n - 1".toList, "f = lambda k: k + n".toList,
      "if n: print('n: x; y', f(1))".toList]
    let lines : List Line := [⟨"n = n - 1".toList, 6, 2⟩, ⟨"f = lambda k: k + n".toList, 6, 3⟩,
      ⟨"if n: print('n: x; y', f(1))".toList, 6, 4⟩]
    let rest : List Line := [⟨"else: n = 7 // n".toList, 2, 5⟩]
    let m : Machine := { store := { scopes := #[[("n", .int 2)]] } }
    let inline := head ++ ':' :: ' ' :: shared ss
    let sameLine (t : String) : String :=
      if t = String.ofList inline then String.ofList (head ++ [':']) else t
    inline = "while n > 0: n = n - 1; f = lambda k: k + n; if n: print('n: x; y', f(1))".toList ∧
      Outcome.placeless sameLine
          (executeBlock (Engine.level 20) 0 (⟨inline, 2, 1⟩ :: rest) m) =
        Outcome.placeless sameLine
          (executeBlock (Engine.level 20) 0 (⟨head ++ [':'], 2, 1⟩ :: (lines ++ rest)) m) := by
  intro head ss lines rest m inline sameLine
  have hhead : IsFlowHead .whileLoop head :=
    ⟨by decide, by decide, by decide +kernel, by decide +kernel⟩
  have hss : ∀ s ∈ ss, IsShared s := by
    intro s hs
    simp only [ss, List.mem_cons, List.not_mem_nil, or_false] at hs
    obtain rfl | rfl | rfl := hs <;>
      exact ⟨by decide, by decide +kernel, by decide +kernel, by decide +kernel⟩
  exact ⟨by decide, executeBlock_inline hhead (by decide) hss (i := 2) (j := 6) (by decide) 1 1
    (by decide) (by decide) (by decide) 20 0 m⟩

/-- A body that tells the time, on the line of its header and below it on a machine with another
clock. -/
theorem executeBlock_inline_clocks :
    let head := "if True".toList
    let body := "print(time.time() > 1600000000)".toList
    let m (seconds : Float) : Machine :=
      { store :=
          { scopes := #[[("time", .library .time)]]
            host := (Host.showing seconds).toSurroundings } }
    IsFlowHead .conditional head ∧ IsShared body ∧
      (Outcome.report (executeBlock (Engine.level 20) 0
        [⟨head ++ ':' :: ' ' :: shared [body], 0, 1⟩] (m 1700000000))).output = "True" ∧
      (Outcome.report (executeBlock (Engine.level 20) 0
        [⟨head ++ [':'], 0, 1⟩, ⟨body, 2, 2⟩] (m 1500000000))).output = "False" := by
  intro head body m
  refine ⟨⟨by decide, by decide, by decide +kernel, by decide +kernel⟩,
    ⟨by decide, by decide +kernel, by decide +kernel, by decide +kernel⟩, ?_, ?_⟩
  · decide +kernel
  · decide +kernel

end Indentation

end SnippetGrader
