import SnippetGrader.Proofs.Comprehension.Items
import SnippetGrader.Proofs.Lambda
import SnippetGrader.Proofs.Operation.Call

/-!
# Functions of an item

The functions that `map` and `filter` call for the items: their bodies are the element and the condition
of a comprehension. A call of such a function evaluates the tree with the item bound
(`Selection.ends_apply`), on any machine that continues the one on which the comprehension starts.
-/

namespace SnippetGrader

open Text Source Expression Rendering Layout

/-! ## Later machines -/

/-- Further things were made, and the scopes that there were are as they were. -/
structure Machine.Continues (m m' : Machine) : Prop where
  grown : m.store.Extends m'.store
  size : m.store.scopes.size ≤ m'.store.scopes.size
  scopes : ∀ ref < m.store.scopes.size, m'.store.scope ref = m.store.scope ref
  attached : m'.attached = m.attached

namespace Machine.Continues

variable {m m' m'' : Machine}

theorem refl (m : Machine) : m.Continues m := ⟨.refl _, Nat.le_refl _, fun _ _ => rfl, rfl⟩

theorem trans (h : m.Continues m') (h' : m'.Continues m'') : m.Continues m'' where
  grown := h.grown.trans h'.grown
  size := Nat.le_trans h.size h'.size
  scopes ref href := (h'.scopes ref (Nat.lt_of_lt_of_le href h.size)).trans (h.scopes ref href)
  attached := h'.attached.trans h.attached

theorem of_grows (h : m.Grows m') : m.Continues m' where
  grown := h.extends
  size := by rw [h.scopes]
  scopes ref _ := by rw [Store.scope, h.scopes, Store.scope]
  attached := by
    obtain ⟨lists, nans, rfl⟩ := h
    exact rfl

/-- The machine that evaluates the body of a function. -/
theorem entered (m : Machine) (names : Scope) (line : Line) :
    m.Continues ((m.entered names).charged line) := by
  have hrefl := Store.Extends.refl m.store
  refine ⟨⟨hrefl.lists, hrefl.functions, hrefl.nans, hrefl.objects, hrefl.templates, hrefl.host⟩,
    ?_, fun ref href => ?_, rfl⟩
  · simp [Machine.entered, charged]
  · simp [Machine.entered, charged, Store.scope, Array.getElem?_push, Nat.ne_of_lt href]

/-- The machine after a call whose body makes lists and results that are no numbers. -/
theorem left {names : Scope} {line : Line} (h : ((m.entered names).charged line).Grows m') :
    m.Continues m'.left :=
  have hbody := (entered m names line).trans (.of_grows h)
  ⟨hbody.grown, hbody.size, hbody.scopes, hbody.attached⟩

theorem newFunction (m : Machine) (f : Function) :
    m.Continues { m with store := { m.store with functions := m.store.functions.push f } } where
  grown := ⟨⟨#[], Array.append_empty.symm⟩, ⟨#[f], Array.push_eq_append⟩, Nat.le_refl _, rfl, rfl,
    rfl⟩
  size := Nat.le_refl _
  scopes _ _ := rfl
  attached := rfl

/-- A function stays what it is. -/
theorem functions (h : m.Continues m') {ref : Nat} {f : Function}
    (href : m.store.functions[ref]? = some f) : m'.store.functions[ref]? = some f := by
  obtain ⟨more, hmore⟩ := h.grown.functions
  have hlt : ref < m.store.functions.size := (Array.getElem?_eq_some_iff.1 href).1
  rw [hmore, Array.getElem?_append_left hlt, href]

end Machine.Continues

/-! ## The body of a function -/

theorem Machine.isFatal_of_refusal? {m : Machine} {f : Failure} (h : m.refusal? = some f) :
    Statement.isFatal f = true := by
  unfold refusal? at h
  split at h
  · cases h
    exact rfl
  · split at h
    · cases h
      exact rfl
    · cases h

theorem Outcome.Ends.executeBlock_line (f : Lambda) (e : Engine) (scope number : Nat) {m : Machine}
    {bad : Prop} {good : Value → Machine → Prop}
    (h : Ends bad good (e.eval scope (' ' :: trim f.body) (m.charged (f.line number)))) :
    Ends bad (fun flow m' => ∃ v, flow = .returned v ∧ good v m')
      (Statement.executeBlock e scope [f.line number] m) := by
  have hline : Ends bad (fun p m' => ∃ v, p.2 = .returned v ∧ good v m')
      (Statement.executeLine e scope (f.line number) [] m) := by
    rw [Statement.executeLine_eq]
    refine .located ?_ _ _
    cases hrefusal : (m.charged (f.line number)).refusal? with
    | some g => exact .limited (.inl (Machine.isFatal_of_refusal? hrefusal))
    | none =>
      dsimp only
      rw [f.classify_line, f.executeKind_line]
      exact .bind h fun v m' hv => .done ⟨v, rfl, hv⟩
  rw [Statement.executeBlock_singleton]
  generalize Statement.executeLine e scope (f.line number) [] m = r at hline
  cases hline with
  | limited h => exact .limited h
  | failed h => exact .failed h
  | done h => exact .done h

namespace Selection

variable (s : Selection)

/-! ## Functions of the item -/

/-- The function of the item that has a tree as its body. -/
def abstraction (t : Tree) : Lambda where
  gap := [' ']
  params := [s.item.text]
  body := t.render
  isBlank_gap := isBlank_space
  gap_ne_nil _ := List.cons_ne_nil _ _
  isName_params := List.forall_mem_singleton.2 s.item.isName_text
  lacks_body := by
    have hrow := Operation.passes_writing (Tree.shape _ t.grouped_regroup).comma
    rw [t.writing_regroup] at hrow
    exact hrow.admits

variable {s} {m : Machine} {scope : Nat}

theorem trim_abstraction (t : Tree) : trim (s.abstraction t).body = t.render := by
  have htrim := (Tree.shape _ t.grouped_regroup).trim_writing
  rwa [t.writing_regroup] at htrim

/-- Executing the body of a function of the item. -/
theorem ends_body (hm : m.IsClosed scope) {v : Value} (hv : v.Within m.store) (t : Tree)
    {M : Machine} (hcont : m.Continues M) (n number : Nat) :
    Outcome.Ends (s.value m scope t v).Fails
      (fun flow M' => ∃ w, flow = .returned w ∧
        ((M.entered (s.names m scope v)).charged ((s.abstraction t).line number)).Grows M' ∧
        w.truthy M'.store = (s.value m scope t v).isTrue ∧ s.Stands m scope t M'.store v w)
      ((Engine.level n).block M.store.scopes.size [(s.abstraction t).line number]
        (M.entered (s.names m scope v))) := by
  cases n with
  | zero => exact .limited trivial
  | succ n =>
    have hbinds : s.Binds m scope v
        ((M.entered (s.names m scope v)).charged ((s.abstraction t).line number))
        M.store.scopes.size := by
      refine ⟨hcont.grown.trans (Machine.Continues.entered M _ _).grown, fun name => ?_⟩
      simp [Machine.entered, Machine.charged, Store.scope]
    have hvalue := ends_eval hm hv hbinds t n isBlank_space (List.forall_mem_nil _)
    rw [List.append_nil, ← s.trim_abstraction t] at hvalue
    exact .executeBlock_line (s.abstraction t) _ _ _ hvalue

/-- **Calling a function of the item.** -/
theorem ends_apply (hm : m.IsClosed scope) (hscope : scope < m.store.scopes.size) {v : Value}
    (hv : v.Within m.store) (t : Tree) {M : Machine} (hcont : m.Continues M) {ref number : Nat}
    (href : M.store.functions[ref]? = some ((s.abstraction t).function number scope)) (n : Nat) :
    Outcome.Ends (s.value m scope t v).Fails
      (fun w M' => M.Continues M' ∧ w.truthy M'.store = (s.value m scope t v).isTrue ∧
        s.Stands m scope t M'.store v w)
      ((Engine.level n).apply (.function ref) [v] [] M) := by
  cases n with
  | zero => exact .limited trivial
  | succ n =>
    change Outcome.Ends _ _ (Statement.apply (Engine.level n) (.function ref) [v] [] M)
    by_cases hdepth : (M.callDepth : Int) < M.limits.maxCallDepth
    · rw [(s.abstraction t).apply_of_callDepth_lt href _ rfl hdepth]
      have hnames : (s.abstraction t).names (M.store.scope scope) [v] = s.names m scope v := by
        rw [hcont.scopes scope hscope]
        exact rfl
      rw [hnames]
      have hbody : Outcome.Ends (s.value m scope t v).Fails
          (fun flow M' => ∃ w, flow = .returned w ∧ M.Continues M' ∧
            w.truthy M'.store = (s.value m scope t v).isTrue ∧ s.Stands m scope t M'.store v w)
          (Run.between (·.entered (s.names m scope v)) ((Engine.level n).block M.store.scopes.size
            [(s.abstraction t).line number]) Machine.left M) :=
        .onMachine (ends_body hm hv t hcont n number) Machine.left fun flow M' hflow => by
          obtain ⟨w, hw, hgrows, hvalue⟩ := hflow
          exact ⟨w, hw, .left hgrows, hvalue⟩
      refine .bind hbody fun flow M' ⟨w, hw, hvalue⟩ => ?_
      rw [hw]
      exact .done hvalue
    · rw [(s.abstraction t).apply_of_le_callDepth href _ (by omega)]
      exact .limited (.inr ⟨rfl, by decide⟩)

end Selection

end SnippetGrader
