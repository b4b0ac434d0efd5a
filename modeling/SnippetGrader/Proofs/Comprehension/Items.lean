import SnippetGrader.Proofs.Comprehension.Limits
import SnippetGrader.Proofs.Comprehension.Reading
import SnippetGrader.Proofs.Renaming.Likeness

/-!
# The items of a comprehension

What the element and the condition of a comprehension stand for is asked for each item alone, in a
scope of its own on the machine on which the comprehension starts (`Selection.value`). Wherever they are
evaluated later, with the item bound to the same value, they fail as they do there or give a like value
(`Selection.ends_eval`). A comprehension goes through the items in order; it fails if one of them spoils it,
and otherwise gives a list of the elements of those that are kept (`Selection.ends_comprehend`).
-/

namespace SnippetGrader

open Text Source Expression Rendering

def Outcome.isTrue : Outcome Value → Bool
  | .ok v m => v.truthy m.store
  | .error _ _ => false

theorem Outcome.not_isLimited {r : Outcome Value} (h : r.isTrue = true) : ¬r.IsLimited := by
  rintro ⟨stop, m, rfl, -⟩
  cases h

namespace Selection

variable (s : Selection) (m : Machine) (scope : Nat)

/-! ## One item -/

/-- The names of a scope when the item is bound. -/
def names (v : Value) : Scope := (m.store.scope scope).set (String.ofList s.item.text) v

/-- What a tree stands for when the item is bound to a value in a new scope. -/
def value (t : Tree) (v : Value) : Outcome Value :=
  t.denote m.store.scopes.size (m.entered (s.names m scope v))

def keeps (v : Value) : Bool := (s.value m scope s.condition v).isTrue

/-- The condition fails for an item, or the element fails for one that is kept. -/
def Spoils (v : Value) : Prop :=
  (s.value m scope s.condition v).Fails ∨
    s.keeps m scope v = true ∧ (s.value m scope s.element v).Fails

/-- A value that is in a store which has grown is like what a tree stands for. -/
def Stands (t : Tree) (store : Store) (v w : Value) : Prop :=
  ∃ u m', s.value m scope t v = .ok u m' ∧
    ∀ later, store.Extends later → u.Alike m.store m'.store later w

/-- The item is bound in a scope of a machine, which otherwise holds the names of the comprehension. -/
structure Binds (v : Value) (m' : Machine) (scope' : Nat) : Prop where
  grown : m.store.Extends m'.store
  names : ∀ n, (m'.store.scope scope').get? n = (s.names m scope v).get? n

variable {s m scope}

theorem Stands.later {t : Tree} {store later : Store} {v w : Value}
    (h : s.Stands m scope t store v w) (hlater : store.Extends later) :
    s.Stands m scope t later v w := by
  obtain ⟨u, m', hvalue, hlike⟩ := h
  exact ⟨u, m', hvalue, fun last hlast => hlike last (hlater.trans hlast)⟩

theorem Binds.grows {v : Value} {m' m'' : Machine} {scope' : Nat} (h : s.Binds m scope v m' scope')
    (hgrows : m'.Grows m'') : s.Binds m scope v m'' scope' where
  grown := h.grown.trans hgrows.extends
  names n := by
    rw [Store.scope, hgrows.scopes]
    exact h.names n

theorem Stands.alike {t : Tree} {store store' : Store} {v w w' : Value}
    (h : s.Stands m scope t store v w) (h' : s.Stands m scope t store' v w') :
    w.Alike m.store store store' w' := by
  obtain ⟨u, m', hvalue, hlike⟩ := h
  obtain ⟨u', m'', hvalue', hlike'⟩ := h'
  rw [hvalue] at hvalue'
  cases hvalue'
  exact (hlike store (.refl _)).symm.trans (hlike' store' (.refl _))

theorem Stands.not_fails {t : Tree} {store : Store} {v w : Value}
    (h : s.Stands m scope t store v w) : ¬(s.value m scope t v).Fails := by
  obtain ⟨u, m', hvalue, -⟩ := h
  rintro ⟨stop, m'', hfails⟩
  rw [hvalue] at hfails
  cases hfails

theorem scope_entered (v : Value) :
    (m.entered (s.names m scope v)).store.scope m.store.scopes.size = s.names m scope v := by
  simp [Machine.entered, Store.scope]

theorem isClosed_entered (hm : m.IsClosed scope) {v : Value} (hv : v.Within m.store) :
    (m.entered (s.names m scope v)).IsClosed m.store.scopes.size where
  items ref w hw := by
    have hwithin := hm.items ref w hw
    cases w <;> exact hwithin
  names n w hw := by
    rw [scope_entered, names] at hw
    have hwithin : w.Within m.store := by
      by_cases hn : n = String.ofList s.item.text
      · rw [hn, Scope.get?_set] at hw
        cases hw
        exact hv
      · rw [Scope.get?_set_of_ne hn] at hw
        exact hm.names n w hw
    cases w <;> exact hwithin

/-- What is like in a store is like whatever scopes the store has. -/
theorem alike_of_entered {names : Scope} {s₁ s₂ : Store} {v w : Value}
    (h : v.Alike (m.entered names).store s₁ s₂ w) : v.Alike m.store s₁ s₂ w := by
  obtain ⟨R, hR, hvw⟩ := h
  have hwithin (u : Value) : u.Within (m.entered names).store ↔ u.Within m.store := by
    cases u <;> exact Iff.rfl
  refine ⟨R, ⟨fun v w hvw => ?_, hR.items, hR.oneToOne⟩, hvw⟩
  simpa only [hwithin] using hR.form v w hvw

/-- **Evaluating a tree for an item.** -/
theorem ends_eval (hm : m.IsClosed scope) {v : Value} (hv : v.Within m.store) {m' : Machine}
    {scope' : Nat} (hbinds : s.Binds m scope v m' scope') (t : Tree) (n : Nat) {a b : List Char}
    (ha : ∀ c ∈ a, isBlank c = true) (hb : ∀ c ∈ b, isBlank c = true) :
    Outcome.Ends (s.value m scope t v).Fails
      (fun w m'' => m'.Grows m'' ∧ w.truthy m''.store = (s.value m scope t v).isTrue ∧
        s.Stands m scope t m''.store v w)
      ((Engine.level n).eval scope' (a ++ t.render ++ b) m') := by
  have hread := reads_level scope' n (t.regroup.depth + 1) t.regroup t.grouped_regroup
    (Nat.lt_succ_self _) a b ha hb m'
  rw [t.writing_regroup, t.denote_regroup] at hread
  obtain hread | ⟨m'', hread⟩ := hread
  · rw [hread]
    have hextends : (m.entered (s.names m scope v)).store.Extends m'.store :=
      ⟨hbinds.grown.lists, hbinds.grown.functions, hbinds.grown.nans,
        hbinds.grown.objects, hbinds.grown.templates, hbinds.grown.host⟩
    obtain ⟨stop, m₁, m₂, hbase, hlater⟩ | ⟨u, w, m₁, m₂, hbase, hlater, hgrows, htruthy, hlike⟩ :=
      t.denote_alike (isClosed_entered hm hv) hextends fun n => by
        rw [scope_entered, hbinds.names]
    · rw [hlater]
      exact .failed ⟨stop, m₁, hbase⟩
    · rw [hlater]
      refine .done ⟨hgrows, ?_, u, m₁, hbase, fun last hlast => alike_of_entered (hlike last hlast)⟩
      rw [value, hbase, Outcome.isTrue, htruthy]
  · rw [hread]
    exact .limited trivial

/-! ## All items -/

variable (s m scope) in
/-- A machine that is at work on the comprehension: its scope holds the names of the comprehension, and
whatever the item is bound to. -/
structure Open (m' : Machine) : Prop where
  grown : m.store.Extends m'.store
  size : m.store.scopes.size < m'.store.scopes.size
  names : ∀ n, n ≠ String.ofList s.item.text →
    (m'.store.scope m.store.scopes.size).get? n = (m.store.scope scope).get? n

theorem Open.grows {m' m'' : Machine} (h : s.Open m scope m') (hgrows : m'.Grows m'') :
    s.Open m scope m'' where
  grown := h.grown.trans hgrows.extends
  size := hgrows.scopes ▸ h.size
  names n hn := by
    rw [Store.scope, hgrows.scopes]
    exact h.names n hn

def rebound (m' : Machine) (ref : Nat) (name : String) (v : Value) : Machine :=
  { m' with store := { m'.store with scopes := m'.store.scopes.modify ref fun sc => sc.set name v } }

theorem scope_rebound {m' : Machine} {ref : Nat} (h : ref < m'.store.scopes.size) (name : String)
    (v : Value) : (rebound m' ref name v).store.scope ref = (m'.store.scope ref).set name v := by
  change ((m'.store.scopes.modify ref fun sc => sc.set name v)[ref]?).getD [] = _
  rw [Array.getElem?_modify, if_pos rfl, Store.scope, Array.getElem?_eq_getElem h]
  exact rfl

theorem extends_rebound (m' : Machine) (ref : Nat) (name : String) (v : Value) :
    m'.store.Extends (rebound m' ref name v).store :=
  have hrefl := Store.Extends.refl m'.store
  ⟨hrefl.lists, hrefl.functions, hrefl.nans, hrefl.objects, hrefl.templates, hrefl.host⟩

theorem Open.rebound {m' : Machine} (h : s.Open m scope m') (v : Value) :
    s.Open m scope (rebound m' m.store.scopes.size (String.ofList s.item.text) v) ∧
      s.Binds m scope v (rebound m' m.store.scopes.size (String.ofList s.item.text) v)
        m.store.scopes.size := by
  have hgrown := h.grown.trans (extends_rebound m' m.store.scopes.size (String.ofList s.item.text) v)
  have hscope := scope_rebound h.size (String.ofList s.item.text) v
  refine ⟨⟨hgrown, ?_, fun n hn => ?_⟩, hgrown, fun n => ?_⟩
  · rw [Selection.rebound, Array.size_modify]
    exact h.size
  · rw [hscope, Scope.get?_set_of_ne hn]
    exact h.names n hn
  · rw [hscope, Selection.names]
    by_cases hn : n = String.ofList s.item.text
    · rw [hn, Scope.get?_set, Scope.get?_set]
    · rw [Scope.get?_set_of_ne hn, Scope.get?_set_of_ne hn, h.names n hn]

/-- Asking whether an item is kept. -/
theorem ends_meets (hm : m.IsClosed scope) {v : Value} (hv : v.Within m.store) {m' : Machine}
    {scope' : Nat} (hbinds : s.Binds m scope v m' scope') (n : Nat) :
    Outcome.Ends (s.value m scope s.condition v).Fails
      (fun kept m'' => m'.Grows m'' ∧ kept = s.keeps m scope v ∧
        ¬(s.value m scope s.condition v).Fails)
      (meets (Engine.level n) scope' s.parts.condition m') := by
  have hvalue := ends_eval hm hv hbinds s.condition n isBlank_space (List.forall_mem_nil _)
  rw [List.append_nil] at hvalue
  refine .bind hvalue fun w m'' ⟨hgrows, htruthy, hstands⟩ => ?_
  exact .done ⟨hgrows, htruthy, hstands.not_fails⟩

/-- The elements for some items, after those for the items `before`. -/
theorem ends_elements (hm : m.IsClosed scope) (n : Nat) {vs : List Value}
    (hvs : ∀ v ∈ vs, v.Within m.store) {m' : Machine} (hopen : s.Open m scope m')
    {before : List Value} {done : Array Value}
    (hdone : List.Forall₂ (s.Stands m scope s.element m'.store) before done.toList) :
    Outcome.Ends (∃ v ∈ vs, s.Spoils m scope v)
      (fun us m'' => (∀ v ∈ vs, ¬s.Spoils m scope v) ∧ s.Open m scope m'' ∧
        List.Forall₂ (s.Stands m scope s.element m''.store)
          (before ++ vs.filter (s.keeps m scope)) us.toList)
      (elements (Engine.level n) m.store.scopes.size s.parts
        (.name (String.ofList s.item.text)) done vs m') := by
  induction vs generalizing m' before done with
  | nil =>
    refine .done ⟨by simp, hopen, ?_⟩
    rwa [List.filter_nil, List.append_nil]
  | cons v vs ih =>
    have hv := hvs v List.mem_cons_self
    have hrest := fun w hw => hvs w (List.mem_cons_of_mem v hw)
    have hspoiled (h : s.Spoils m scope v) : ∃ w ∈ v :: vs, s.Spoils m scope w :=
      ⟨v, List.mem_cons_self, h⟩
    have hlater (h : ∃ w ∈ vs, s.Spoils m scope w) : ∃ w ∈ v :: vs, s.Spoils m scope w :=
      h.imp fun w hw => ⟨List.mem_cons_of_mem v hw.1, hw.2⟩
    obtain ⟨hbound, hbinds⟩ := hopen.rebound v
    have hassign : Expression.assign (Engine.level n) m.store.scopes.size
        (.name (String.ofList s.item.text)) v m' =
          .ok () (Selection.rebound m' m.store.scopes.size (String.ofList s.item.text) v) := by
      rw [Expression.assign]
      exact rfl
    have hdone := hdone.imp fun _ _ h => h.later
      (extends_rebound m' m.store.scopes.size (String.ofList s.item.text) v)
    generalize Selection.rebound m' m.store.scopes.size (String.ofList s.item.text) v = m₁ at *
    rw [elements, Run.bind_eq, hassign]
    refine .bind ((ends_meets hm hv hbinds n).imp (fun h => hspoiled (.inl h)) fun _ _ h => h) ?_
    rintro kept m₂ ⟨hgrows, hkept, hcondition⟩
    have hopen₂ := hbound.grows hgrows
    have hdone₂ := hdone.imp fun _ _ h => h.later hgrows.extends
    cases kept with
    | false =>
      have hnot : ¬s.Spoils m scope v := by
        rintro (h | ⟨h, -⟩)
        · exact hcondition h
        · rw [← hkept] at h
          cases h
      refine (ih hrest hopen₂ hdone₂).imp hlater ?_
      rintro us m₃ ⟨hspoils, hopen₃, hus⟩
      refine ⟨List.forall_mem_cons.2 ⟨hnot, hspoils⟩, hopen₃, ?_⟩
      rwa [List.filter_cons_of_neg (by simp [← hkept])]
    | true =>
      have helement := ends_eval hm hv (hbinds.grows hgrows) s.element n (List.forall_mem_nil _)
        isBlank_space
      rw [List.nil_append] at helement
      refine .bind (helement.imp (fun h => hspoiled (.inr ⟨hkept.symm, h⟩)) fun _ _ h => h) ?_
      rintro w m₃ ⟨hgrows₃, -, hstands⟩
      have hnot : ¬s.Spoils m scope v := by
        rintro (h | ⟨-, h⟩)
        · exact hcondition h
        · exact hstands.not_fails h
      have hdone₃ := hdone₂.imp fun _ _ h => h.later hgrows₃.extends
      have hpushed : List.Forall₂ (s.Stands m scope s.element m₃.store) (before ++ [v])
          (done.push w).toList := by
        rw [Array.toList_push]
        exact List.rel_append hdone₃ (.cons hstands .nil)
      refine (ih hrest (hopen₂.grows hgrows₃) hpushed).imp hlater ?_
      rintro us m₄ ⟨hspoils, hopen₄, hus⟩
      refine ⟨List.forall_mem_cons.2 ⟨hnot, hspoils⟩, hopen₄, ?_⟩
      rwa [List.append_assoc, List.singleton_append,
        ← List.filter_cons_of_pos (p := s.keeps m scope) hkept.symm] at hus

/-! ## The list -/

theorem ends_bound (x : Identifier) {m : Machine} {scope : Nat} {v : Value}
    (h : (m.store.scope scope).get? (String.ofList x.text) = some v) (n : Nat) {a b : List Char}
    (ha : ∀ c ∈ a, isBlank c = true) (hb : ∀ c ∈ b, isBlank c = true) :
    Outcome.Ends False (fun w m' => w = v ∧ m' = m)
      ((Engine.level n).eval scope (a ++ x.text ++ b) m) := by
  have hread := reads_level scope n ((Tree.name x).depth + 1) (.name x) trivial
    (Nat.lt_succ_self _) a b ha hb m
  have hdenote : (Tree.name x).denote scope m = .ok v m := x.denote_bound h
  rw [(Tree.name x).writing_lexemes, hdenote] at hread
  obtain hread | ⟨m', hread⟩ := hread
  · exact hread ▸ .done ⟨rfl, rfl⟩
  · exact hread ▸ .limited trivial

def copied (m : Machine) (scope : Nat) : Machine :=
  { m with store := { m.store with scopes := m.store.scopes.push (m.store.scope scope) } }

theorem ofText_target : Target.ofText s.parts.target = .name (String.ofList s.item.text) := by
  have htrim : trim s.parts.target = s.item.text := by
    have hspaced := (Shape.single (p := .name s.item) rfl).trim_spaced isBlank_space isBlank_space
    simpa [Lexeme.chars, parts] using hspaced
  rw [Target.ofText, Target.ofTextWithin]
  simp only [htrim, s.item.isName_text, if_true]

/-- **The value of a comprehension.** -/
theorem ends_comprehend (hm : m.IsClosed scope) {ref : Nat}
    (hsource : (m.store.scope scope).get? (String.ofList s.source.text) = some (.list ref))
    (hsize : (m.store.items ref).size ≤ maxSequence) (n : Nat) :
    Outcome.Ends (∃ v ∈ (m.store.items ref).toList, s.Spoils m scope v)
      (fun w m' => (∀ v ∈ (m.store.items ref).toList, ¬s.Spoils m scope v) ∧
        ∃ a, w = .list a ∧ List.Forall₂ (s.Stands m scope s.element m'.store)
          ((m.store.items ref).toList.filter (s.keeps m scope)) (m'.store.items a).toList)
      (comprehend (Engine.level n) scope s.parts m) := by
  have hxs := fun v hv => hm.items ref v (Array.mem_toList_iff.1 hv)
  have hrefl := Store.Extends.refl m.store
  have hstart : s.Open m scope (copied m scope) :=
    ⟨⟨hrefl.lists, hrefl.functions, hrefl.nans, hrefl.objects, hrefl.templates, hrefl.host⟩,
      by simp [copied], fun n _ => by simp [copied, Store.scope]⟩
  refine .bind ((ends_bound s.source hsource n isBlank_space isBlank_space).imp False.elim
    fun _ _ h => h) fun w m' ⟨hw, hm'⟩ => ?_
  rw [hw, hm', ofText_target]
  have hnone : List.Forall₂ (s.Stands m scope s.element (copied m scope).store) []
      (#[] : Array Value).toList := .nil
  have helements := ends_elements hm n hxs hstart hnone
  change Outcome.Ends _ _ ((elements (Engine.level n) m.store.scopes.size s.parts
    (.name (String.ofList s.item.text)) #[] (m.store.items ref).toList >>= fun results => do
      if results.size > maxSequence then Run.fail .tooLarge
      Run.newList results) (copied m scope))
  refine .bind helements fun us m₁ ⟨hspoils, _, hus⟩ => ?_
  rw [List.nil_append] at hus
  have hcount : us.size ≤ (m.store.items ref).size := by
    have hkept := List.length_filter_le (s.keeps m scope) (m.store.items ref).toList
    rwa [hus.length_eq, Array.length_toList, Array.length_toList] at hkept
  rw [if_neg (by omega)]
  refine (Outcome.Ends.newList us).imp id fun w m₂ ⟨hitems, hw, hgrows⟩ => ?_
  refine ⟨hspoils, _, hw, ?_⟩
  rw [hitems]
  exact hus.imp fun _ _ h => h.later hgrows.extends

end Selection

end SnippetGrader
