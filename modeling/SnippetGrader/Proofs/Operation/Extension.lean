import SnippetGrader.Proofs.Operation.Enclosed

/-!
# Extending a list

The statements `x += e` and `x = x + (e)` where `x` is bound to a list and `e` is evaluated to a list
that leaves `x` alone. The first puts the new items into the list of `x`, the second binds `x` to a
new list, and as long as there are not too many items both leave the same ones. Only the second one
looks at the size of what it makes: beyond the limit it fails and changes nothing, while the first
goes on.
-/

namespace SnippetGrader.Operation

open Text Source Statement Expression Rendering
open Written (Passes)

/-! ## Assignments -/

/-- The name of an identifier. -/
def name (x : Identifier) : String := String.ofList x.text

/-- A text that no symbol stands in. -/
structure IsTarget (target : List Char) : Prop where
  plain : ∀ c ∈ target, isPlain c = true ∧ Symbol.isSymbolChar c = false
  trimmed : trim target = target
  ne_nil : target ≠ []

section Targets

variable {target : List Char} (ht : IsTarget target) {s : Symbol} {v : List Char}
  (hat : Symbol.at? (s.chars ++ ' ' :: v) = some s) (hs : s.isAssignment = true)
  (hv : trim v ≠ [])
include ht hat hs hv

theorem IsTarget.assignment? :
    assignment? (target ++ ' ' :: (s.chars ++ ' ' :: v)) = some ⟨target, s, trim v⟩ := by
  have hplain : ∀ c ∈ target ++ [' '], isPlain c = true ∧ Symbol.isSymbolChar c = false := by
    intro c hc
    rw [List.mem_append, List.mem_singleton] at hc
    obtain hc | rfl := hc
    · exact ht.plain c hc
    · decide
  have htext : target ++ ' ' :: (s.chars ++ ' ' :: v) =
      (target ++ [' ']) ++ (s.chars ++ ' ' :: v) := by
    simp
  have hlength : (target ++ [' ']).length = target.length + 1 := by simp
  have htokens : ∃ rest, tokens (target ++ ' ' :: (s.chars ++ ' ' :: v)) =
      ⟨target.length + 1, s⟩ :: rest := by
    have hchars : s.chars ≠ [] ∧ s.chars.all isPlain = true := by
      revert hs
      cases s <;> decide
    obtain ⟨c, more, hcons⟩ := List.exists_cons_of_ne_nil hchars.1
    have hc : isPlain c = true :=
      List.all_eq_true.1 hchars.2 c (hcons ▸ List.mem_cons_self)
    have hstep : Reader.step {} c (more ++ ' ' :: v) = ({}, .code 0) := step_plain hc 0 _
    rw [hcons, List.cons_append] at hat
    rw [tokens, htext, tokensFrom_plain hplain, Nat.zero_add, hlength, hcons, List.cons_append]
    simp only [tokensFrom, hstep, hat, beq_self_eq_true, if_true, Nat.lt_irrefl, gt_iff_lt,
      if_false]
    exact ⟨_, rfl⟩
  obtain ⟨rest, htokens⟩ := htokens
  have htarget : trim ((target ++ ' ' :: (s.chars ++ ' ' :: v)).take (target.length + 1)) =
      target := by
    rw [htext, List.take_left' hlength, Layout.trim_eq, trimEnd_append_space, ← Layout.trim_eq]
    exact ht.trimmed
  have hvalue : trim ((target ++ ' ' :: (s.chars ++ ' ' :: v)).drop
      (target.length + 1 + s.length)) = trim v := by
    rw [← List.drop_drop, htext, List.drop_left' hlength, Symbol.length, List.drop_left]
    exact Layout.trim_append_left isBlank_space v
  rw [Source.assignment?, htokens, List.find?_cons, hs]
  simp only [Token.stop, htarget, hvalue, List.isEmpty_eq_false_iff.2 ht.ne_nil,
    List.isEmpty_eq_false_iff.2 hv, Bool.or_false, Bool.false_eq_true, if_false]

variable {x : Identifier} {rest : List Char} (hx : target = x.text ++ rest)
  (hrest : ∀ c ∈ rest.head?, isWord c = false)
include hx hrest

/-- An assignment whose target starts with a name. -/
theorem IsTarget.classify : classify (target ++ ' ' :: (s.chars ++ ' ' :: v)) = .assignment := by
  have hfirst : firstName (target ++ ' ' :: (s.chars ++ ' ' :: v)) = name x := by
    have hnext : ∀ c ∈ (rest ++ ' ' :: (s.chars ++ ' ' :: v)).head?, isWord c = false := by
      intro c hc
      cases rest with
      | nil =>
        cases hc
        decide
      | cons d rest => exact hrest c hc
    rw [firstName, hx, List.append_assoc, splitName_text x hnext]
    rfl
  have hkeyword : StatementKind.ofKeyword? (name x) = none := by
    have hreserved := x.not_reserved
    unfold StatementKind.ofKeyword?
    split
    case h_15 => rfl
    all_goals
      next hname =>
      rw [name] at hname
      rw [hname] at hreserved
      exact absurd (by decide) hreserved
  have hcompound : StatementKind.ofCompound? (name x) = none := by
    have hreserved := x.not_reserved
    unfold StatementKind.ofCompound?
    split
    case h_8 => rfl
    all_goals
      next hname =>
      rw [name] at hname
      rw [hname] at hreserved
      exact absurd (by decide) hreserved
  rw [Source.classify, hfirst, hkeyword]
  simp only [hcompound, ht.assignment? hat hs hv, Option.isSome_some, if_true]

/-- The line is executed as this assignment. -/
theorem IsTarget.executeLine (E : Engine) (scope indent number : Nat) (rest : List Line)
    (m : Machine) :
    executeLine E scope ⟨target ++ ' ' :: (s.chars ++ ' ' :: v), indent, number⟩ rest m =
      Outcome.onFailure
        (fun f => f.locate number (String.ofList (target ++ ' ' :: (s.chars ++ ' ' :: v))))
        (match (m.charged ⟨target ++ ' ' :: (s.chars ++ ' ' :: v), indent, number⟩).refusal? with
          | some f =>
            .error (.failed f) (m.charged ⟨target ++ ' ' :: (s.chars ++ ' ' :: v), indent, number⟩)
          | none =>
            (executeAssignment E scope ⟨target, s, trim v⟩ >>= fun _ => pure (0, Flow.normal))
              (m.charged ⟨target ++ ' ' :: (s.chars ++ ' ' :: v), indent, number⟩)) := by
  have hexec : executeKind E scope ⟨target ++ ' ' :: (s.chars ++ ' ' :: v), indent, number⟩ rest
      .assignment = executeAssignment E scope ⟨target, s, trim v⟩ >>= fun _ => pure (0, .normal) := by
    simp only [executeKind, ht.assignment? hat hs hv]
  have hline := executeLine_eq E scope
    ⟨target ++ ' ' :: (s.chars ++ ' ' :: v), indent, number⟩ rest m
  rw [ht.classify hat hs hv hx hrest, hexec] at hline
  exact hline

end Targets

section Assignment

variable (x : Identifier) {s : Symbol} {v : List Char}

def assigning (x : Identifier) (s : Symbol) (v : List Char) : List Char :=
  x.text ++ ' ' :: (s.chars ++ ' ' :: v)

theorem isTarget_text : IsTarget x.text where
  plain c hc :=
    ⟨isPlain_of_isWord (isWord_text x hc), isSymbolChar_eq_false_of_isWord (isWord_text x hc)⟩
  trimmed := trim_of_isName x.isName_text
  ne_nil := by
    obtain ⟨c, more, hx, -⟩ := x.exists_head
    rw [hx]
    exact List.cons_ne_nil c more

theorem executeLine_assigning (hat : Symbol.at? (s.chars ++ ' ' :: v) = some s)
    (hs : s.isAssignment = true) (hv : trim v ≠ []) (E : Engine) (scope indent number : Nat)
    (rest : List Line) {m : Machine}
    (hm : (m.charged ⟨assigning x s v, indent, number⟩).refusal? = none) :
    executeLine E scope ⟨assigning x s v, indent, number⟩ rest m =
      Outcome.onFailure (fun f => f.locate number (String.ofList (assigning x s v)))
        ((executeAssignment E scope ⟨x.text, s, trim v⟩ >>= fun _ => pure (0, Flow.normal))
          (m.charged ⟨assigning x s v, indent, number⟩)) := by
  have hline := (isTarget_text x).executeLine hat hs hv (List.append_nil x.text).symm
    (fun c hc => by cases hc) E scope indent number rest m
  unfold assigning at hm ⊢
  rw [hline, hm]

end Assignment

theorem ofText_text (x : Identifier) : Target.ofText x.text = .name (name x) := by
  rw [Target.ofText, Target.ofTextWithin]
  simp only [trim_of_isName x.isName_text, x.isName_text, if_true]
  rfl

/-! ## Names that are bound to lists -/

/-- A name is bound to a list with these items. -/
structure Binds (m : Machine) (scope : Nat) (x : Identifier) (ref : Nat) (xs : Array Value) :
    Prop where
  bound : (m.store.scope scope).get? (name x) = some (.list ref)
  items : m.store.lists[ref]? = some xs

section Bound

variable {m : Machine} {scope a : Nat} {x : Identifier} {xs : Array Value}

/-- Binding a name of a scope that has it gives it the new value. -/
theorem bindName_list {v : Value} (hbound : (m.store.scope scope).get? (name x) = some v)
    {ref : Nat} {ys : Array Value} (hitems : m.store.lists[ref]? = some ys) :
    ∃ m', Run.bindName scope (name x) (.list ref) m = .ok () m' ∧ Binds m' scope x ref ys := by
  obtain ⟨sc, hscope⟩ : ∃ sc, m.store.scopes[scope]? = some sc := by
    rw [Store.scope] at hbound
    cases hscope : m.store.scopes[scope]? with
    | none =>
      rw [hscope] at hbound
      cases hbound
    | some sc => exact ⟨sc, rfl⟩
  refine ⟨_, rfl, ?_, hitems⟩
  rw [Store.scope]
  simp only [Array.getElem?_modify, hscope, if_true, Option.map_some, Option.getD_some]
  exact Scope.get?_set sc (name x) (.list ref)

theorem Binds.evaluate_name (h : Binds m scope x a xs) (E : Engine) :
    Expression.evaluate E scope x.text m = .ok (.list a) m := by
  have hlookup : Run.lookup? scope (String.ofList x.text) m = .ok (some (.list a)) m := by
    rw [← h.bound]
    rfl
  rw [Tree.evaluate_identifier, Identifier.denote, Run.bind_eq, hlookup]
  rfl

/-- A list is extended in place, whatever its size. -/
theorem Binds.changedValue (h : Binds m scope x a xs) (b : Nat) :
    ∃ m', changedValue .add (.list a) (.list b) m = .ok (.list a) m' ∧
      Binds m' scope x a (xs ++ m.store.items b) := by
  have hchanged : Statement.changedValue .add (.list a) (.list b) m =
      (if !(m.store.items b).isEmpty then
        Run.growList a (· ++ m.store.items b) >>= fun _ => pure (.list a)
      else pure (.list a)) m := rfl
  cases hempty : (m.store.items b).isEmpty with
  | true =>
    refine ⟨m, ?_, h.bound, ?_⟩
    · rw [hchanged, hempty]
      rfl
    · rw [h.items, Array.isEmpty_iff.1 hempty, Array.append_empty]
  | false =>
    let grown : Machine :=
      { m with
        store := { m.store with
          lists := m.store.lists.modify a (· ++ m.store.items b)
          sorting := touch a m.store.sorting } }
    have hgrown : grown.store.lists[a]? = some (xs ++ m.store.items b) := by
      change (m.store.lists.modify a (· ++ m.store.items b))[a]? = _
      simp [Array.getElem?_modify, h.items]
    refine ⟨grown, ?_, h.bound, hgrown⟩
    rw [hchanged, hempty]
    rfl

/-- The sum of two lists is a new list, unless it would be too large. -/
theorem Binds.operate (h : Binds m scope x a xs) (b : Nat) :
    Run.operate .add (.list a) (.list b) m =
      if xs.size + (m.store.items b).size > maxSequence then .error (.failed .tooLarge) m
      else Run.newList (xs ++ m.store.items b) m := by
  have hitems : m.store.items a = xs := by rw [Store.items, h.items]; rfl
  have hsum : Run.operate .add (.list a) (.list b) m =
      (if (m.store.items a).size + (m.store.items b).size > maxSequence then
        Run.fail .tooLarge >>= fun _ => Run.newList (m.store.items a ++ m.store.items b)
      else Run.newList (m.store.items a ++ m.store.items b)) m := rfl
  rw [hsum, hitems]
  split <;> rfl

end Bound

/-! ## The two statements -/

/-- The line `x += e`. -/
def extending (x : Identifier) (e : List Char) (indent number : Nat) : Line :=
  ⟨assigning x .addAssign e, indent, number⟩

/-- The line `x = x + (e)`. -/
def reassigning (x : Identifier) (e : List Char) (indent number : Nat) : Line :=
  ⟨assigning x .assign (sum x e), indent, number⟩

section Statements

variable {x : Identifier} {e : List Char} {E : Engine} {scope indent number a b : Nat}
  {m m' : Machine} {xs : Array Value} (rest : List Line)

theorem executeLine_extending (he : trim e ≠ [])
    (hstart : (m.charged (extending x e indent number)).refusal? = none)
    (hvalue : Expression.evaluate E scope e (m.charged (extending x e indent number)) =
      .ok (.list b) m')
    (hx : Binds m' scope x a xs) :
    ∃ m₁, executeLine E.next scope (extending x e indent number) rest m = .ok (0, .normal) m₁ ∧
      Binds m₁ scope x a (xs ++ m'.store.items b) := by
  obtain ⟨grown, hgrown, hitems⟩ := hx.changedValue b
  obtain ⟨m₁, hbound, hbinds⟩ := bindName_list hitems.bound hitems.items
  refine ⟨m₁, ?_, hbinds⟩
  unfold extending at hstart hvalue ⊢
  have hright : E.next.eval scope (trim e) (m.charged ⟨assigning x .addAssign e, indent, number⟩) =
      .ok (.list b) m' := by
    rw [← hvalue]
    exact congrFun (evaluate_congr (Layout.trim_trim e) E scope) _
  have hcurrent : E.next.eval scope x.text m' = .ok (.list a) m' := hx.evaluate_name E
  have hassigned : executeAssignment E.next scope ⟨x.text, .addAssign, trim e⟩ = (do
      let v ← E.next.eval scope (trim e)
      let current ← E.next.eval scope x.text
      let changed ← Statement.changedValue .add current v
      assign E.next scope (Target.ofText x.text) changed) := rfl
  have hdone : executeAssignment E.next scope ⟨x.text, .addAssign, trim e⟩
      (m.charged ⟨assigning x .addAssign e, indent, number⟩) = .ok () m₁ := by
    rw [hassigned, Run.bind_eq, hright]
    dsimp only
    rw [Run.bind_eq, hcurrent]
    dsimp only
    rw [Run.bind_eq, hgrown, ofText_text]
    exact hbound
  rw [executeLine_assigning x rfl rfl he E.next scope indent number rest hstart, Run.bind_eq, hdone]
  rfl

theorem chainedTargets_sum (he : Passes hidden 1 e) (fuel : Nat) :
    chainedTargets fuel (sum x e) = ([], sum x e) := by
  have hnone : assignment? (sum x e) = none := by
    rw [assignment?, tokens, tokensFrom_sum x he]
    rfl
  cases fuel with
  | zero => rfl
  | succ fuel => rw [chainedTargets, hnone]

/-- The one target is bound to the value of the sum. -/
theorem executeAssignment_sum (he : Passes hidden 1 e) :
    executeAssignment E scope ⟨x.text, .assign, sum x e⟩ = (do
      let v ← E.eval scope (sum x e)
      assign E scope (.name (name x)) v) := by
  have hplain : executeAssignment E scope ⟨x.text, .assign, sum x e⟩ = (do
      let v ← E.eval scope (chainedTargets (sum x e).length (sum x e)).2
      (x.text :: (chainedTargets (sum x e).length (sum x e)).1).forM fun target =>
        assign E scope (Target.ofText target) v) := rfl
  rw [hplain, chainedTargets_sum he, ← ofText_text]
  exact bind_congr fun v => bind_pure_unit

theorem eval_sum (he : Passes hidden 1 e) (hm : Binds m scope x a xs)
    (hvalue : Expression.evaluate E scope e m = .ok (.list b) m') :
    E.next.next.next.eval scope (sum x e) m = Run.operate .add (.list a) (.list b) m' := by
  have hvalues : E.next.next.next.eval scope (sum x e) = (do
      let v ← Expression.evaluate E.next scope x.text
      let w ← Expression.evaluate E scope e
      Run.operate .add v w) := evaluate_sum x he E.next scope
  rw [hvalues, Run.bind_eq, hm.evaluate_name E.next]
  dsimp only
  rw [Run.bind_eq, hvalue]

theorem executeLine_reassigning (he : Passes hidden 1 e)
    (hstart : (m.charged (reassigning x e indent number)).refusal? = none)
    (hm : Binds (m.charged (reassigning x e indent number)) scope x a xs)
    (hvalue : Expression.evaluate E scope e (m.charged (reassigning x e indent number)) =
      .ok (.list b) m')
    (hx : Binds m' scope x a xs) :
    (xs.size + (m'.store.items b).size ≤ maxSequence →
      ∃ m₂ ref, executeLine E.next.next.next scope (reassigning x e indent number) rest m =
          .ok (0, .normal) m₂ ∧ Binds m₂ scope x ref (xs ++ m'.store.items b)) ∧
    (maxSequence < xs.size + (m'.store.items b).size →
      executeLine E.next.next.next scope (reassigning x e indent number) rest m =
        .error (.failed (Failure.tooLarge.locate number
          (String.ofList (reassigning x e indent number).text))) m') := by
  have htrim : trim (sum x e) = sum x e := (plain_sum x he).trim_eq
  have hne : trim (sum x e) ≠ [] := by
    rw [htrim]
    exact (plain_sum x he).ne_nil
  unfold reassigning at hstart hvalue hm ⊢
  rw [executeLine_assigning x rfl rfl hne _ scope indent number rest hstart, htrim, Run.bind_eq,
    executeAssignment_sum he, Run.bind_eq, eval_sum he hm hvalue, hx.operate b]
  constructor
  · intro hsize
    have hnew : (m'.store.lists.push (xs ++ m'.store.items b))[m'.store.lists.size]? =
        some (xs ++ m'.store.items b) := Array.getElem?_push_size
    obtain ⟨m₂, hbound, hbinds⟩ := bindName_list (m :=
      { m' with store := { m'.store with lists := m'.store.lists.push (xs ++ m'.store.items b) } })
      hx.bound hnew
    refine ⟨m₂, _, ?_, hbinds⟩
    rw [if_neg (by omega)]
    have hlist : Run.newList (xs ++ m'.store.items b) m' = .ok (.list m'.store.lists.size)
        { m' with store := { m'.store with lists := m'.store.lists.push (xs ++ m'.store.items b) } } :=
      rfl
    have hassign : assign E.next.next.next scope (.name (name x)) (.list m'.store.lists.size) =
        Run.bindName scope (name x) (.list m'.store.lists.size) := rfl
    rw [hlist]
    dsimp only
    rw [hassign, hbound]
    rfl
  · intro hsize
    rw [if_pos (by omega)]
    rfl

end Statements

theorem trim_ne_nil_of_evaluate {E : Engine} {scope b : Nat} {e : List Char} {m m' : Machine}
    (h : Expression.evaluate E scope e m = .ok (.list b) m') : trim e ≠ [] := by
  intro hnil
  have hnone : Expression.evaluate E scope e m = .ok .none m := by
    unfold Expression.evaluate
    rw [hnil]
    rfl
  rw [hnone] at h
  cases h

/-- **Extending a list.** Where `x` is bound to a list and `e`, which closes what it opens, is
evaluated to a list and leaves `x` and its items alone, `x += e` and `x = x + (e)` both succeed and
leave `x` with the same items if these are not too many. If they are, the sum is refused and `x`
keeps its items, but the list is extended all the same. -/
theorem extension_agrees_within_limit {x : Identifier} {e : List Char} (he : Passes hidden 1 e)
    {scope indent number n a b : Nat} {m m' : Machine} {xs : Array Value}
    (hstart : (m.charged (extending x e indent number)).refusal? = none)
    (hm : Binds m scope x a xs)
    (hvalue : ∀ bottom : Engine, Expression.evaluate (bottom.over n) scope e
      (m.charged (extending x e indent number)) = .ok (.list b) m')
    (hx : Binds m' scope x a xs) (bottom : Engine) (rest : List Line) :
    (xs.size + (m'.store.items b).size ≤ maxSequence →
      ∃ m₁ m₂ ref,
        executeLine (bottom.over (n + 3)) scope (extending x e indent number) rest m =
          .ok (0, .normal) m₁ ∧
        executeLine (bottom.over (n + 3)) scope (reassigning x e indent number) rest m =
          .ok (0, .normal) m₂ ∧
        Binds m₁ scope x a (xs ++ m'.store.items b) ∧
        Binds m₂ scope x ref (xs ++ m'.store.items b)) ∧
    (maxSequence < xs.size + (m'.store.items b).size →
      ∃ m₁ m₂,
        executeLine (bottom.over (n + 3)) scope (extending x e indent number) rest m =
          .ok (0, .normal) m₁ ∧
        executeLine (bottom.over (n + 3)) scope (reassigning x e indent number) rest m =
          .error (.failed (Failure.tooLarge.locate number
            (String.ofList (reassigning x e indent number).text))) m₂ ∧
        Binds m₁ scope x a (xs ++ m'.store.items b) ∧ Binds m₂ scope x a xs) := by
  have hdeep : bottom.over (n + 2) = (bottom.over 2).over n := by
    rw [Nat.add_comm, Engine.over_add]
  have hupper : Expression.evaluate (bottom.over (n + 2)) scope e
      (m.charged (extending x e indent number)) = .ok (.list b) m' := by
    rw [hdeep]
    exact hvalue _
  obtain ⟨m₁, hextended, hitems⟩ := executeLine_extending rest
    (trim_ne_nil_of_evaluate hupper) hstart hupper hx
  obtain ⟨hfits, hlarge⟩ := executeLine_reassigning (E := bottom.over n) rest he hstart
    ⟨hm.bound, hm.items⟩ (hvalue bottom) hx
  refine ⟨fun hsize => ?_, fun hsize => ?_⟩
  · obtain ⟨m₂, ref, hassigned, hnew⟩ := hfits hsize
    exact ⟨m₁, m₂, ref, hextended, hassigned, hitems, hnew⟩
  · exact ⟨m₁, m', hextended, hlarge hsize, hitems, hx⟩

/-- The name `x`. -/
def nameX : Identifier := ⟨['x'], by decide, by decide⟩

/-- A machine on which `x` is bound to a list with these items. -/
def holding (xs : Array Value) : Machine :=
  { store := { lists := #[xs], scopes := #[[("x", .list 0)]] } }

theorem binds_holding (xs : Array Value) : Binds (holding xs) 0 nameX 0 xs := ⟨rfl, rfl⟩

/-- The limits are far from being reached, whatever the items are. -/
theorem refusal?_holding (xs : Array Value) :
    ((holding xs).charged (extending nameX ['x'] 0 1)).refusal? = none :=
  by
  have htime : ¬Clock.Expired {} ({} : Limits).maxTime 1 := by decide
  have hsteps : 0 + 1 ≤ 100000 := by decide
  exact Machine.refusal?_eq_none rfl htime hsteps

/-- Both statements double a list with one item. -/
theorem extension_agrees_within_limit_one :
    ∃ m₁ m₂ ref,
      executeLine (Engine.level 3) 0 ⟨"x += x".toList, 0, 1⟩ [] (holding #[.int 7]) =
        .ok (0, .normal) m₁ ∧
      executeLine (Engine.level 3) 0 ⟨"x = x + (x)".toList, 0, 1⟩ [] (holding #[.int 7]) =
        .ok (0, .normal) m₂ ∧
      Binds m₁ 0 nameX 0 #[.int 7, .int 7] ∧ Binds m₂ 0 nameX ref #[.int 7, .int 7] := by
  let m' := (holding #[.int 7]).charged (extending nameX ['x'] 0 1)
  have hx : Binds m' 0 nameX 0 #[.int 7] := ⟨rfl, rfl⟩
  exact (extension_agrees_within_limit (n := 0) (b := 0) ⟨rfl, rfl⟩ (refusal?_holding _)
    (binds_holding _) (fun bottom => hx.evaluate_name bottom) hx Engine.exhausted []).1 (by decide)

/-- Both statements would double a list with 60000 items; one does, the other fails. -/
theorem extension_beyond_limit :
    ∃ m₁ m₂ f,
      executeLine (Engine.level 3) 0 ⟨"x += x".toList, 0, 1⟩ []
        (holding (Array.replicate 60000 (.int 0))) = .ok (0, .normal) m₁ ∧
      Binds m₁ 0 nameX 0 (Array.replicate 120000 (.int 0)) ∧
      executeLine (Engine.level 3) 0 ⟨"x = x + (x)".toList, 0, 1⟩ []
        (holding (Array.replicate 60000 (.int 0))) = .error (.failed f) m₂ ∧
      f.kind = "MemoryError" ∧ Binds m₂ 0 nameX 0 (Array.replicate 60000 (.int 0)) := by
  generalize hxs : Array.replicate 60000 (Value.int 0) = xs
  let m' := (holding xs).charged (extending nameX ['x'] 0 1)
  have hx : Binds m' 0 nameX 0 xs := ⟨rfl, rfl⟩
  have hstart : m'.refusal? = none := refusal?_holding xs
  have hitems : m'.store.items 0 = xs := rfl
  have hsize : maxSequence < xs.size + (m'.store.items 0).size := by
    rw [hitems, ← hxs, Array.size_replicate]
    decide
  obtain ⟨m₁, hextended, hdoubled⟩ := executeLine_extending (E := Engine.level 2) []
    (by decide) hstart (hx.evaluate_name _) hx
  obtain ⟨-, hlarge⟩ := executeLine_reassigning (E := Engine.level 0) [] (e := ['x']) (b := 0)
    ⟨rfl, rfl⟩ hstart hx (hx.evaluate_name _) hx
  have hdouble : xs ++ xs = Array.replicate 120000 (.int 0) := by
    rw [← hxs, Array.replicate_append_replicate]
  rw [hitems, hdouble] at hdoubled
  exact ⟨m₁, m', _, hextended, hdoubled, hlarge hsize, Failure.kind_locate _ _ _, hx⟩

end SnippetGrader.Operation
