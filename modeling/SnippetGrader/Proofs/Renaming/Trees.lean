import SnippetGrader.Proofs.Outcome
import SnippetGrader.Proofs.Renaming.Values
import SnippetGrader.Proofs.Rendering.Tree

/-!
# What a tree stands for in a store that has grown

A tree makes lists and results that are no numbers and changes nothing else (`Machine.Grows`). In a
machine whose things stand at other places it stands for the same value, up to these places
(`Tree.denote_alike`).
-/

namespace SnippetGrader

open Rendering

/-! ## Machines that grow -/

/-- A machine with further lists and with more results that are no numbers. -/
def Machine.grown (m : Machine) (lists : Array (Array Value)) (nans : Nat) : Machine :=
  { m with store := { m.store with lists := m.store.lists ++ lists, nans := m.store.nans + nans } }

/-- Nothing but lists and results that are no numbers was made. -/
def Machine.Grows (m m' : Machine) : Prop := ∃ lists nans, m' = m.grown lists nans

namespace Machine.Grows

variable {m m' m'' : Machine}

theorem refl (m : Machine) : m.Grows m :=
  ⟨#[], 0, by simp only [grown, Array.append_empty, Nat.add_zero]⟩

theorem trans (h : m.Grows m') (h' : m'.Grows m'') : m.Grows m'' := by
  obtain ⟨lists, nans, rfl⟩ := h
  obtain ⟨lists', nans', rfl⟩ := h'
  exact ⟨lists ++ lists', nans + nans', by
    simp only [grown, Array.append_assoc, Nat.add_assoc]⟩

theorem push (m : Machine) (xs : Array Value) :
    m.Grows { m with store := { m.store with lists := m.store.lists.push xs } } :=
  ⟨#[xs], 0, by simp only [grown, Array.push_eq_append, Nat.add_zero]⟩

theorem newNan (m : Machine) :
    m.Grows { m with store := { m.store with nans := m.store.nans + 1 } } :=
  ⟨#[], 1, by simp only [grown, Array.append_empty]⟩

theorem scopes (h : m.Grows m') : m'.store.scopes = m.store.scopes := by
  obtain ⟨lists, nans, rfl⟩ := h
  rfl

end Machine.Grows

/-! ## Values of a store -/

/-- What a value refers to is in the store. -/
def Value.Within (s : Store) : Value → Prop
  | .list ref => ref < s.lists.size
  | .function ref => ref < s.functions.size
  | .nan ref => ref < s.nans
  | _ => True

theorem Value.IsBare.within {v : Value} (h : v.IsBare) (s : Store) : v.Within s := by
  cases v with
  | list ref | function ref | nan ref => exact absurd h id
  | _ => trivial

namespace Store

/-- What the items of lists refer to is in the store. -/
def Closed (s : Store) : Prop := ∀ ref, ∀ v ∈ s.items ref, v.Within s

/-- `s'` is `s` with more things. -/
structure Extends (s s' : Store) : Prop where
  lists : ∃ more, s'.lists = s.lists ++ more
  functions : ∃ more, s'.functions = s.functions ++ more
  nans : s.nans ≤ s'.nans
  objects : s'.objects = s.objects
  templates : s'.templates = s.templates
  host : s'.host = s.host

namespace Extends

variable {s s' s'' : Store}

theorem refl (s : Store) : s.Extends s :=
  ⟨⟨#[], Array.append_empty.symm⟩, ⟨#[], Array.append_empty.symm⟩, Nat.le_refl _, rfl, rfl, rfl⟩

theorem trans (h : s.Extends s') (h' : s'.Extends s'') : s.Extends s'' := by
  obtain ⟨lists, hlists⟩ := h.lists
  obtain ⟨lists', hlists'⟩ := h'.lists
  obtain ⟨functions, hfunctions⟩ := h.functions
  obtain ⟨functions', hfunctions'⟩ := h'.functions
  exact ⟨⟨lists ++ lists', by rw [hlists', hlists, Array.append_assoc]⟩,
    ⟨functions ++ functions', by rw [hfunctions', hfunctions, Array.append_assoc]⟩,
    Nat.le_trans h.nans h'.nans, h'.objects.trans h.objects, h'.templates.trans h.templates,
    h'.host.trans h.host⟩

theorem size_lists (h : s.Extends s') : s.lists.size ≤ s'.lists.size := by
  obtain ⟨more, hmore⟩ := h.lists
  rw [hmore, Array.size_append]
  exact Nat.le_add_right _ _

theorem size_functions (h : s.Extends s') : s.functions.size ≤ s'.functions.size := by
  obtain ⟨more, hmore⟩ := h.functions
  rw [hmore, Array.size_append]
  exact Nat.le_add_right _ _

theorem items (h : s.Extends s') {ref : Nat} (href : ref < s.lists.size) :
    s'.items ref = s.items ref := by
  obtain ⟨more, hmore⟩ := h.lists
  rw [Store.items, Store.items, hmore, Array.getElem?_append_left href]

theorem within (h : s.Extends s') {v : Value} (hv : v.Within s) : v.Within s' := by
  cases v with
  | list ref => exact Nat.lt_of_lt_of_le hv h.size_lists
  | function ref => exact Nat.lt_of_lt_of_le hv h.size_functions
  | nan ref => exact Nat.lt_of_lt_of_le hv h.nans
  | _ => trivial

end Extends

end Store

theorem Machine.Grows.extends {m m' : Machine} (h : m.Grows m') : m.store.Extends m'.store := by
  obtain ⟨lists, nans, rfl⟩ := h
  exact ⟨⟨lists, rfl⟩, ⟨#[], Array.append_empty.symm⟩, Nat.le_add_right _ _, rfl, rfl, rfl⟩

theorem Store.Closed.push {s : Store} (h : s.Closed) {xs : Array Value} (hxs : ∀ v ∈ xs, v.Within s) :
    { s with lists := s.lists.push xs }.Closed := by
  have hextends : s.Extends { s with lists := s.lists.push xs } :=
    ⟨⟨#[xs], Array.push_eq_append⟩, ⟨#[], Array.append_empty.symm⟩, Nat.le_refl _, rfl, rfl, rfl⟩
  intro ref v hv
  by_cases href : ref = s.lists.size
  · rw [items, href, Array.getElem?_push_size] at hv
    exact hextends.within (hxs v hv)
  · rw [items, Array.getElem?_push, if_neg href] at hv
    exact hextends.within (h ref v hv)

theorem Store.Closed.newNan {s : Store} (h : s.Closed) : { s with nans := s.nans + 1 }.Closed := by
  have hextends : s.Extends { s with nans := s.nans + 1 } :=
    ⟨⟨#[], Array.append_empty.symm⟩, ⟨#[], Array.append_empty.symm⟩, Nat.le_succ _, rfl, rfl, rfl⟩
  exact fun ref v hv => hextends.within (h ref v hv)

/-! ## Moving things up -/

/-- Places from `old` on are moved up to make room for `more` things. -/
def movedUp (old more place : Nat) : Nat := if place < old then place else place + more

theorem movedUp_injective (old more : Nat) : Function.Injective (movedUp old more) := by
  intro a b h
  unfold movedUp at h
  split at h <;> split at h <;> omega

/-- The things that are made next come after those of a store that has grown. -/
def Renaming.moving (s s' : Store) : Renaming where
  lists := movedUp s.lists.size (s'.lists.size - s.lists.size)
  functions := movedUp s.functions.size (s'.functions.size - s.functions.size)
  nans := movedUp s.nans (s'.nans - s.nans)
  lists_injective := movedUp_injective _ _
  functions_injective := movedUp_injective _ _
  nans_injective := movedUp_injective _ _

theorem Value.rename_moving {s s' : Store} {v : Value} (h : v.Within s) :
    v.rename (.moving s s') = v := by
  cases v with
  | list ref => exact congrArg list (if_pos h)
  | function ref => exact congrArg function (if_pos h)
  | nan ref => exact congrArg nan (if_pos h)
  | _ => rfl

/-- A value that is moved to a thing of the old store was there already. -/
theorem Value.within_of_moving {s s' : Store} {v : Value} (h : (v.rename (.moving s s')).Within s) :
    v.Within s := by
  have hplace {old more place : Nat} (h : movedUp old more place < old) : place < old := by
    unfold movedUp at h
    split at h <;> omega
  cases v with
  | list ref | function ref | nan ref => exact hplace h
  | _ => trivial

/-- A store that has grown holds what it held, and has room for what comes next. -/
theorem Store.Extends.renames {s s' : Store} (h : s.Extends s') (hs : s.Closed) :
    s.Renames (.moving s s') s' where
  items ref := by
    by_cases href : ref < s.lists.size
    · have hplace : (Renaming.moving s s').lists ref = ref := if_pos href
      rw [hplace, h.items href]
      refine (Array.ext_getElem? fun i => ?_).symm
      rw [Array.getElem?_map]
      cases hv : (s.items ref)[i]? with
      | none => rfl
      | some v => exact congrArg some (Value.rename_moving (hs ref v (Array.mem_of_getElem? hv)))
    · have hsize := h.size_lists
      have hplace : (Renaming.moving s s').lists ref = ref + (s'.lists.size - s.lists.size) :=
        if_neg href
      have hnew : s'.lists.size ≤ ref + (s'.lists.size - s.lists.size) := by omega
      rw [hplace, Store.items, Store.items, Array.getElem?_eq_none (Nat.le_of_not_lt href),
        Array.getElem?_eq_none hnew]
      exact Array.map_empty.symm
  list k := by
    have hsize := h.size_lists
    change movedUp _ _ _ = _
    rw [movedUp, if_neg (by omega)]
    omega
  nan k := by
    have hsize := h.nans
    change movedUp _ _ _ = _
    rw [movedUp, if_neg (by omega)]
    omega
  functions ref := by
    obtain ⟨more, hmore⟩ := h.functions
    by_cases href : ref < s.functions.size
    · have hplace : (Renaming.moving s s').functions ref = ref := if_pos href
      rw [hplace, hmore, Array.getElem?_append_left href]
    · have hsize := h.size_functions
      have hplace : (Renaming.moving s s').functions ref =
          ref + (s'.functions.size - s.functions.size) := if_neg href
      have hnew : s'.functions.size ≤ ref + (s'.functions.size - s.functions.size) := by omega
      rw [hplace, Array.getElem?_eq_none (Nat.le_of_not_lt href), Array.getElem?_eq_none hnew]
  objects := h.objects
  templates := h.templates
  host := h.host

/-! ## Outcomes -/

/-- What the items of lists and the names of a scope refer to is in the store. A machine that a
program reaches is closed in each of its scopes (`Machine.Sound.isClosed`). -/
structure Machine.IsClosed (scope : Nat) (m : Machine) : Prop where
  items : m.store.Closed
  names : ∀ n v, (m.store.scope scope).get? n = some v → v.Within m.store

/-- In one scope of `m` and one of `m'`, names are bound to the same things at their two places. -/
structure Machine.Renames (ρ : Renaming) (scope scope' : Nat) (m m' : Machine) : Prop where
  store : m.store.Renames ρ m'.store
  names : ∀ n, (m'.store.scope scope').get? n = ((m.store.scope scope).get? n).map (Value.rename ρ)
  closed : m.IsClosed scope

/-- A machine that has more things than a closed one, and the same names in a scope of it. -/
theorem Machine.IsClosed.renames {scope scope' : Nat} {m m' : Machine} (hm : m.IsClosed scope)
    (h : m.store.Extends m'.store)
    (hnames : ∀ n, (m'.store.scope scope').get? n = (m.store.scope scope).get? n) :
    m.Renames (.moving m.store m'.store) scope scope' m' where
  store := h.renames hm.items
  names n := by
    rw [hnames]
    cases hv : (m.store.scope scope).get? n with
    | none => rfl
    | some v => exact congrArg some (Value.rename_moving (hm.names n v hv)).symm
  closed := hm

/-- Two outcomes after `m` and `m'`: both stop for one reason, or their results are related and the
machines have grown alike. -/
inductive OutcomeRenamed {α : Type} (ρ : Renaming) (scope scope' : Nat) (m m' : Machine)
    (Q : Store → α → α → Prop) : Outcome α → Outcome α → Prop
  | ok {a a' : α} {m₁ m₁' : Machine} (hm : m₁.Renames ρ scope scope' m₁') (h : m.Grows m₁)
      (h' : m'.Grows m₁') (ha : Q m₁.store a a') :
      OutcomeRenamed ρ scope scope' m m' Q (.ok a m₁) (.ok a' m₁')
  | error {stop : Stop} {m₁ m₁' : Machine} (h : m.Grows m₁) (h' : m'.Grows m₁') :
      OutcomeRenamed ρ scope scope' m m' Q (.error stop m₁) (.error stop m₁')

/-- A value of a store and the same value at its other place. -/
def Value.Renamed (ρ : Renaming) (s : Store) (v v' : Value) : Prop :=
  v.Within s ∧ v' = v.rename ρ

def Value.AllRenamed (ρ : Renaming) (s : Store) (vs vs' : List Value) : Prop :=
  (∀ v ∈ vs, v.Within s) ∧ vs' = vs.map (Value.rename ρ)

/-- The same result twice. -/
def Same {α : Type} (_ : Store) (a a' : α) : Prop := a' = a

namespace OutcomeRenamed

variable {ρ : Renaming} {scope scope' : Nat} {m m' : Machine} {α β : Type}
  {Q : Store → α → α → Prop} {P : Store → β → β → Prop}

theorem pure (hm : m.Renames ρ scope scope' m') {a a' : α} (ha : Q m.store a a') :
    OutcomeRenamed ρ scope scope' m m' Q ((Pure.pure a : Run α) m) ((Pure.pure a' : Run α) m') :=
  .ok hm (.refl m) (.refl m') ha

theorem fail (f : Failure) :
    OutcomeRenamed ρ scope scope' m m' Q (Run.fail f m) (Run.fail f m') :=
  .error (.refl m) (.refl m')

theorem ofExcept (hm : m.Renames ρ scope scope' m') (r : Except Failure α)
    (h : ∀ a, r = .ok a → Q m.store a a) :
    OutcomeRenamed ρ scope scope' m m' Q (Run.ofExcept r m) (Run.ofExcept r m') := by
  cases r with
  | ok a => exact pure hm (h a rfl)
  | error f => exact fail f

theorem ofStop (hm : m.Renames ρ scope scope' m') (r : Except Stop α) :
    OutcomeRenamed ρ scope scope' m m' Same (Run.ofStop r m) (Run.ofStop r m') := by
  cases r with
  | ok a => exact .ok hm (.refl m) (.refl m') rfl
  | error stop => exact .error (.refl m) (.refl m')

theorem bind {x x' : Run α} {f f' : α → Run β}
    (hx : OutcomeRenamed ρ scope scope' m m' Q (x m) (x' m'))
    (hf : ∀ a a' m₁ m₁', m₁.Renames ρ scope scope' m₁' → m.Grows m₁ → Q m₁.store a a' →
      OutcomeRenamed ρ scope scope' m₁ m₁' P (f a m₁) (f' a' m₁')) :
    OutcomeRenamed ρ scope scope' m m' P ((x >>= f) m) ((x' >>= f') m') := by
  rw [Run.bind_eq, Run.bind_eq]
  generalize x m = r at hx
  generalize x' m' = r' at hx
  cases hx with
  | error h h' => exact .error h h'
  | ok hm h h' ha =>
    have hrest := hf _ _ _ _ hm h ha
    dsimp only
    generalize f _ _ = r at hrest
    generalize f' _ _ = r' at hrest
    cases hrest with
    | ok hm₂ h₂ h₂' hb => exact .ok hm₂ (h.trans h₂) (h'.trans h₂') hb
    | error h₂ h₂' => exact .error (h.trans h₂) (h'.trans h₂')

theorem newList (hm : m.Renames ρ scope scope' m') {xs : Array Value}
    (hxs : ∀ v ∈ xs, v.Within m.store) :
    OutcomeRenamed ρ scope scope' m m' (Value.Renamed ρ) (Run.newList xs m)
      (Run.newList (xs.map (Value.rename ρ)) m') := by
  refine .ok ⟨hm.store.push xs, hm.names, hm.closed.items.push hxs, fun n v hv => ?_⟩
    (.push m xs) (.push m' _) ⟨?_, ?_⟩
  · exact (Machine.Grows.push m xs).extends.within (hm.closed.names n v hv)
  · change m.store.lists.size < (m.store.lists.push xs).size
    rw [Array.size_push]
    exact Nat.lt_succ_self _
  · exact congrArg Value.list (hm.store.list 0).symm

theorem newNan (hm : m.Renames ρ scope scope' m') :
    OutcomeRenamed ρ scope scope' m m' (Value.Renamed ρ) (Run.newNan m) (Run.newNan m') := by
  refine .ok ⟨hm.store.newNan, hm.names, hm.closed.items.newNan, fun n v hv => ?_⟩
    (.newNan m) (.newNan m') ⟨Nat.lt_succ_self _, ?_⟩
  · exact (Machine.Grows.newNan m).extends.within (hm.closed.names n v hv)
  · exact congrArg Value.nan (hm.store.nan 0).symm

/-- What was just computed refers to nothing, unless it is no number. -/
theorem fresh (hm : m.Renames ρ scope scope' m') {v : Value} (hv : v.IsBare) :
    OutcomeRenamed ρ scope scope' m m' (Value.Renamed ρ) (Run.fresh v m) (Run.fresh v m') := by
  have hsame : Value.Renamed ρ m.store v v := ⟨hv.within _, hv.rename.symm⟩
  cases v with
  | float x =>
    simp only [Run.fresh]
    split
    · exact newNan hm
    · exact pure hm hsame
  | _ => exact pure hm hsame

theorem truthy (hm : m.Renames ρ scope scope' m') (v : Value) :
    OutcomeRenamed ρ scope scope' m m' Same (Run.truthy v m) (Run.truthy (v.rename ρ) m') :=
  .ok hm (.refl m) (.refl m') (Value.truthy_rename hm.store v)

theorem display (hm : m.Renames ρ scope scope' m') (v : Value) :
    OutcomeRenamed ρ scope scope' m m' Same (Run.display v m) (Run.display (v.rename ρ) m') := by
  have htext := Value.displayText_rename hm.store v
  change OutcomeRenamed ρ scope scope' m m' Same (Run.ofStop (v.displayText m.store) m)
    (Run.ofStop ((v.rename ρ).displayText m'.store) m')
  rw [htext]
  exact ofStop hm _

theorem compareBy (hm : m.Renames ρ scope scope' m') (c : Value.Comparison) (v w : Value) :
    OutcomeRenamed ρ scope scope' m m' Same (Run.compareBy c v w m)
      (Run.compareBy c (v.rename ρ) (w.rename ρ) m') := by
  have hsame := Value.compareBy_rename hm.store c v w
  change OutcomeRenamed ρ scope scope' m m' Same (Run.ofExcept (v.compareBy m.store c w) m)
    (Run.ofExcept ((v.rename ρ).compareBy m'.store c (w.rename ρ)) m')
  rw [hsame]
  exact ofExcept hm _ fun _ _ => rfl

/-- An operand is the same number at both places. -/
theorem operand (hm : m.Renames ρ scope scope' m') (op : String) (v : Value)
    {f f' : Num → Run β} (hf : ∀ n, OutcomeRenamed ρ scope scope' m m' P (f n m) (f' n m')) :
    OutcomeRenamed ρ scope scope' m m' P
      ((Run.ofExcept (SnippetGrader.operand m.store op v) >>= f) m)
      ((Run.ofExcept (SnippetGrader.operand m'.store op (v.rename ρ)) >>= f') m') := by
  rw [operand_rename hm.store]
  cases SnippetGrader.operand m.store op v with
  | ok n => exact hf n
  | error f => exact fail f

/-! ## Operators -/

theorem arithmetic (hm : m.Renames ρ scope scope' m') (op : Operator) (v w : Value) :
    OutcomeRenamed ρ scope scope' m m' (Value.Renamed ρ)
      ((do
        let s ← Run.store
        let a ← Run.ofExcept (SnippetGrader.operand s op.text v)
        let b ← Run.ofExcept (SnippetGrader.operand s op.text w)
        Run.computed (op.onNumbers a b) : Run Value) m)
      ((do
        let s ← Run.store
        let a ← Run.ofExcept (SnippetGrader.operand s op.text (v.rename ρ))
        let b ← Run.ofExcept (SnippetGrader.operand s op.text (w.rename ρ))
        Run.computed (op.onNumbers a b) : Run Value) m') := by
  refine operand hm op.text v fun a => operand hm op.text w fun b => ?_
  change OutcomeRenamed ρ scope scope' m m' (Value.Renamed ρ)
    ((Run.ofExcept (op.onNumbers a b) >>= Run.fresh) m)
    ((Run.ofExcept (op.onNumbers a b) >>= Run.fresh) m')
  cases hv : op.onNumbers a b with
  | error f => exact fail f
  | ok v => exact fresh hm (Operator.onNumbers_isBare hv)

theorem map_repeatItems (xs : Array Value) (count : Nat) :
    repeatItems (xs.map (Value.rename ρ)) count = (repeatItems xs count).map (Value.rename ρ) := by
  induction count with
  | zero => exact Array.map_empty.symm
  | succ count ih => rw [repeatItems, repeatItems, ih, Array.map_append]

theorem mem_repeatItems {xs : Array Value} {count : Nat} {v : Value}
    (h : v ∈ repeatItems xs count) : v ∈ xs := by
  induction count with
  | zero => exact absurd h (Array.not_mem_empty v)
  | succ count ih => exact (Array.mem_append.1 h).elim ih id

theorem repeatSequence (hm : m.Renames ρ scope scope' m') {v : Value} (hv : v.Within m.store)
    (count : Int) :
    OutcomeRenamed ρ scope scope' m m' (Value.Renamed ρ) (Run.repeatSequence v count m)
      (Run.repeatSequence (v.rename ρ) count m') := by
  cases v with
  | list ref =>
    change OutcomeRenamed ρ scope scope' m m' (Value.Renamed ρ)
      ((Run.ofExcept (repetitions (m.store.items ref).size count) >>= fun n =>
        Run.newList (repeatItems (m.store.items ref) n)) m)
      ((Run.ofExcept (repetitions (m'.store.items (ρ.lists ref)).size count) >>= fun n =>
        Run.newList (repeatItems (m'.store.items (ρ.lists ref)) n)) m')
    rw [hm.store.items, Array.size_map]
    cases repetitions (m.store.items ref).size count with
    | error f => exact fail f
    | ok n =>
      have hitems : ∀ v ∈ repeatItems (m.store.items ref) n, v.Within m.store := fun v hv =>
        hm.closed.items ref v (mem_repeatItems hv)
      have hlist := newList hm hitems
      rw [← map_repeatItems] at hlist
      exact hlist
  | str t =>
    simp only [Run.repeatSequence, Value.rename]
    cases repetitions t.length count with
    | error f => exact fail f
    | ok n => exact pure hm ⟨trivial, rfl⟩
  | _ => exact pure hm ⟨hv, rfl⟩

/-- A text in front of something. -/
theorem joined (hm : m.Renames ρ scope scope' m') (a : String) (w : Value) :
    OutcomeRenamed ρ scope scope' m m' (Value.Renamed ρ) (Run.operate .add (.str a) w m)
      (Run.operate .add (.str a) (w.rename ρ) m') := by
  refine bind (display hm w) fun b b' m₁ m₁' hm₁ _ hb => ?_
  cases hb
  dsimp only
  split
  · exact fail _
  · exact pure hm₁ ⟨trivial, rfl⟩

theorem concatenated (hm : m.Renames ρ scope scope' m') (a b : Nat) :
    OutcomeRenamed ρ scope scope' m m' (Value.Renamed ρ) (Run.operate .add (.list a) (.list b) m)
      (Run.operate .add (.list (ρ.lists a)) (.list (ρ.lists b)) m') := by
  change OutcomeRenamed ρ scope scope' m m' (Value.Renamed ρ)
    ((if (m.store.items a).size + (m.store.items b).size > maxSequence then Run.fail .tooLarge
      else Run.newList (m.store.items a ++ m.store.items b)) m)
    ((if (m'.store.items (ρ.lists a)).size + (m'.store.items (ρ.lists b)).size > maxSequence then
        Run.fail .tooLarge
      else Run.newList (m'.store.items (ρ.lists a) ++ m'.store.items (ρ.lists b))) m')
  rw [hm.store.items, hm.store.items, Array.size_map, Array.size_map, ← Array.map_append]
  split
  · exact fail _
  · refine newList hm fun v hv => ?_
    obtain hv | hv := Array.mem_append.1 hv
    · exact hm.closed.items a v hv
    · exact hm.closed.items b v hv

theorem operate (hm : m.Renames ρ scope scope' m') (op : Operator) {v w : Value}
    (hv : v.Within m.store) (hw : w.Within m.store) :
    OutcomeRenamed ρ scope scope' m m' (Value.Renamed ρ) (Run.operate op v w m)
      (Run.operate op (v.rename ρ) (w.rename ρ) m') := by
  cases op with
  | add =>
    cases v with
    | str a => exact joined hm a w
    | list a =>
      cases w with
      | list b => exact concatenated hm a b
      | _ => exact arithmetic hm .add (.list a) _
    | _ => exact arithmetic hm .add _ w
  | mul =>
    cases w with
    | int n =>
      cases v with
      | str t | list a => exact repeatSequence hm hv n
      | _ => exact arithmetic hm .mul _ (.int n)
    | str t =>
      cases v with
      | int n => exact repeatSequence hm hw n
      | _ => exact arithmetic hm .mul _ (.str t)
    | list b =>
      cases v with
      | int n => exact repeatSequence hm hw n
      | _ => exact arithmetic hm .mul _ (.list b)
    | _ => cases v <;> exact arithmetic hm .mul _ _
  | _ => exact arithmetic hm _ v w

end OutcomeRenamed

/-! ## Trees -/

section Trees

variable {ρ : Renaming} {scope scope' : Nat}

theorem Rendering.Identifier.denote_bound (x : Identifier) {m : Machine} {v : Value}
    (h : (m.store.scope scope).get? (String.ofList x.text) = some v) :
    x.denote scope m = .ok v m := by
  have hlookup : Run.lookup? scope (String.ofList x.text) m = .ok (some v) m := by
    rw [← h]
    exact rfl
  rw [denote, Run.bind_eq, hlookup]
  exact rfl

/-- A name that is not bound stands for the same value on every machine. -/
theorem Rendering.Identifier.denote_free (x : Identifier) :
    ∃ v : Value, v.IsBare ∧ ∀ {scope : Nat} {m : Machine},
      (m.store.scope scope).get? (String.ofList x.text) = none → x.denote scope m = .ok v m := by
  have hlookup {scope : Nat} {m : Machine}
      (h : (m.store.scope scope).get? (String.ofList x.text) = none) :
      Run.lookup? scope (String.ofList x.text) m = .ok none m := by
    rw [← h]
    exact rfl
  cases hf : Builtin.ofName? (String.ofList x.text) with
  | some f =>
    refine ⟨.builtin f, trivial, fun {scope m} h => ?_⟩
    rw [denote, Run.bind_eq, hlookup h]
    simp only [hf]
    exact rfl
  | none =>
    refine ⟨.str (String.ofList x.text), trivial, fun {scope m} h => ?_⟩
    rw [denote, Run.bind_eq, hlookup h]
    simp only [hf]
    exact rfl

theorem Rendering.Identifier.denote_renamed (x : Identifier) {m m' : Machine}
    (hm : m.Renames ρ scope scope' m') :
    OutcomeRenamed ρ scope scope' m m' (Value.Renamed ρ) (x.denote scope m)
      (x.denote scope' m') := by
  have hname := hm.names (String.ofList x.text)
  cases hv : (m.store.scope scope).get? (String.ofList x.text) with
  | some v =>
    rw [hv] at hname
    rw [x.denote_bound hv, x.denote_bound hname]
    exact .ok hm (.refl m) (.refl m') ⟨hm.closed.names _ v hv, rfl⟩
  | none =>
    rw [hv] at hname
    obtain ⟨v, hbare, hfree⟩ := x.denote_free
    rw [hfree hv, hfree hname]
    exact .ok hm (.refl m) (.refl m') ⟨hbare.within m.store, hbare.rename.symm⟩

namespace Rendering.Tree

mutual

/-- A tree stands for the same value where all things stand at other places, and for a value of the
store. -/
theorem denote_renamed : (t : Tree) → {m m' : Machine} → m.Renames ρ scope scope' m' →
    OutcomeRenamed ρ scope scope' m m' (Value.Renamed ρ) (t.denote scope m) (t.denote scope' m')
  | number n, m, m', hm => by
    simp only [denote]
    rw [map_eq_pure_bind]
    refine .bind (Q := Same) (.ofExcept hm _ fun _ _ => rfl) fun a a' m₁ m₁' hm₁ _ ha => ?_
    cases ha
    exact .pure hm₁ ⟨trivial, rfl⟩
  | name x, m, m', hm => by
    simp only [denote]
    exact x.denote_renamed hm
  | list items, m, m', hm => by
    simp only [denote]
    refine .bind (denoteAll_renamed items hm) fun vs vs' m₁ m₁' hm₁ _ hvs => ?_
    obtain ⟨hwithin, rfl⟩ := hvs
    have hitems : ∀ v ∈ vs.toArray, v.Within m₁.store := fun v hv =>
      hwithin v (List.mem_toArray.1 hv)
    have hlist := OutcomeRenamed.newList hm₁ hitems
    rwa [List.map_toArray] at hlist
  | group t, m, m', hm => by
    simp only [denote]
    exact denote_renamed t hm
  | minus t, m, m', hm => by
    simp only [denote]
    refine .bind (denote_renamed t hm) fun v v' m₁ m₁' hm₁ _ hv => ?_
    obtain ⟨-, rfl⟩ := hv
    refine .operand hm₁ "unary -" v fun n => ?_
    cases n with
    | int n => exact .fresh hm₁ trivial
    | float x => exact .fresh hm₁ trivial
  | arithmetic op l r, m, m', hm => by
    simp only [denote]
    refine .bind (denote_renamed l hm) fun v v' m₁ m₁' hm₁ _ hv => ?_
    refine .bind (denote_renamed r hm₁) fun w w' m₂ m₂' hm₂ hgrows hw => ?_
    obtain ⟨hv, rfl⟩ := hv
    obtain ⟨hw, rfl⟩ := hw
    exact .operate hm₂ _ (hgrows.extends.within hv) hw
  | comparison op l r, m, m', hm => by
    simp only [denote]
    refine .bind (denote_renamed l hm) fun v v' m₁ m₁' hm₁ _ hv => ?_
    refine .bind (denote_renamed r hm₁) fun w w' m₂ m₂' hm₂ _ hw => ?_
    obtain ⟨-, rfl⟩ := hv
    obtain ⟨-, rfl⟩ := hw
    refine .bind (.compareBy hm₂ _ v w) fun truth truth' m₃ m₃' hm₃ _ htruth => ?_
    cases htruth
    exact .pure hm₃ ⟨trivial, rfl⟩
  | negation t, m, m', hm => by
    simp only [denote]
    refine .bind (denote_renamed t hm) fun v v' m₁ m₁' hm₁ _ hv => ?_
    obtain ⟨-, rfl⟩ := hv
    refine .bind (.truthy hm₁ v) fun truth truth' m₂ m₂' hm₂ _ htruth => ?_
    cases htruth
    exact .pure hm₂ ⟨trivial, rfl⟩
  | junction .both l r, m, m', hm => by
    simp only [denote]
    refine .bind (denote_renamed l hm) fun v v' m₁ m₁' hm₁ _ hv => ?_
    obtain ⟨hv, rfl⟩ := hv
    refine .bind (.truthy hm₁ v) fun truth truth' m₂ m₂' hm₂ hgrows htruth => ?_
    cases htruth
    cases truth with
    | true => exact denote_renamed r hm₂
    | false => exact .pure hm₂ ⟨hgrows.extends.within hv, rfl⟩
  | junction .either l r, m, m', hm => by
    simp only [denote]
    refine .bind (denote_renamed l hm) fun v v' m₁ m₁' hm₁ _ hv => ?_
    obtain ⟨hv, rfl⟩ := hv
    refine .bind (.truthy hm₁ v) fun truth truth' m₂ m₂' hm₂ hgrows htruth => ?_
    cases htruth
    cases truth with
    | true => exact .pure hm₂ ⟨hgrows.extends.within hv, rfl⟩
    | false => exact denote_renamed r hm₂
  | conditional condition yes no, m, m', hm => by
    simp only [denote]
    refine .bind (denote_renamed condition hm) fun v v' m₁ m₁' hm₁ _ hv => ?_
    obtain ⟨-, rfl⟩ := hv
    refine .bind (.truthy hm₁ v) fun truth truth' m₂ m₂' hm₂ _ htruth => ?_
    cases htruth
    cases truth with
    | true => exact denote_renamed yes hm₂
    | false => exact denote_renamed no hm₂

theorem denoteAll_renamed : (ts : List Tree) → {m m' : Machine} → m.Renames ρ scope scope' m' →
    OutcomeRenamed ρ scope scope' m m' (Value.AllRenamed ρ) (denoteAll scope ts m)
      (denoteAll scope' ts m')
  | [], m, m', hm => by
    simp only [denoteAll]
    exact .pure hm ⟨fun v hv => absurd hv List.not_mem_nil, rfl⟩
  | t :: ts, m, m', hm => by
    simp only [denoteAll]
    refine .bind (denote_renamed t hm) fun v v' m₁ m₁' hm₁ _ hv => ?_
    refine .bind (denoteAll_renamed ts hm₁) fun vs vs' m₂ m₂' hm₂ hgrows hvs => ?_
    obtain ⟨hv, rfl⟩ := hv
    obtain ⟨hvs, rfl⟩ := hvs
    refine .pure hm₂ ⟨fun w hw => ?_, rfl⟩
    obtain rfl | hw := List.mem_cons.1 hw
    · exact hgrows.extends.within hv
    · exact hvs w hw

end

end Rendering.Tree

end Trees

end SnippetGrader
