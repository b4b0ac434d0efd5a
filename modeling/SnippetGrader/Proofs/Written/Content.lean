import Mathlib.Data.List.Forall2
import SnippetGrader.Proofs.Outcome

/-!
# The content of plain values

A value without functions, objects and fractions is a tree of constants, whole numbers, texts and
lists: its `Content`. `Content.Holds` says that a value of a store has a content; values with one
content are written alike, as `Content.text`, and are equal, wherever their lists stand in the store.
`Content.build` makes a new value with a content.
-/

namespace SnippetGrader

def Store.making (s : Store) (more : Array (Array Value)) : Store := { s with lists := s.lists ++ more }

/-- A machine whose store has further lists. -/
def Machine.making (m : Machine) (more : Array (Array Value)) : Machine :=
  { m with store := m.store.making more }

@[simp] theorem Machine.making_store (m : Machine) (more : Array (Array Value)) :
    (m.making more).store = m.store.making more := rfl

theorem Machine.making_empty (m : Machine) : m.making #[] = m := by
  rw [making, Store.making, Array.append_empty]

theorem Machine.making_making (m : Machine) (a b : Array (Array Value)) :
    (m.making a).making b = m.making (a ++ b) := by
  simp only [making, Store.making, Array.append_assoc]

theorem Store.items_making {s : Store} {ref : Nat} (h : ref < s.lists.size)
    (more : Array (Array Value)) : (s.making more).items ref = s.items ref := by
  rw [items, items, making, Array.getElem?_append_left h]

namespace Written

/-- The content of a value; whole numbers are short enough to be written. -/
inductive Content where
  | none
  | bool (b : Bool)
  | int (n : Int) (short : n.natAbs < Number.tenPow Number.maxDigits)
  | str (s : String)
  | list (items : List Content)

namespace Content

@[induction_eliminator]
theorem induction {P : Content → Prop} (none : P .none) (bool : ∀ b, P (.bool b))
    (int : ∀ n short, P (.int n short)) (str : ∀ s, P (.str s))
    (list : ∀ items, (∀ t ∈ items, P t) → P (.list items)) : (t : Content) → P t
  | .none => none
  | .bool b => bool b
  | .int n short => int n short
  | .str s => str s
  | .list items => list items fun t _ => induction none bool int str list t

mutual

/-- How a content is written. -/
def text : Content → List Char
  | none => "None".toList
  | bool b => if b then "True".toList else "False".toList
  | int n _ => (if n < 0 then ['-'] else []) ++ Number.digitsOf n.natAbs
  | str s => Text.quote s.toList
  | list items => '[' :: ([',', ' '].intercalate (texts items) ++ [']'])

def texts : List Content → List (List Char)
  | [] => []
  | t :: ts => text t :: texts ts

end

theorem texts_eq_map (items : List Content) : texts items = items.map text := by
  induction items with
  | nil => rfl
  | cons t ts ih => rw [texts, ih, List.map_cons]

mutual

/-- How many lists stand around the innermost item. -/
def depth : Content → Nat
  | none | bool _ | int _ _ | str _ => 0
  | list items => depthAll items

/-- How many lists stand around the innermost item of a list with some items. -/
def depthAll : List Content → Nat
  | [] => 0
  | t :: ts => max (depth t + 1) (depthAll ts)

end

theorem depth_list_le {items : List Content} {n : Nat} :
    (list items).depth ≤ n ↔ ∀ t ∈ items, t.depth < n := by
  rw [depth]
  induction items with
  | nil => simp [depthAll]
  | cons t ts ih => rw [depthAll, Nat.max_le, ih, List.forall_mem_cons, Nat.add_one_le_iff]

theorem depth_lt {items : List Content} {t : Content} (h : t ∈ items) :
    t.depth < (list items).depth :=
  depth_list_le.1 (Nat.le_refl _) t h

mutual

/-- A value has a content. -/
def Holds (s : Store) : Content → Value → Prop
  | none, v => v = .none
  | bool b, v => v = .bool b
  | int n _, v => v = .int n
  | str t, v => v = .str t
  | list items, v => ∃ ref, v = .list ref ∧ ref < s.lists.size ∧ HoldsAll s items (s.items ref).toList

def HoldsAll (s : Store) : List Content → List Value → Prop
  | [], vs => vs = []
  | t :: ts, vs => ∃ v rest, vs = v :: rest ∧ Holds s t v ∧ HoldsAll s ts rest

end

theorem holdsAll_iff {s : Store} {items : List Content} {vs : List Value} :
    HoldsAll s items vs ↔ List.Forall₂ (Holds s) items vs := by
  induction items generalizing vs with
  | nil => rw [HoldsAll, List.forall₂_nil_left_iff]
  | cons t ts ih =>
    simp only [HoldsAll, List.forall₂_cons_left_iff, ih]
    constructor
    · rintro ⟨v, rest, rfl, ht, hrest⟩
      exact ⟨v, rest, ht, hrest, rfl⟩
    · rintro ⟨v, rest, ht, hrest, rfl⟩
      exact ⟨v, rest, rfl, ht, hrest⟩

theorem holds_list {s : Store} {items : List Content} {v : Value} :
    Holds s (list items) v ↔ ∃ ref, v = .list ref ∧ ref < s.lists.size ∧
      List.Forall₂ (Holds s) items (s.items ref).toList := by
  simp only [Holds, holdsAll_iff]

/-! ## Content and the store -/

theorem forall₂_of_mem {R : Content → Value → Prop} {s : Store} {items : List Content}
    {vs : List Value} (h : List.Forall₂ (Holds s) items vs)
    (hitems : ∀ t ∈ items, ∀ v, Holds s t v → R t v) : List.Forall₂ R items vs := by
  induction h with
  | nil => exact .nil
  | cons ht _ ih =>
    exact .cons (hitems _ List.mem_cons_self _ ht)
      (ih fun u hu => hitems u (List.mem_cons_of_mem _ hu))

/-- Making further lists leaves the content of a value as it is. -/
theorem Holds.making {s : Store} {t : Content} {v : Value} (h : Holds s t v)
    (more : Array (Array Value)) : Holds (s.making more) t v := by
  induction t generalizing v with
  | none | bool b | int n short | str t =>
    simp only [Holds] at h ⊢
    exact h
  | list items ih =>
    obtain ⟨ref, rfl, href, hitems⟩ := holds_list.1 h
    have hsize : ref < (s.making more).lists.size := by
      rw [Store.making, Array.size_append]
      omega
    refine holds_list.2 ⟨ref, rfl, hsize, ?_⟩
    rw [Store.items_making href]
    exact forall₂_of_mem hitems fun u hu v => ih u hu

theorem Holds.unique {s : Store} {t t' : Content} {v : Value} (h : Holds s t v)
    (h' : Holds s t' v) : t = t' := by
  induction t generalizing t' v with
  | none | bool b | int n short | str t =>
    simp only [Holds] at h
    subst h
    cases t' <;> simp_all [Holds]
  | list items ih =>
    obtain ⟨ref, rfl, -, hitems⟩ := holds_list.1 h
    cases t' with
    | none | bool b | int n short | str t =>
      simp only [Holds] at h'
      cases h'
    | list items' =>
      obtain ⟨ref', heq, -, hitems'⟩ := holds_list.1 h'
      cases heq
      congr 1
      -- the items as a list of their own, on which both contents are compared
      generalize (s.items ref).toList = vs at hitems hitems'
      clear h h'
      induction hitems generalizing items' with
      | nil => rw [List.forall₂_nil_right_iff.1 hitems']
      | cons ht _ ihitems =>
        obtain ⟨u, us, hu, hus, rfl⟩ := List.forall₂_cons_right_iff.1 hitems'
        rw [ih _ List.mem_cons_self ht hu,
          ihitems (fun u hu => ih u (List.mem_cons_of_mem _ hu)) us hus]

/-! ## Writing -/

theorem mapM_eq_ite {ε α β γ : Type} {f : β → Except ε γ} {p : α → Prop} [DecidablePred p]
    {g : α → γ} {stop : ε} {as : List α} {bs : List β}
    (h : List.Forall₂ (fun a b => f b = if p a then .ok (g a) else .error stop) as bs) :
    bs.mapM f = if ∀ a ∈ as, p a then .ok (as.map g) else .error stop := by
  induction h with
  | nil => simp [pure, Except.pure]
  | @cons a b as bs hab _ ih =>
    rw [List.mapM_cons, hab, ih]
    simp only [List.forall_mem_cons]
    by_cases ha : p a
    · by_cases has : ∀ x ∈ as, p x
      · simp only [if_pos ha, if_pos has, if_pos (And.intro ha has)]
        rfl
      · simp only [if_pos ha, if_neg has, if_neg fun hall : p a ∧ _ => has hall.2]
        rfl
    · simp only [if_neg ha, if_neg fun hall : p a ∧ _ => ha hall.1]
      rfl

theorem list_text (items : List Content) :
    "[" ++ ", ".intercalate (items.map fun t => String.ofList t.text) ++ "]" =
      String.ofList (list items).text := by
  rw [← String.toList_inj, String.toList_append, String.toList_append, String.toList_intercalate,
    String.toList_ofList, text, texts_eq_map, List.map_map]
  simp [Function.comp_def]

/-- **A value is written as its content**, inside lists that hold more than it, unless it is nested
too deeply to be written. -/
theorem Holds.reprWithin {s : Store} {t : Content} {v : Value} (h : Holds s t v) {outer : List Nat}
    (houter : ∀ ref ∈ outer, ∃ u, Holds s u (.list ref) ∧ t.depth < u.depth) (depth : Nat) :
    Value.reprWithin s outer depth v =
      if t.depth < depth then .ok (String.ofList t.text) else .error (.exhausted .writing) := by
  cases depth with
  | zero => rfl
  | succ depth =>
    induction t generalizing v outer depth with
    | none | str t =>
      simp only [Holds] at h
      subst h
      rfl
    | bool b =>
      simp only [Holds] at h
      subst h
      cases b <;> rfl
    | int n short =>
      simp only [Holds] at h
      subst h
      simp only [Value.reprWithin, Value.plainRepr, intText, if_pos short]
      rfl
    | list items ih =>
      obtain ⟨ref, rfl, href, hitems⟩ := holds_list.1 h
      -- a list that stood inside itself would hold more than it holds
      have hfresh : outer.contains ref = false := by
        rw [← Bool.not_eq_true, List.contains_iff_mem]
        intro hmem
        obtain ⟨u, hu, hless⟩ := houter ref hmem
        rw [hu.unique h] at hless
        exact Nat.lt_irrefl _ hless
      have hinner : ∀ t ∈ items, ∀ v, Holds s t v → Value.reprWithin s (ref :: outer) depth v =
          if t.depth < depth then .ok (String.ofList t.text) else .error (.exhausted .writing) := by
        intro u hu v hv
        have hless := depth_lt hu
        cases depth with
        | zero => rfl
        | succ depth =>
          refine ih u hu hv (fun r hr => ?_) depth
          obtain rfl | hr := List.mem_cons.1 hr
          · exact ⟨_, h, hless⟩
          · obtain ⟨x, hx, hdeeper⟩ := houter r hr
            exact ⟨x, hx, Nat.lt_trans hless hdeeper⟩
      rw [Value.reprWithin, hfresh, mapM_eq_ite (forall₂_of_mem hitems hinner)]
      simp only [Nat.lt_add_one_iff, depth_list_le, ← list_text, Bool.false_eq_true, if_false]
      split
      · rfl
      · rfl

/-! ## Equality -/

theorem allEqual_eq_true {eq : Value → Value → Except Failure Bool} {vs ws : List Value}
    (h : List.Forall₂ (fun v w => eq v w = .ok true) vs ws) : Value.allEqual eq vs ws = .ok true := by
  induction h with
  | nil => rfl
  | @cons v w vs ws hvw _ ih =>
    have hagree : Value.agree eq v w = .ok true := by
      rw [Value.agree, hvw]
      split <;> rfl
    rw [Value.allEqual, hagree]
    exact ih

theorem forall₂_join {R : Value → Value → Prop} {s : Store} {items : List Content}
    {vs ws : List Value} (hv : List.Forall₂ (Holds s) items vs)
    (hw : List.Forall₂ (Holds s) items ws)
    (hitems : ∀ t ∈ items, ∀ v w, Holds s t v → Holds s t w → R v w) : List.Forall₂ R vs ws := by
  induction hv generalizing ws with
  | nil =>
    rw [List.forall₂_nil_left_iff.1 hw]
    exact .nil
  | cons ht _ ih =>
    obtain ⟨w, ws, hu, hrest, rfl⟩ := List.forall₂_cons_left_iff.1 hw
    exact .cons (hitems _ List.mem_cons_self _ _ ht hu)
      (ih hrest fun u hu => hitems u (List.mem_cons_of_mem _ hu))

/-- **Values with one content are equal.** -/
theorem Holds.eqWithin {s : Store} {t : Content} {v w : Value} (hv : Holds s t v)
    (hw : Holds s t w) {depth : Nat} (hdepth : t.depth < depth) :
    Value.eqWithin s depth v w = .ok true := by
  obtain ⟨depth, rfl⟩ := Nat.exists_eq_add_one.2 (Nat.zero_lt_of_lt hdepth)
  induction t generalizing v w depth with
  | none =>
    simp only [Holds] at hv hw
    subst hv hw
    rfl
  | bool b =>
    simp only [Holds] at hv hw
    subst hv hw
    cases b <;> rfl
  | int n short =>
    simp only [Holds] at hv hw
    subst hv hw
    simp [Value.eqWithin, Value.numericEq?, Num.ofValue?, Num.compare?]
  | str t =>
    simp only [Holds] at hv hw
    subst hv hw
    simp [Value.eqWithin, Value.numericEq?, Num.ofValue?, Value.same]
  | list items ih =>
    obtain ⟨a, rfl, -, ha⟩ := holds_list.1 hv
    obtain ⟨b, rfl, -, hb⟩ := holds_list.1 hw
    have hsize : (s.items a).size = (s.items b).size := by
      have hlengths := ha.length_eq.symm.trans hb.length_eq
      simpa using hlengths
    have hall : Value.allEqual (Value.eqWithin s depth) (s.items a).toList (s.items b).toList =
        .ok true := by
      refine allEqual_eq_true (forall₂_join ha hb fun u hu x y hx hy => ?_)
      have hless := depth_lt hu
      obtain ⟨depth, rfl⟩ := Nat.exists_eq_add_one.2 (show 0 < depth by omega)
      exact ih u hu hx hy depth (by omega)
    simp only [Value.eqWithin, hsize, hall, bne_self_eq_false, Bool.false_eq_true, if_false, ite_self]

/-! ## Making a value -/

mutual

def build : Content → Run Value
  | none => return .none
  | bool b => return .bool b
  | int n _ => return .int n
  | str t => return .str t
  | list items => do Run.newList (← buildAll items).toArray

def buildAll : List Content → Run (List Value)
  | [] => return []
  | t :: ts => do
    let v ← build t
    return v :: (← buildAll ts)

end

/-- A computation does nothing but make lists, and gives a value with a content. -/
def Builds (x : Run Value) (t : Content) : Prop :=
  ∀ m : Machine, ∃ v more, x m = .ok v (m.making more) ∧ Holds (m.making more).store t v

theorem buildAll_builds {items : List Content} (h : ∀ t ∈ items, Builds t.build t) (m : Machine) :
    ∃ vs more, buildAll items m = .ok vs (m.making more) ∧
      List.Forall₂ (Holds (m.making more).store) items vs := by
  induction items generalizing m with
  | nil => exact ⟨[], #[], by rw [m.making_empty]; rfl, .nil⟩
  | cons t ts ih =>
    obtain ⟨v, more, hv, hheld⟩ := h t List.mem_cons_self m
    obtain ⟨vs, rest, hvs, hall⟩ := ih (fun u hu => h u (List.mem_cons_of_mem t hu)) (m.making more)
    rw [Machine.making_making] at hvs hall
    refine ⟨v :: vs, more ++ rest, ?_, .cons ?_ hall⟩
    · rw [buildAll, Run.bind_eq, hv]
      simp only [Run.bind_eq, hvs]
      rfl
    · -- the first value keeps its content while the others are made
      rw [← Machine.making_making]
      exact hheld.making rest

theorem Builds.of_pure {t : Content} {v : Value} (h : ∀ s, Holds s t v) : Builds (pure v) t :=
  fun m => ⟨v, #[], by rw [m.making_empty]; rfl, h _⟩

/-- Making a value with a content does nothing else. -/
theorem build_builds (t : Content) : Builds t.build t := by
  induction t with
  | none | bool b | int n short | str t =>
    rw [build]
    exact .of_pure fun s => by simp only [Holds]
  | list items ih =>
    intro m
    obtain ⟨vs, more, hvs, hall⟩ := buildAll_builds ih m
    have hpush : (m.making more).making #[vs.toArray] = m.making (more.push vs.toArray) := by
      rw [Machine.making_making, Array.push_eq_append]
    have hnew : Run.newList vs.toArray (m.making more) =
        .ok (.list (m.making more).store.lists.size) ((m.making more).making #[vs.toArray]) := by
      have hlists : (m.making more).store.lists.push vs.toArray =
          (m.making more).store.lists ++ #[vs.toArray] := Array.push_eq_append
      change EStateM.Result.ok _ _ = _
      rw [hlists]
      rfl
    refine ⟨.list (m.making more).store.lists.size, more.push vs.toArray, ?_, ?_⟩
    · rw [build, Run.bind_eq, hvs, ← hpush]
      exact hnew
    · rw [← hpush]
      generalize m.making more = m' at hall
      have hitems : ((m'.making #[vs.toArray]).store.items m'.store.lists.size).toList = vs := by
        simp [Store.items, Store.making]
      refine holds_list.2 ⟨_, rfl, by simp [Store.making], ?_⟩
      rw [hitems]
      exact forall₂_of_mem hall fun u hu v hv => hv.making _

end Content

end Written

end SnippetGrader
