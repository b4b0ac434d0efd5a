import Mathlib.Data.List.Forall2
import SnippetGrader.Proofs.Renaming.Trees

/-!
# Values that are alike

Two computations that start from one store may make lists of the same content at different places.
What they give is alike: what was there before the computations is the same thing in both results,
and a list that was made by one of them stands where a list with like items, made by the other one,
stands.
-/

namespace SnippetGrader

/-- A relation that pairs what is the same in two stores that come from one store `old`: a thing of
`old` with itself, a new list with a new list of related items, and a new result that is no number
with such a result. -/
structure Likeness (old s s' : Store) (R : Value → Value → Prop) : Prop where
  form : ∀ v w, R v w → v.Within old ∧ w = v ∨ ¬v.Within old ∧ ¬w.Within old ∧
    ((∃ a b, v = .list a ∧ w = .list b) ∨ ∃ a b, v = .nan a ∧ w = .nan b)
  items : ∀ a b, R (.list a) (.list b) → List.Forall₂ R (s.items a).toList (s'.items b).toList
  oneToOne : ∀ v w v' w', R v w → R v' w' → (v = v' ↔ w = w')

/-- Two values are the same but for the places of the lists and the results that are no numbers that
were made since `old`. -/
def Value.Alike (old s s' : Store) (v w : Value) : Prop := ∃ R, Likeness old s s' R ∧ R v w

namespace Value.Alike

variable {old s s' s'' : Store} {u v w : Value}

theorem symm (h : v.Alike old s s' w) : w.Alike old s' s v := by
  obtain ⟨R, hR, hvw⟩ := h
  refine ⟨fun w v => R v w, ⟨fun w v h => ?_, fun b a h => ?_, fun w v w' v' h h' => ?_⟩, hvw⟩
  · obtain ⟨hv, rfl⟩ | ⟨hv, hw, hform⟩ := hR.form v w h
    · exact .inl ⟨hv, rfl⟩
    · refine .inr ⟨hw, hv, ?_⟩
      obtain ⟨a, b, hv, hw⟩ | ⟨a, b, hv, hw⟩ := hform
      · exact .inl ⟨b, a, hw, hv⟩
      · exact .inr ⟨b, a, hw, hv⟩
  · exact (hR.items a b h).flip
  · exact (hR.oneToOne v w v' w' h h').symm

theorem trans (h : u.Alike old s s' v) (h' : v.Alike old s' s'' w) : u.Alike old s s'' w := by
  obtain ⟨R, hR, huv⟩ := h
  obtain ⟨T, hT, hvw⟩ := h'
  have hcomp {us vs ws : List Value} (h : List.Forall₂ R us vs) (h' : List.Forall₂ T vs ws) :
      List.Forall₂ (fun u w => ∃ v, R u v ∧ T v w) us ws := by
    induction h generalizing ws with
    | nil =>
      cases h'
      exact .nil
    | cons huv _ ih =>
      cases h' with
      | cons hvw hrest => exact .cons ⟨_, huv, hvw⟩ (ih hrest)
  refine ⟨fun u w => ∃ v, R u v ∧ T v w, ⟨?_, ?_, ?_⟩, v, huv, hvw⟩
  · rintro u w ⟨v, huv, hvw⟩
    obtain ⟨hu, rfl⟩ | ⟨hu, hv, hform⟩ := hR.form u v huv
    · exact (hT.form v w hvw).imp id fun h => absurd hu h.1
    · obtain ⟨hv', -⟩ | ⟨-, hw, hform'⟩ := hT.form v w hvw
      · exact absurd hv' hv
      · refine .inr ⟨hu, hw, ?_⟩
        obtain ⟨a, b, rfl, rfl⟩ | ⟨a, b, rfl, rfl⟩ := hform
        · obtain ⟨b', c, hb, rfl⟩ | ⟨b', c, hb, -⟩ := hform'
          · exact .inl ⟨a, c, rfl, rfl⟩
          · cases hb
        · obtain ⟨b', c, hb, -⟩ | ⟨b', c, hb, rfl⟩ := hform'
          · cases hb
          · exact .inr ⟨a, c, rfl, rfl⟩
  · rintro a c ⟨v, hav, hvc⟩
    obtain ⟨b, rfl⟩ : ∃ b, v = .list b := by
      obtain ⟨-, rfl⟩ | ⟨-, -, ⟨a', b, -, rfl⟩ | ⟨a', b, ha, -⟩⟩ := hR.form _ v hav
      · exact ⟨a, rfl⟩
      · exact ⟨b, rfl⟩
      · cases ha
    exact hcomp (hR.items a b hav) (hT.items b c hvc)
  · rintro u w u' w' ⟨v, huv, hvw⟩ ⟨v', huv', hvw'⟩
    exact (hR.oneToOne u v u' v' huv huv').trans (hT.oneToOne v w v' w' hvw hvw')

end Value.Alike

theorem Store.Renames.lists_lt {ρ : Renaming} {s s' : Store} (h : s.Renames ρ s') {ref : Nat}
    (href : ref < s.lists.size) : ρ.lists ref < s'.lists.size := by
  by_contra hge
  obtain ⟨k, hk⟩ := Nat.exists_eq_add_of_le (Nat.le_of_not_lt hge)
  have hplace := ρ.lists_injective (hk.trans (h.list k).symm)
  omega

/-- What a computation gives after others is like what it gives at once. -/
theorem Value.Renamed.alike {m m₁ m' : Machine} {scope scope' : Nat} {s s' : Store} {v w : Value}
    (h : m₁.Renames (.moving m.store s) scope scope' m') (hgrows : m.Grows m₁)
    (hv : Value.Renamed (.moving m.store s) m₁.store v w) (hs : m'.store.Extends s') :
    v.Alike m.store m₁.store s' w := by
  refine ⟨Value.Renamed (.moving m.store s) m₁.store, ⟨?_, ?_, ?_⟩, hv⟩
  · rintro v w ⟨hv, rfl⟩
    by_cases hold : v.Within m.store
    · exact .inl ⟨hold, Value.rename_moving hold⟩
    · refine .inr ⟨hold, fun h => hold (Value.within_of_moving h), ?_⟩
      cases v with
      | list a => exact .inl ⟨a, _, rfl, rfl⟩
      | nan a => exact .inr ⟨a, _, rfl, rfl⟩
      | function ref =>
        obtain ⟨lists, nans, rfl⟩ := hgrows
        exact absurd hv hold
      | _ => exact absurd trivial hold
  · rintro a b ⟨ha, hb⟩
    obtain rfl : b = (Renaming.moving m.store s).lists a := Value.list.inj hb
    rw [hs.items (h.store.lists_lt ha), h.store.items, Array.toList_map,
      List.forall₂_map_right_iff, List.forall₂_same]
    exact fun v hv => ⟨h.closed.items a v (Array.mem_toList_iff.1 hv), rfl⟩
  · rintro v w v' w' ⟨-, rfl⟩ ⟨-, rfl⟩
    exact (Value.rename_injective _).eq_iff.symm

/-- A thing that was there before is only like itself. -/
theorem Value.Alike.eq_of_within {old s s' : Store} {v w : Value} (h : v.Alike old s s' w)
    (hv : v.Within old) : w = v := by
  obtain ⟨R, hR, hvw⟩ := h
  obtain ⟨-, heq⟩ | ⟨hnew, -⟩ := hR.form v w hvw
  · exact heq
  · exact absurd hv hnew

namespace Rendering.Tree

variable {scope scope' : Nat} {m m' : Machine}

/-- **Evaluation after other evaluations.** On a machine with more things and with the same names in
scope a tree fails as it does at once, or stands for a like value. -/
theorem denote_alike (t : Tree) (hm : m.IsClosed scope) (h : m.store.Extends m'.store)
    (hnames : ∀ n, (m'.store.scope scope').get? n = (m.store.scope scope).get? n) :
    (∃ stop m₁ m₁', t.denote scope m = .error stop m₁ ∧ t.denote scope' m' = .error stop m₁') ∨
    ∃ v w m₁ m₁', t.denote scope m = .ok v m₁ ∧ t.denote scope' m' = .ok w m₁' ∧
      m'.Grows m₁' ∧ v.truthy m₁.store = w.truthy m₁'.store ∧
      ∀ s', m₁'.store.Extends s' → v.Alike m.store m₁.store s' w := by
  have hrenamed := t.denote_renamed (hm.renames h hnames)
  generalize t.denote scope m = r at hrenamed
  generalize t.denote scope' m' = r' at hrenamed
  cases hrenamed with
  | error _ _ => exact .inl ⟨_, _, _, rfl, rfl⟩
  | ok hm₁ hgrows hgrows' hv =>
    refine .inr ⟨_, _, _, _, rfl, rfl, hgrows', ?_, fun s' hs => hv.alike hm₁ hgrows hs⟩
    rw [hv.2, Value.truthy_rename hm₁.store]

end Rendering.Tree

end SnippetGrader
