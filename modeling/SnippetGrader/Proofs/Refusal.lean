import SnippetGrader.Proofs.Isolation

/-!
# Settings that are refused

The settings of a submission are applied to the limits one after the other. If one of them cannot be
converted, nothing is run; but those before it have been applied by then, and they stay in force.
The machine is therefore what it was before if and only if each of them already was in force.
-/

namespace SnippetGrader

/-! ## Settings that can be read -/

namespace Limits

/-- A name and what a datum under this name does to limits. -/
abbrev Setter := String × (Limits → Datum → Except Failure Limits)

/-! ## What one setter does -/

theorem setInt_eq_ok {set : Limits → Int → Limits} {limits limits' : Limits} {d : Datum} :
    setInt set limits d = .ok limits' ↔ ∃ n, d.toInt = .ok n ∧ set limits n = limits' := by
  unfold setInt
  cases d.toInt with
  | error f => simp
  | ok n => simp

theorem setTime_eq_ok {limits limits' : Limits} {d : Datum} :
    (do return { limits with maxTime := ← d.toFloat } : Except Failure Limits) = .ok limits' ↔
      ∃ x, d.toFloat = .ok x ∧ { limits with maxTime := x } = limits' := by
  cases d.toFloat with
  | error f => simp [bind, Except.bind]
  | ok x => simp [bind, Except.bind, pure, Except.pure]

/-- A setter that is applied again changes nothing. -/
theorem setter_again {p : Setter} (hp : p ∈ setters) {limits limits' : Limits} {d : Datum}
    (h : p.2 limits d = .ok limits') : p.2 limits' d = .ok limits' := by
  simp only [setters, List.mem_cons, List.not_mem_nil, or_false] at hp
  obtain rfl | rfl | rfl | rfl | rfl := hp
  all_goals
    simp only [setInt_eq_ok, setTime_eq_ok] at h ⊢
    obtain ⟨n, hn, rfl⟩ := h
    exact ⟨n, hn, rfl⟩

/-- Two setters change two limits: what one of them has set stays so under the other. -/
theorem setter_apart {p q : Setter} (hp : p ∈ setters) (hq : q ∈ setters) (hne : p.1 ≠ q.1)
    {limits limits' : Limits} {d d' : Datum} (h : p.2 limits d = .ok limits')
    (hset : q.2 limits d' = .ok limits) : q.2 limits' d' = .ok limits' := by
  simp only [setters, List.mem_cons, List.not_mem_nil, or_false] at hp hq
  obtain rfl | rfl | rfl | rfl | rfl := hp <;> obtain rfl | rfl | rfl | rfl | rfl := hq
  all_goals
    first
    | exact absurd rfl hne
    | simp only [setInt_eq_ok, setTime_eq_ok] at h hset ⊢
      obtain ⟨n, -, rfl⟩ := h
      obtain ⟨k, hk, hsame⟩ := hset
      exact ⟨k, hk, by rw [← hsame]⟩

theorem nodup_setters : (setters.map (·.1)).Nodup := by decide

/-! ## Settings that are in force -/

section Settings

variable (settings : Settings)

/-- What settings say under the name of a setter, the limits already say. -/
def InForce (limits : Limits) (p : Setter) : Prop :=
  ∀ d, settings.lookup p.1 = some d → p.2 limits d = .ok limits

variable {settings}

theorem updateBy_cons {p : Setter} {rest : List Setter} {limits left : Limits}
    (h : updateBy settings (p :: rest) limits = (left, none)) :
    ∃ limits', updateBy settings rest limits' = (left, none) ∧
      (settings.lookup p.1 = none ∧ limits' = limits ∨
        ∃ d, settings.lookup p.1 = some d ∧ p.2 limits d = .ok limits') := by
  rw [updateBy] at h
  cases hd : settings.lookup p.1 with
  | none =>
    rw [hd] at h
    exact ⟨limits, h, .inl ⟨rfl, rfl⟩⟩
  | some d =>
    simp only [hd] at h
    cases hp : p.2 limits d with
    | error f =>
      rw [hp] at h
      cases h
    | ok limits' =>
      rw [hp] at h
      exact ⟨limits', h, .inr ⟨d, rfl, hp⟩⟩

theorem InForce.updateBy {q : Setter} (hq : q ∈ setters) {list : List Setter}
    (hlist : ∀ p ∈ list, p ∈ setters ∧ p.1 ≠ q.1) {limits left : Limits}
    (h : updateBy settings list limits = (left, none)) (hforce : InForce settings limits q) :
    InForce settings left q := by
  induction list generalizing limits with
  | nil =>
    cases h
    exact hforce
  | cons p rest ih =>
    rw [List.forall_mem_cons] at hlist
    obtain ⟨limits', hrest, ⟨-, rfl⟩ | ⟨d, -, hp⟩⟩ := updateBy_cons h
    · exact ih hlist.2 hrest hforce
    · exact ih hlist.2 hrest fun d' hd' =>
        setter_apart hlist.1.1 hq hlist.1.2 hp (hforce d' hd')

theorem inForce_of_updateBy {list : List Setter} (hlist : ∀ p ∈ list, p ∈ setters)
    (hnodup : (list.map (·.1)).Nodup) {limits left : Limits}
    (h : updateBy settings list limits = (left, none)) : ∀ p ∈ list, InForce settings left p := by
  induction list generalizing limits with
  | nil => exact List.forall_mem_nil _
  | cons p rest ih =>
    rw [List.map_cons, List.nodup_cons] at hnodup
    rw [List.forall_mem_cons] at hlist ⊢
    obtain ⟨limits', hrest, hp⟩ := updateBy_cons h
    have hfirst : InForce settings limits' p := by
      intro d' hd'
      obtain ⟨hnone, -⟩ | ⟨d, hd, hp⟩ := hp
      · rw [hnone] at hd'
        cases hd'
      · obtain rfl : d = d' := Option.some.inj (hd.symm.trans hd')
        exact setter_again hlist.1 hp
    refine ⟨hfirst.updateBy hlist.1 (fun q hq => ⟨hlist.2 q hq, fun heq => hnodup.1 ?_⟩) hrest,
      ih hlist.2 hnodup.2 hrest⟩
    rw [← heq]
    exact List.mem_map_of_mem hq

theorem updateBy_of_inForce {list : List Setter} {limits : Limits}
    (h : ∀ p ∈ list, InForce settings limits p) :
    updateBy settings list limits = (limits, none) := by
  induction list with
  | nil => rfl
  | cons p rest ih =>
    rw [List.forall_mem_cons] at h
    rw [updateBy]
    cases hd : settings.lookup p.1 with
    | none => exact ih h.2
    | some d =>
      simp only [h.1 d hd]
      exact ih h.2

/-! ## Settings that are applied to the end -/

variable (settings) in
/-- A setting that cannot be converted: its setter, those that were applied before, and the limits
that these have left. -/
structure Refusal (limits : Limits) where
  before : List Setter
  setter : Setter
  after : List Setter
  left : Limits
  datum : Datum
  failure : Failure
  setters_eq : setters = before ++ setter :: after
  applied : updateBy settings before limits = (left, none)
  given : settings.lookup setter.1 = some datum
  refused : setter.2 left datum = .error failure

theorem updateBy_append (before rest : List Setter) {limits left : Limits}
    (h : updateBy settings before limits = (left, none)) :
    updateBy settings (before ++ rest) limits = updateBy settings rest left := by
  induction before generalizing limits with
  | nil =>
    cases h
    rfl
  | cons p before ih =>
    obtain ⟨limits', hbefore, ⟨hnone, rfl⟩ | ⟨d, hd, hp⟩⟩ := updateBy_cons h
    · rw [List.cons_append, updateBy, hnone, ← ih hbefore]
    · rw [List.cons_append, updateBy, hd]
      simp only [hp]
      exact ih hbefore

theorem exists_refused {list : List Setter} {limits left : Limits} {f : Failure}
    (h : updateBy settings list limits = (left, some f)) :
    ∃ before p after d, list = before ++ p :: after ∧
      updateBy settings before limits = (left, none) ∧ settings.lookup p.1 = some d ∧
      p.2 left d = .error f := by
  induction list generalizing limits with
  | nil => cases h
  | cons p rest ih =>
    rw [updateBy] at h
    cases hd : settings.lookup p.1 with
    | none =>
      rw [hd] at h
      obtain ⟨before, q, after, d, rfl, hbefore, hq⟩ := ih h
      exact ⟨p :: before, q, after, d, rfl, by rw [updateBy, hd]; exact hbefore, hq⟩
    | some d =>
      simp only [hd] at h
      cases hp : p.2 limits d with
      | error f' =>
        rw [hp] at h
        cases h
        exact ⟨[], p, rest, d, rfl, rfl, hd, hp⟩
      | ok limits' =>
        rw [hp] at h
        obtain ⟨before, q, after, d', rfl, hbefore, hq⟩ := ih h
        exact ⟨p :: before, q, after, d', rfl,
          by rw [updateBy, hd]; simp only [hp]; exact hbefore, hq⟩

variable {limits : Limits}

theorem Refusal.update_eq (r : Refusal settings limits) :
    limits.update settings = (r.left, some r.failure) := by
  rw [update, r.setters_eq, updateBy_append r.before (r.setter :: r.after) r.applied, updateBy,
    r.given]
  simp only [r.refused]

theorem exists_refusal {left : Limits} {f : Failure}
    (h : limits.update settings = (left, some f)) :
    ∃ r : Refusal settings limits, r.failure = f := by
  obtain ⟨before, setter, after, datum, hsetters, happlied, hgiven, hrefused⟩ := exists_refused h
  exact ⟨⟨before, setter, after, left, datum, f, hsetters, happlied, hgiven, hrefused⟩, rfl⟩

/-- What the settings before the refused one have left is what there was if and only if they were in
force already. -/
theorem Refusal.left_eq_iff (r : Refusal settings limits) :
    r.left = limits ↔ ∀ p ∈ r.before, InForce settings limits p := by
  have hmem : ∀ p ∈ r.before, p ∈ setters := fun p hp => by
    rw [r.setters_eq]
    exact List.mem_append_left _ hp
  have hnodup : (r.before.map (·.1)).Nodup := by
    have h := nodup_setters
    rw [r.setters_eq, List.map_append] at h
    exact (List.nodup_append.1 h).1
  constructor
  · intro heq
    have h := inForce_of_updateBy hmem hnodup r.applied
    rwa [heq] at h
  · intro h
    exact (congrArg Prod.fst (r.applied.symm.trans (updateBy_of_inForce h)) :)

end Settings

end Limits

open Limits

/-! ## Submissions whose settings are refused -/

/-- A submission fails to start if and only if a setting is refused. It then leaves the machine as
the settings before that one have made it, and as it was if these were in force already; every later
run is then the same as without the submission. -/
theorem Machine.submit_refused (m : Machine) (s : Submission) :
    (∀ f, (m.submit s).1 = .error f ↔ ∃ r : Refusal s.settings m.limits, r.failure = f) ∧
      ∀ r : Refusal s.settings m.limits,
        m.submit s = (.error r.failure, { m with limits := r.left }) ∧
          ((m.submit s).2 = m ↔ ∀ p ∈ r.before, InForce s.settings m.limits p) := by
  have hsubmit (r : Refusal s.settings m.limits) :
      m.submit s = (.error r.failure, { m with limits := r.left }) := by
    rw [m.submit_eq, r.update_eq]
  refine ⟨fun f => ⟨fun h => ?_, ?_⟩, fun r => ⟨hsubmit r, ?_⟩⟩
  · rw [m.submit_eq] at h
    cases hupdate : m.limits.update s.settings with
    | mk left failure =>
      rw [hupdate] at h
      cases failure with
      | none => cases h
      | some f' =>
        cases h
        exact exists_refusal hupdate
  · rintro ⟨r, rfl⟩
    rw [hsubmit r]
  · rw [hsubmit r, ← r.left_eq_iff]
    exact ⟨fun h => congrArg Machine.limits h, fun h => by rw [h]⟩

/-- A refused number of statements leaves a changed bound on rounds behind, and a loop of the next
run stops at it. -/
theorem submit_refused_partly :
    let refused : Submission :=
      { code := "", settings := [("max_loop", .plain (.int 1)), ("max_steps", .plain (.str "x"))] }
    let counting : Submission := { code := "i = 0\nwhile i < 3:\n    i += 1\nprint(i)" }
    let m : Machine := {}
    (∃ f, (m.submit refused).1 = .error f) ∧
      m.limits.maxLoop = 1000 ∧ (m.submit refused).2.limits.maxLoop = 1 ∧
      ((m.submit counting).1.map Report.output).toOption = some "3" ∧
      (((m.submit refused).2.submit counting).1.map Report.output).toOption = some "1" := by
  refine ⟨⟨_, rfl⟩, rfl, rfl, ?_, ?_⟩
  · decide +kernel
  · decide +kernel

end SnippetGrader
