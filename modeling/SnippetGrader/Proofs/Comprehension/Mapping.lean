import SnippetGrader.Proofs.Comprehension.Calls

/-!
# Comprehensions as calls of `map` and `filter`

A comprehension and the call of `list` on `map` and `filter` that says the same end alike: both fail, or
both give lists whose items are like each other (`Selection.evaluate_mapped`).
-/

namespace SnippetGrader

open Text Source Expression Rendering Layout
open Operation (call)

/-- A call of a function that every program has. -/
theorem Outcome.Ends.call {f : Identifier} {b : Builtin}
    (hb : Builtin.ofName? (String.ofList f.text) = some b) {args : List (List Char)}
    (hargs : ∀ a ∈ args, IsArgument a ∧ Rendering.Balanced a)
    (halone : ∀ a, args = [a] → comprehension? a = none) {scope : Nat} {M : Machine}
    (hfree : (M.store.scope scope).get? (String.ofList f.text) = none) {bad : Prop}
    {p : List Value → Machine → Prop} {good : Value → Machine → Prop}
    (hgiven : ∀ k, Ends bad p ((args.mapM ((Engine.level k).eval scope)) M))
    (hinvoke : ∀ k vs M', p vs M' → Ends bad good (b.invoke (Engine.level k) vs [] M'))
    (n : Nat) : Ends bad good ((Engine.level n).eval scope (call f args) M) := by
  refine .eval fun k _ => ?_
  have hbalanced := Operation.balanced_joinBy fun a ha => (hargs a ha).2
  rw [Operation.evaluate_call f (Operation.passes_hidden_of_balanced hbalanced) hb
    (fun a ha => (hargs a ha).1) halone _ _ hfree]
  exact .bind (hgiven k) fun vs M' hvs => .guardCall (hinvoke k vs M' hvs)

namespace Selection

variable (s : Selection)

/-! ## Texts -/

def listName : Identifier := ⟨"list".toList, by decide, by decide⟩

def mapName : Identifier := ⟨"map".toList, by decide, by decide⟩

def filterName : Identifier := ⟨"filter".toList, by decide, by decide⟩

def filtered : List Char := call filterName [(s.abstraction s.condition).text, s.source.text]

/-- The elements for the items that meet the condition. -/
def mappings : List Char := call mapName [(s.abstraction s.element).text, s.filtered]

/-- The list that the comprehension makes, by functions. -/
def mapped : List Char :=
  "list(map(lambda ".toList ++ s.item.text ++ ": ".toList ++ s.element.render ++
    ", filter(lambda ".toList ++ s.item.text ++ ": ".toList ++ s.condition.render ++ ", ".toList ++
      s.source.text ++ ")))".toList

theorem text_abstraction (t : Tree) :
    (s.abstraction t).text = "lambda ".toList ++ s.item.text ++ ": ".toList ++ t.render := by
  simp [Lambda.text, Lambda.head_eq_append, Lambda.signature, abstraction]

theorem mapped_eq : s.mapped = call listName [s.mappings] := by
  have hfront : "list(map(lambda ".toList =
      "list".toList ++ '(' :: ("map".toList ++ '(' :: "lambda ".toList) := rfl
  have hmiddle : ", filter(lambda ".toList =
      ',' :: ' ' :: ("filter".toList ++ '(' :: "lambda ".toList) := rfl
  have hcomma : ", ".toList = [',', ' '] := rfl
  have hend : ")))".toList = [')', ')', ')'] := rfl
  have hlist : listName.text = "list".toList := rfl
  have hmap : mapName.text = "map".toList := rfl
  have hfilter : filterName.text = "filter".toList := rfl
  unfold mapped mappings filtered call Operation.enclosed
  rw [hlist, hmap, hfilter, hfront, hmiddle, hcomma, hend]
  simp only [joinBy_cons_cons, joinBy_singleton, text_abstraction, List.append_assoc,
    List.cons_append, List.nil_append]

theorem balanced_render (t : Tree) : Rendering.Balanced t.render := by
  rw [← t.writing_regroup]
  exact .writing _

theorem balanced_abstraction (t : Tree) : Rendering.Balanced (s.abstraction t).text := by
  rw [text_abstraction]
  have hname : Rendering.Balanced s.item.text :=
    .of_plain fun _ hc => isPlain_of_isWord (Operation.isWord_text _ hc)
  have hfront : Rendering.Balanced "lambda ".toList := .of_plain (List.all_eq_true.1 (by decide))
  have hcolon : Rendering.Balanced ": ".toList := .of_plain (List.all_eq_true.1 (by decide))
  exact ((hfront.append hname).append hcolon).append (balanced_render t)

theorem isArgument_source : IsArgument s.source.text := by
  obtain ⟨c, more, hx, hstart, -⟩ := s.source.exists_head
  have hword : ∀ d ∈ c :: more, isWord d = true := hx ▸ fun _ => Operation.isWord_text s.source
  have hpasses : Written.Passes (lacks ',') 0 (c :: more ++ []) := by
    rw [List.append_nil]
    exact .plain fun d hd => ⟨isPlain_of_isWord (hword d hd), by
      simp [lacks, ne_of_isWord (hword d hd) (show isWord ',' = false by decide)]⟩
  have htrim := trim_of_isName s.source.isName_text
  rw [hx, ← List.append_nil (c :: more)] at htrim ⊢
  exact Operation.isArgument_of_name hword hstart (by simp) (by simp [trimStart]) hpasses htrim

theorem passes_abstraction (t : Tree) :
    Written.Passes (lacks ',') 0 (s.abstraction t).text := by
  have hplain {a : List Char} (ha : (a.all fun c => isPlain c && lacks ',' c (.code 0)) = true) :
      Written.Passes (lacks ',') 0 a :=
    .plain fun c hc => by simpa using List.all_eq_true.1 ha c hc
  have hname : Written.Passes (lacks ',') 0 s.item.text := .plain fun c hc => by
    have hword := Operation.isWord_text s.item hc
    simp [isPlain_of_isWord hword, lacks, ne_of_isWord hword (show isWord ',' = false by decide)]
  have hbody := Operation.passes_writing (Tree.shape _ t.grouped_regroup).comma
  rw [t.writing_regroup] at hbody
  have hquote {a : List Char} (ha : Rendering.Balanced a) : ∀ c ∈ a.head?, isQuote c = false :=
    fun c hc => ha.not_isQuote (List.mem_of_mem_head? hc)
  rw [text_abstraction]
  have hitem : Rendering.Balanced s.item.text :=
    .of_plain fun _ hc => isPlain_of_isWord (Operation.isWord_text _ hc)
  have hfront := ((hplain (by decide)).append hname (hquote hitem)).append (hplain (by decide))
    (a := "lambda ".toList ++ s.item.text) (b := ": ".toList) (by simp; decide)
  exact hfront.append hbody (hquote (balanced_render t))

theorem isArgument_abstraction (t : Tree) : IsArgument (s.abstraction t).text := by
  have hpasses := s.passes_abstraction t
  obtain ⟨c, more, hx, hstart, -⟩ := s.item.exists_head
  have htext : (s.abstraction t).text =
      'l' :: "ambda".toList ++ (' ' :: (s.item.text ++ ": ".toList ++ t.render)) := by
    rw [text_abstraction]
    exact rfl
  have hequals :
      (trimStart (' ' :: (s.item.text ++ ": ".toList ++ t.render))).head? ≠ some '=' := by
    have hstart := isWord_of_isNameStart hstart
    have hblank := isBlank_eq_false_of_isWord hstart
    have hne : c ≠ '=' := ne_of_isWord hstart (by decide)
    rw [trimStart, List.dropWhile_cons_of_pos (by decide), hx]
    simp [hblank, hne]
  have htrim : trim (s.abstraction t).text = (s.abstraction t).text := by
    have hshape := Tree.shape _ t.grouped_regroup
    obtain ⟨-, hlast⟩ := trim_eq_self_iff.1 hshape.trim_writing
    have hne := hshape.writing_ne_nil
    rw [t.writing_regroup] at hlast hne
    refine trim_eq_self_iff.2 ⟨?_, ?_⟩
    · rw [htext]
      rintro d ⟨⟩
      decide
    · rwa [text_abstraction, List.getLast?_append_of_ne_nil _ hne]
  rw [htext] at hpasses htrim ⊢
  exact Operation.isArgument_of_name (List.all_eq_true.1 (by decide)) (by decide)
    (by rintro d ⟨⟩; decide) hequals hpasses htrim

theorem arguments_filtered :
    ∀ a ∈ [(s.abstraction s.condition).text, s.source.text], IsArgument a ∧ Rendering.Balanced a :=
  List.forall_mem_cons.2 ⟨⟨s.isArgument_abstraction _, s.balanced_abstraction _⟩,
    List.forall_mem_singleton.2 ⟨s.isArgument_source,
      .of_plain fun _ hc => isPlain_of_isWord (Operation.isWord_text _ hc)⟩⟩

theorem argument_call (f : Identifier) {args : List (List Char)}
    (h : ∀ a ∈ args, IsArgument a ∧ Rendering.Balanced a) :
    IsArgument (call f args) ∧ Rendering.Balanced (call f args) :=
  have hbalanced := fun a ha => (h a ha).2
  ⟨Operation.isArgument_call f
      (Operation.passes_hidden_of_balanced (Operation.balanced_joinBy hbalanced)),
    Operation.balanced_call f hbalanced⟩

theorem arguments_mappings :
    ∀ a ∈ [(s.abstraction s.element).text, s.filtered], IsArgument a ∧ Rendering.Balanced a :=
  List.forall_mem_cons.2 ⟨⟨s.isArgument_abstraction _, s.balanced_abstraction _⟩,
    List.forall_mem_singleton.2 (argument_call _ s.arguments_filtered)⟩

theorem comprehension?_mappings : comprehension? s.mappings = none := by
  have hbalanced := Operation.balanced_joinBy fun a ha => (s.arguments_mappings a ha).2
  have hpasses : Written.Passes (lacks 'f') 0 s.mappings := by
    refine Operation.passes_call mapName (Operation.passes_hidden_of_balanced hbalanced)
      (fun c place h => ?_) (List.all_eq_true.1 (by decide))
    rw [Operation.hidden] at h
    rw [lacks, h, Bool.true_or]
  have hnone : findKeyword ["for"] s.mappings = [] :=
    Written.findKeywordFrom_eq_nil [] rfl hpasses.admits 0 none
  rw [comprehension?, hnone]
  exact rfl

/-! ## Filtering -/

variable {s} {m : Machine} {scope : Nat}

/-- A call of the condition, as `filter` makes it. -/
theorem ends_kept (hm : m.IsClosed scope) (hscope : scope < m.store.scopes.size) {v : Value}
    (hv : v.Within m.store) {M : Machine} (hcont : m.Continues M) {ref number : Nat}
    (href : M.store.functions[ref]? = some ((s.abstraction s.condition).function number scope))
    (n : Nat) :
    Outcome.Ends (s.value m scope s.condition v).Fails
      (fun kept M' => M.Continues M' ∧ kept = s.keeps m scope v ∧
        ¬(s.value m scope s.condition v).Fails)
      (((Engine.level n).apply (.function ref) [v] [] >>= Run.truthy) M) :=
  .bind (ends_apply hm hscope hv s.condition hcont href n) fun _ _ ⟨hmore, htruthy, hstands⟩ =>
    .done ⟨hmore, htruthy, hstands.not_fails⟩

theorem ends_filterAuxM (hm : m.IsClosed scope) (hscope : scope < m.store.scopes.size)
    {vs : List Value} (hvs : ∀ v ∈ vs, v.Within m.store) {ref number : Nat} (n : Nat) {M : Machine}
    (hcont : m.Continues M)
    (href : M.store.functions[ref]? = some ((s.abstraction s.condition).function number scope))
    (kept : List Value) :
    Outcome.Ends (∃ v ∈ vs, (s.value m scope s.condition v).Fails)
      (fun us M' => M.Continues M' ∧ (∀ v ∈ vs, ¬(s.value m scope s.condition v).Fails) ∧
        us = (vs.filter (s.keeps m scope)).reverse ++ kept)
      (vs.filterAuxM (fun v => (Engine.level n).apply (.function ref) [v] [] >>= Run.truthy)
        kept M) := by
  induction vs generalizing M kept with
  | nil => exact .done ⟨.refl M, by simp, rfl⟩
  | cons v vs ih =>
    have hv := hvs v List.mem_cons_self
    have hrest := fun w hw => hvs w (List.mem_cons_of_mem v hw)
    rw [List.filterAuxM]
    refine .bind ((ends_kept hm hscope hv hcont href n).imp (fun h => ⟨v, List.mem_cons_self, h⟩)
      fun _ _ h => h) ?_
    rintro keep M₁ ⟨hcont₁, hkeep, hcondition⟩
    refine (ih hrest (hcont.trans hcont₁) (hcont₁.functions href) (cond keep (v :: kept) kept)).imp
      (fun h => h.imp fun w hw => ⟨List.mem_cons_of_mem v hw.1, hw.2⟩) ?_
    rintro us M₂ ⟨hcont₂, hconditions, hus⟩
    refine ⟨hcont₁.trans hcont₂, List.forall_mem_cons.2 ⟨hcondition, hconditions⟩, ?_⟩
    rw [hus, List.filter_cons, ← hkeep]
    cases keep with
    | true => simp
    | false => simp

theorem ends_filterM (hm : m.IsClosed scope) (hscope : scope < m.store.scopes.size)
    {vs : List Value} (hvs : ∀ v ∈ vs, v.Within m.store) {ref number : Nat} (n : Nat) {M : Machine}
    (hcont : m.Continues M)
    (href : M.store.functions[ref]? = some ((s.abstraction s.condition).function number scope)) :
    Outcome.Ends (∃ v ∈ vs, (s.value m scope s.condition v).Fails)
      (fun us M' => M.Continues M' ∧ (∀ v ∈ vs, ¬(s.value m scope s.condition v).Fails) ∧
        us = vs.filter (s.keeps m scope))
      (vs.filterM (fun v => (Engine.level n).apply (.function ref) [v] [] >>= Run.truthy) M) :=
  .bind (ends_filterAuxM hm hscope hvs n hcont href []) fun us M' ⟨hcalls, hconditions, hus⟩ =>
    .done ⟨hcalls, hconditions, by rw [hus, List.append_nil, List.reverse_reverse]⟩

/-! ## The environment -/

variable (s m scope) in
/-- A machine on which the comprehension can be evaluated by functions: the source is a list that is
not too long, and no name that the functions are called by is bound. Every machine that a program has
reached is closed (`Machine.Sound.isClosed`). -/
structure Ready (ref : Nat) : Prop where
  closed : m.IsClosed scope
  attached : m.attached = true
  source : (m.store.scope scope).get? (String.ofList s.source.text) = some (.list ref)
  size : (m.store.items ref).size ≤ maxSequence
  free : ∀ name ∈ ["list", "map", "filter"], (m.store.scope scope).get? name = none

namespace Ready

variable {ref : Nat} (h : s.Ready m scope ref)
include h

theorem scope_lt : scope < m.store.scopes.size := by
  by_contra hge
  have hsource := h.source
  rw [Store.scope, Array.getElem?_eq_none (by omega)] at hsource
  cases hsource

theorem within : ∀ v ∈ (m.store.items ref).toList, v.Within m.store := fun v hv =>
  h.closed.items ref v (Array.mem_toList_iff.1 hv)

variable {M : Machine} (hcont : m.Continues M)
include hcont

theorem attached_later : M.attached = true := hcont.attached.trans h.attached

theorem names_later (name : String) :
    (M.store.scope scope).get? name = (m.store.scope scope).get? name := by
  rw [hcont.scopes scope h.scope_lt]

theorem items_later : M.store.items ref = m.store.items ref :=
  hcont.grown.items (h.closed.names _ _ h.source)

end Ready

/-! ## The stages -/

theorem invoke_filter (e : Engine) (f v : Value) :
    Builtin.filter.invoke e [f, v] [] = Sequence.filter e f v := rfl

theorem invoke_map (e : Engine) (f v : Value) :
    Builtin.map.invoke e [f, v] [] = Sequence.map e f v := rfl

theorem invoke_list (e : Engine) (v : Value) : Builtin.list.invoke e [v] [] = Convert.list v := rfl

/-- Making a function of the item. -/
theorem ends_abstraction (t : Tree) {M : Machine} (hattached : M.attached = true) (n : Nat) :
    Outcome.Ends False (fun w M' => M.Continues M' ∧ ∃ ref number, w = .function ref ∧
        M'.store.functions[ref]? = some ((s.abstraction t).function number scope))
      ((Engine.level n).eval scope (s.abstraction t).text M) := by
  refine .eval fun k _ => ?_
  rw [(s.abstraction t).evaluate_of_le_one _ scope (Nat.le_refl 1) hattached]
  exact .done ⟨.newFunction M _, _, _, rfl, Array.getElem?_push_size⟩

variable (s scope) in
/-- What `map` and `filter` are given: a function of the item, and a list. -/
def Given (t : Tree) (M : Machine) (source : Nat → Machine → Prop) (vs : List Value)
    (M' : Machine) : Prop :=
  M.Continues M' ∧ ∃ f number a, vs = [.function f, .list a] ∧
    M'.store.functions[f]? = some ((s.abstraction t).function number scope) ∧ source a M'

/-- The arguments of `map` and `filter`. -/
theorem ends_given (t : Tree) {M : Machine} (hattached : M.attached = true) {bad : Prop}
    {source : Nat → Machine → Prop} {text : List Char} (n : Nat)
    (hsource : ∀ M', M.Continues M' → Outcome.Ends bad
      (fun w M'' => M'.Continues M'' ∧ ∃ a, w = .list a ∧ source a M'')
      ((Engine.level n).eval scope text M')) :
    Outcome.Ends bad (s.Given scope t M source)
      ([(s.abstraction t).text, text].mapM ((Engine.level n).eval scope) M) := by
  simp only [List.mapM_cons, List.mapM_nil, bind_assoc, pure_bind]
  refine .bind ((ends_abstraction t hattached n).imp False.elim fun _ _ h => h)
    fun w M₁ ⟨hmore, f, number, hw, hf⟩ => ?_
  refine .bind (hsource M₁ hmore) fun w' M₂ ⟨hmore', a, hw', ha⟩ => ?_
  exact .done ⟨hmore.trans hmore', f, number, a, by rw [hw, hw'], hmore'.functions hf, ha⟩

theorem ends_filtered {ref : Nat} (h : s.Ready m scope ref) {M : Machine} (hcont : m.Continues M)
    (n : Nat) :
    Outcome.Ends (∃ v ∈ (m.store.items ref).toList, (s.value m scope s.condition v).Fails)
      (fun w M' => M.Continues M' ∧ ∃ a, w = .list a ∧
        (∀ v ∈ (m.store.items ref).toList, ¬(s.value m scope s.condition v).Fails) ∧
          (M'.store.items a).toList = (m.store.items ref).toList.filter (s.keeps m scope))
      ((Engine.level n).eval scope s.filtered M) := by
  have hfree : (M.store.scope scope).get? "filter" = none := by
    rw [h.names_later hcont, h.free _ (by simp)]
  refine .call (f := filterName) (b := .filter)
    (p := s.Given scope s.condition M fun a _ => a = ref) rfl s.arguments_filtered (by simp) hfree
    (fun k => ?_) ?_ n
  · refine ends_given s.condition (h.attached_later hcont) k fun M' hmore => ?_
    have hbound := ends_bound s.source ((h.names_later (hcont.trans hmore) _).trans h.source) k
      (List.forall_mem_nil _) (List.forall_mem_nil _)
    rw [List.nil_append, List.append_nil] at hbound
    refine hbound.imp False.elim fun w M'' ⟨hw, hM⟩ => ?_
    subst hM
    exact ⟨.refl _, ref, hw, rfl⟩
  · rintro k vs M' ⟨hmore, f, number, a, rfl, hf, rfl⟩
    rw [invoke_filter]
    change Outcome.Ends _ _ (((M'.store.items a).toList.filterM (fun v =>
      (Engine.level k).apply (.function f) [v] [] >>= Run.truthy) >>= fun kept =>
        Run.newList kept.toArray) M')
    rw [h.items_later (hcont.trans hmore)]
    refine .bind (ends_filterM h.closed h.scope_lt h.within k (hcont.trans hmore) hf)
      fun us M₁ ⟨hcalls, hconditions, hus⟩ => ?_
    refine (Outcome.Ends.newList _).imp id fun w M₂ ⟨hitems, hw, hgrows⟩ => ?_
    refine ⟨(hmore.trans hcalls).trans (.of_grows hgrows), _, hw, hconditions, ?_⟩
    rw [hitems, hus]

theorem ends_mapM {ref : Nat} (h : s.Ready m scope ref) {vs : List Value}
    (hvs : ∀ v ∈ vs, v.Within m.store) {f number : Nat} (n : Nat) {M : Machine}
    (hcont : m.Continues M)
    (hf : M.store.functions[f]? = some ((s.abstraction s.element).function number scope)) :
    Outcome.Ends (∃ v ∈ vs, (s.value m scope s.element v).Fails)
      (fun us M' => M.Continues M' ∧ (∀ v ∈ vs, ¬(s.value m scope s.element v).Fails) ∧
        List.Forall₂ (s.Stands m scope s.element M'.store) vs us)
      (vs.mapM (fun v => (Engine.level n).apply (.function f) [v] []) M) := by
  induction vs generalizing M with
  | nil => exact .done ⟨.refl M, by simp, .nil⟩
  | cons v vs ih =>
    rw [List.mapM_cons]
    have hcall := ends_apply h.closed h.scope_lt (hvs v List.mem_cons_self) s.element hcont hf n
    refine .bind (hcall.imp (fun h => ⟨v, List.mem_cons_self, h⟩) fun _ _ h => h)
      fun w M₁ ⟨hcont₁, _, hstands⟩ => ?_
    have hrest := ih (fun w hw => hvs w (List.mem_cons_of_mem v hw)) (hcont.trans hcont₁)
      (hcont₁.functions hf)
    refine .bind (hrest.imp (fun h => h.imp fun w hw => ⟨List.mem_cons_of_mem v hw.1, hw.2⟩)
      fun _ _ h => h) fun us M₂ ⟨hcont₂, helements, hus⟩ => ?_
    exact .done ⟨hcont₁.trans hcont₂, List.forall_mem_cons.2 ⟨hstands.not_fails, helements⟩,
      .cons (hstands.later hcont₂.grown) hus⟩

theorem ends_mappings {ref : Nat} (h : s.Ready m scope ref) (n : Nat) :
    Outcome.Ends (∃ v ∈ (m.store.items ref).toList, s.Spoils m scope v)
      (fun w M' => m.Continues M' ∧ (∀ v ∈ (m.store.items ref).toList, ¬s.Spoils m scope v) ∧
        ∃ b, w = .list b ∧ List.Forall₂ (s.Stands m scope s.element M'.store)
          ((m.store.items ref).toList.filter (s.keeps m scope)) (M'.store.items b).toList)
      ((Engine.level n).eval scope s.mappings m) := by
  refine .call (f := mapName) (b := .map) (p := s.Given scope s.element m fun a M' =>
      (∀ v ∈ (m.store.items ref).toList, ¬(s.value m scope s.condition v).Fails) ∧
        (M'.store.items a).toList = (m.store.items ref).toList.filter (s.keeps m scope))
    rfl s.arguments_mappings (by simp) (h.free "map" (by simp)) (fun k => ?_) ?_ n
  · refine ends_given s.element h.attached k fun M' hmore => ?_
    exact (ends_filtered h hmore k).imp (fun h => h.imp fun v hv => ⟨hv.1, .inl hv.2⟩)
      fun _ _ h => h
  · rintro k vs M' ⟨hmore, f, number, a, rfl, hf, hconditions, ha⟩
    rw [invoke_map]
    change Outcome.Ends _ _ (((M'.store.items a).toList.mapM (fun v =>
      (Engine.level k).apply (.function f) [v] []) >>= fun us => Run.newList us.toArray) M')
    rw [ha]
    have hkept (v : Value) (hv : v ∈ (m.store.items ref).toList.filter (s.keeps m scope)) :
        v ∈ (m.store.items ref).toList ∧ s.keeps m scope v = true := List.mem_filter.1 hv
    have hcalls := ends_mapM h (fun v hv => h.within v (hkept v hv).1) k hmore hf
    refine .bind (hcalls.imp (fun h => h.imp fun v hv => ⟨(hkept v hv.1).1, .inr ⟨(hkept v hv.1).2,
      hv.2⟩⟩) fun _ _ h => h) fun us M₁ ⟨hcont₁, helements, hus⟩ => ?_
    refine (Outcome.Ends.newList _).imp id fun w M₂ ⟨hitems, hw, hgrows⟩ => ?_
    refine ⟨(hmore.trans hcont₁).trans (.of_grows hgrows), fun v hv => ?_, _, hw, ?_⟩
    · rintro (hfails | ⟨hkeeps, hfails⟩)
      · exact hconditions v hv hfails
      · exact helements v (List.mem_filter.2 ⟨hv, hkeeps⟩) hfails
    · rw [hitems]
      exact hus.imp fun _ _ h => h.later hgrows.extends

/-- **The value of the call.** -/
theorem ends_mapped {ref : Nat} (h : s.Ready m scope ref) (n : Nat) :
    Outcome.Ends (∃ v ∈ (m.store.items ref).toList, s.Spoils m scope v)
      (fun w m' => (∀ v ∈ (m.store.items ref).toList, ¬s.Spoils m scope v) ∧
        ∃ a, w = .list a ∧ List.Forall₂ (s.Stands m scope s.element m'.store)
          ((m.store.items ref).toList.filter (s.keeps m scope)) (m'.store.items a).toList)
      ((Engine.level n).eval scope s.mapped m) := by
  rw [s.mapped_eq]
  have halone : ∀ a, [s.mappings] = [a] → comprehension? a = none := by
    rintro a ⟨⟩
    exact s.comprehension?_mappings
  refine .call (f := listName) (b := .list) (p := fun vs M' =>
      ∃ b, vs = [.list b] ∧ (∀ v ∈ (m.store.items ref).toList, ¬s.Spoils m scope v) ∧
        List.Forall₂ (s.Stands m scope s.element M'.store)
          ((m.store.items ref).toList.filter (s.keeps m scope)) (M'.store.items b).toList)
    rfl (List.forall_mem_singleton.2 (argument_call _ s.arguments_mappings)) halone
    (h.free "list" (by simp)) (fun k => ?_) ?_ n
  · simp only [List.mapM_cons, List.mapM_nil, pure_bind]
    refine .bind (ends_mappings h k) fun w M' ⟨_, hspoils, b, hw, hb⟩ => ?_
    exact .done ⟨b, by rw [hw], hspoils, hb⟩
  · rintro k vs M' ⟨b, rfl, hspoils, hb⟩
    rw [invoke_list]
    change Outcome.Ends _ _ (Run.newList (M'.store.items b) M')
    refine (Outcome.Ends.newList _).imp id fun w M₁ ⟨hitems, hw, hgrows⟩ => ?_
    refine ⟨hspoils, _, hw, ?_⟩
    rw [hitems]
    exact hb.imp fun _ _ h => h.later hgrows.extends

/-! ## The two forms -/

theorem alike_of_stands {t : Tree} {store store' : Store} {vs ws ws' : List Value}
    (h : List.Forall₂ (s.Stands m scope t store) vs ws)
    (h' : List.Forall₂ (s.Stands m scope t store') vs ws') :
    List.Forall₂ (Value.Alike m.store store store') ws ws' := by
  induction h generalizing ws' with
  | nil =>
    cases h'
    exact .nil
  | cons hw _ ih =>
    cases h' with
    | cons hw' hrest => exact .cons (hw.alike hw') (ih hrest)

/-- **Comprehensions and functions.** If no limit is reached, a comprehension and the call of `list`
on `map` and `filter` that says the same both fail, or both give lists whose items are like each
other. -/
theorem evaluate_mapped (s : Selection) {m : Machine} {scope ref : Nat} (h : s.Ready m scope ref)
    (n n' : Nat) {r r' : Outcome Value}
    (hr : Expression.evaluate (Engine.level n) scope s.comprehension m = r)
    (hr' : Expression.evaluate (Engine.level n') scope s.mapped m = r')
    (hlimits : ¬r.IsLimited) (hlimits' : ¬r'.IsLimited) :
    r.Fails ∧ r'.Fails ∨
      ∃ a b m₁ m₁', r = .ok (.list a) m₁ ∧ r' = .ok (.list b) m₁' ∧
        List.Forall₂ (Value.Alike m.store m₁.store m₁'.store)
          (m₁.store.items a).toList (m₁'.store.items b).toList := by
  have hfirst := ends_comprehend h.closed h.source h.size n
  have hsecond := ends_mapped h (n' + 1)
  have hlevel : (Engine.level (n' + 1)).eval = Expression.evaluate (Engine.level n') := rfl
  rw [← s.evaluate_comprehension, hr] at hfirst
  rw [hlevel, hr'] at hsecond
  obtain ⟨⟨v, hv, hspoils⟩, hfails⟩ | ⟨w, m₁, hvalue, hgood, a, rfl, ha⟩ :=
    hfirst.cases_of_not_limited hlimits
  · obtain ⟨-, hfails'⟩ | ⟨w', m₁', -, hgood, -⟩ := hsecond.cases_of_not_limited hlimits'
    · exact .inl ⟨hfails, hfails'⟩
    · exact absurd hspoils (hgood v hv)
  · obtain ⟨⟨v, hv, hspoils⟩, -⟩ | ⟨w', m₁', hvalue', -, b, rfl, hb⟩ :=
      hsecond.cases_of_not_limited hlimits'
    · exact absurd hspoils (hgood v hv)
    · exact .inr ⟨a, b, m₁, m₁', hvalue, hvalue', alike_of_stands ha hb⟩

theorem isName_x : isName ['x'] = true := by decide

theorem x_notMem_reservedWords : String.ofList ['x'] ∉ reservedWords := by decide

def itemX : Identifier := ⟨['x'], isName_x, x_notMem_reservedWords⟩

/-- `[x] if x in [2] else x` for the items that are greater than one. -/
def sample : Selection where
  element := .conditional
    (.comparison .member (.name itemX) (.list [.number ⟨'2', [], rfl, by simp⟩]))
    (.list [.name itemX]) (.name itemX)
  item := itemX
  source := ⟨"xs".toList, by decide, by decide⟩
  condition := .comparison .gt (.name itemX) (.number ⟨'1', [], rfl, by simp⟩)

/-- A machine on which `xs` is bound to a list of three numbers. -/
def holdingThree : Machine :=
  { store := { lists := #[#[.int 1, .int 2, .int 3]], scopes := #[[("xs", .list 0)]] } }

theorem ready_sample : sample.Ready holdingThree 0 0 where
  closed := by
    refine ⟨fun ref v hv => ?_, fun name v hv => ?_⟩
    · cases ref with
      | zero =>
        have hitem : v = .int 1 ∨ v = .int 2 ∨ v = .int 3 := by
          simpa [Store.items, holdingThree] using hv
        obtain rfl | rfl | rfl := hitem <;> trivial
      | succ ref =>
        have hnone : holdingThree.store.items (ref + 1) = #[] := rfl
        rw [hnone] at hv
        exact absurd hv (Array.not_mem_empty v)
    · change [("xs", Value.list 0)].lookup name = some v at hv
      rw [List.lookup_cons] at hv
      split at hv
      · cases hv
        exact Nat.zero_lt_one
      · cases hv
  attached := rfl
  source := rfl
  size := by decide
  free := by decide

/-- Words of the comprehension stand in its element too. -/
theorem evaluate_mapped_sample :
    ∃ a b m₁ m₁',
      Expression.evaluate (Engine.level 8) 0
        "[[x] if x in [2] else x for x in xs if x > 1]".toList holdingThree = .ok (.list a) m₁ ∧
      Expression.evaluate (Engine.level 8) 0
        "list(map(lambda x: [x] if x in [2] else x, filter(lambda x: x > 1, xs)))".toList
        holdingThree = .ok (.list b) m₁' ∧
      List.Forall₂ (Value.Alike holdingThree.store m₁.store m₁'.store)
        (m₁.store.items a).toList (m₁'.store.items b).toList := by
  have hcomprehension : sample.comprehension =
      "[[x] if x in [2] else x for x in xs if x > 1]".toList := by decide +kernel
  have hmapped : sample.mapped =
      "list(map(lambda x: [x] if x in [2] else x, filter(lambda x: x > 1, xs)))".toList := by
    decide +kernel
  have hvalue : Outcome.isTrue (Expression.evaluate (Engine.level 8) 0
      "[[x] if x in [2] else x for x in xs if x > 1]".toList holdingThree) = true := by
    decide +kernel
  have hvalue' : Outcome.isTrue (Expression.evaluate (Engine.level 8) 0
      "list(map(lambda x: [x] if x in [2] else x, filter(lambda x: x > 1, xs)))".toList
      holdingThree) = true := by
    decide +kernel
  obtain ⟨⟨stop, m, hfails⟩, -⟩ | hlists := sample.evaluate_mapped ready_sample 8 8
    (congrArg (Expression.evaluate (Engine.level 8) 0 · holdingThree) hcomprehension)
    (congrArg (Expression.evaluate (Engine.level 8) 0 · holdingThree) hmapped)
    (Outcome.not_isLimited hvalue) (Outcome.not_isLimited hvalue')
  · rw [hfails] at hvalue
    cases hvalue
  · exact hlists

end Selection

end SnippetGrader
