import SnippetGrader.Proofs.Operation.Extension
import SnippetGrader.Proofs.Renaming.Likeness
import SnippetGrader.Proofs.Scoping

/-!
# Assignments to several names at once

The statement `x1, …, xn = e1, …, en` with written trees on the right. All of them are evaluated
before the first name is bound, so what a name is bound to is what its tree stands for before the
statement, whatever the other names are bound to.
-/

namespace SnippetGrader.Operation

open Text Source Statement Expression Rendering

/-! ## The text -/

def simultaneousText (xs : List Identifier) (ts : List Tree) : List Char :=
  ", ".toList.intercalate (xs.map (·.text)) ++ " = ".toList ++
    ", ".toList.intercalate (ts.map Tree.render)

/-- The line of a simultaneous assignment. -/
def simultaneous (xs : List Identifier) (ts : List Tree) (indent number : Nat) : Line :=
  ⟨simultaneousText xs ts, indent, number⟩

def nameRow (xs : List Identifier) : List Lexeme := separated (xs.map fun x => [.name x])

def treeRow (ts : List Tree) : List Lexeme := separated (Tree.lexemesAll (Tree.regroupAll ts))

theorem simultaneousText_eq (xs : List Identifier) (ts : List Tree) :
    simultaneousText xs ts = writing (nameRow xs) ++ ' ' :: (Symbol.assign.chars ++ ' ' ::
      writing (treeRow ts)) := by
  have hnames : (xs.map fun x => [Lexeme.name x]).map writing = xs.map (·.text) := by
    rw [List.map_map]
    exact List.map_congr_left fun x _ => List.append_nil x.text
  have htrees : (Tree.lexemesAll (Tree.regroupAll ts)).map writing = ts.map Tree.render := by
    rw [Tree.map_writing_lexemesAll]
    induction ts with
    | nil => rfl
    | cons t ts ih => rw [Tree.regroupAll, Tree.spellAll, ih, List.map_cons, Tree.render]
  rw [simultaneousText, nameRow, treeRow, writing_separated, writing_separated, hnames, htrees]
  simp [Symbol.chars]

section Names

variable (x y : Identifier) (xs : List Identifier)

theorem shape_names : ∀ ps ∈ (x :: xs).map fun x => [Lexeme.name x], Shape 0 ps := by
  intro ps hps
  obtain ⟨z, -, rfl⟩ := List.mem_map.1 hps
  exact (Shape.single rfl).mono (Nat.zero_le _)

theorem writing_nameRow : writing (nameRow (x :: y :: xs)) =
    x.text ++ ',' :: ' ' :: writing (nameRow (y :: xs)) := by
  rw [nameRow, List.map_cons, List.map_cons, separated_cons_cons]
  rfl

theorem isTarget_nameRow : IsTarget (writing (nameRow (x :: xs))) where
  plain := by
    induction xs generalizing x with
    | nil =>
      have hrow : writing (nameRow [x]) = x.text := List.append_nil x.text
      rw [hrow]
      exact (isTarget_text x).plain
    | cons y xs ih =>
      intro c hc
      rw [writing_nameRow, List.mem_append, List.mem_cons, List.mem_cons] at hc
      obtain hc | rfl | rfl | hc := hc
      · exact (isTarget_text x).plain c hc
      · decide
      · decide
      · exact ih y c hc
  trimmed := trim_separated (shape_names x xs)
  ne_nil := by
    obtain ⟨hlegible, hhead, -⟩ := separated_ends (shape_names x xs)
    refine writing_ne_nil fun hnil => ?_
    rw [nameRow, List.map_cons] at hnil
    rw [hnil] at hhead
    cases hhead

theorem cutTopLevel_nameRow : cutTopLevel ',' (writing (nameRow (x :: xs))) =
    (x :: xs).map (·.text) := by
  have hparts := cutTopLevel_separated (shape_names x xs)
  rw [← List.map_cons (f := fun x => [Lexeme.name x]), List.map_map] at hparts
  rw [nameRow, hparts]
  exact List.map_congr_left fun x _ => List.append_nil x.text

/-- Several names with commas between them are a target for each. -/
theorem ofText_nameRow : Target.ofText (writing (nameRow (x :: y :: xs))) =
    .items ((x :: y :: xs).map fun x => .name (name x)) := by
  have htrim : trim (writing (nameRow (x :: y :: xs))) = writing (nameRow (x :: y :: xs)) :=
    (isTarget_nameRow x (y :: xs)).trimmed
  have hcut := cutTopLevel_nameRow x (y :: xs)
  have hrow := writing_nameRow x y xs
  generalize hrest : ' ' :: writing (nameRow (y :: xs)) = rest at hrow
  have hname : isName (writing (nameRow (x :: y :: xs))) = false :=
    isName_eq_false ⟨',', by simp [hrow], by decide⟩
  have hcomma : ∀ c ∈ (',' :: rest).head?, isWord c = false := by
    rintro c ⟨⟩
    decide
  obtain ⟨c, more, hx, hstart, -⟩ := x.exists_head
  have hannotated : annotatedName? (writing (nameRow (x :: y :: xs))) = none := by
    have hfirst : name? (writing (nameRow (x :: y :: xs))) = some (x.text, ',' :: rest) := by
      rw [name?, hrow, splitName_text x hcomma, hx]
      rfl
    rw [annotatedName?, hfirst]
    rfl
  have hbracket : ((writing (nameRow (x :: y :: xs))).head? == some '(' ||
      (writing (nameRow (x :: y :: xs))).head? == some '[') = false := by
    have hround : c ≠ '(' := ne_of_isWord (isWord_of_isNameStart hstart) (by decide)
    have hsquare : c ≠ '[' := ne_of_isWord (isWord_of_isNameStart hstart) (by decide)
    simp [hrow, hx, hround, hsquare]
  have hparts : (((x :: y :: xs).map (·.text)).filter fun p => !p.isEmpty) =
      (x :: y :: xs).map (·.text) := by
    rw [List.filter_eq_self]
    intro text htext
    obtain ⟨z, -, rfl⟩ := List.mem_map.1 htext
    simpa using (isTarget_text z).ne_nil
  have hitem (fuel : Nat) (z : Identifier) :
      Target.ofTextWithin (fuel + 1) z.text = .name (name z) := by
    rw [Target.ofTextWithin]
    simp only [trim_of_isName z.isName_text, z.isName_text, if_true]
    rfl
  have hlength : (writing (nameRow (x :: y :: xs))).length =
      (more ++ ',' :: rest).length + 1 := by
    rw [hrow, hx]
    rfl
  rw [Target.ofText, Target.ofTextWithin]
  simp only [htrim, hname, hannotated, hcut, hbracket, hparts, Bool.and_false, Bool.false_and,
    Bool.false_eq_true, if_false, List.map_map, hlength]
  rw [if_pos (by simp)]
  exact congrArg Target.items (List.map_congr_left fun z _ => hitem _ z)

end Names

section Values

variable (t u : Tree) (ts : List Tree)

theorem shape_trees : ∀ ps ∈ Tree.lexemesAll (Tree.regroupAll ts), Shape 0 ps :=
  Tree.shapes _ (Tree.groupedAll_regroupAll ts)

theorem legible_treeRow : Legible (treeRow (t :: ts)) :=
  (separated_ends (shape_trees (t :: ts))).1

theorem trim_treeRow : trim (writing (treeRow (t :: ts))) = writing (treeRow (t :: ts)) :=
  trim_separated (shape_trees (t :: ts))

theorem treeRow_ne_nil : writing (treeRow (t :: ts)) ≠ [] := by
  obtain ⟨-, hhead, -⟩ := separated_ends (shape_trees (t :: ts))
  obtain ⟨p, hp, -⟩ := (shape_trees (t :: ts) _ List.mem_cons_self).front
  refine writing_ne_nil fun hnil => ?_
  rw [treeRow] at hnil
  rw [← hhead] at hp
  simp only [Tree.regroupAll, Tree.lexemesAll] at hnil hp
  rw [hnil] at hp
  cases hp

theorem assignment?_treeRow : assignment? (writing (treeRow (t :: ts))) = none := by
  have hnone : (tokens (writing (treeRow (t :: ts)))).find? (fun t => t.symbol.isAssignment) =
      none := by
    rw [tokens_writing (legible_treeRow t ts), List.find?_eq_none]
    intro token htoken
    obtain ⟨-, hs, -⟩ := mem_symbolTokens htoken
    revert hs
    cases token.symbol <;> decide
  rw [assignment?, hnone]

theorem chainedTargets_eq {value : List Char} (h : assignment? value = none) (fuel : Nat) :
    chainedTargets fuel value = ([], value) := by
  cases fuel with
  | zero => rfl
  | succ fuel => rw [chainedTargets, h]

variable {R : Congruence} {e : Engine} {scope : Nat}

/-- Several trees are evaluated to a list of what they stand for. -/
theorem evaluate_treeRow
    (he : Reads R e scope (Tree.depthAll (Tree.regroupAll (t :: u :: ts)) + 1)) :
    R.rel (Expression.evaluate e scope (writing (treeRow (t :: u :: ts))))
      (Tree.denoteAll scope (t :: u :: ts) >>= fun vs => Run.newList vs.toArray) := by
  have hgrouped := Tree.groupedAll_regroupAll (t :: u :: ts)
  have hitems := Tree.mapM_items hgrouped he
  rw [Tree.denoteAll_regroupAll] at hitems
  have hrow := Tree.evaluate_row e scope hgrouped
  simp only [treeRow, Tree.regroupAll] at hrow hitems ⊢
  rw [hrow]
  exact R.bind hitems fun vs => R.refl _

end Values

/-! ## Binding -/

def bindingAll (sc : Scope) : List String → List Value → Scope
  | n :: ns, v :: vs => bindingAll (sc.set n v) ns vs
  | _, _ => sc

theorem get?_bindingAll_of_notMem {n : String} {ns : List String} (h : n ∉ ns) (sc : Scope)
    (vs : List Value) : (bindingAll sc ns vs).get? n = sc.get? n := by
  induction ns generalizing sc vs with
  | nil => rfl
  | cons k ns ih =>
    rw [List.mem_cons, not_or] at h
    cases vs with
    | nil => rfl
    | cons v vs => rw [bindingAll, ih h.2, Scope.get?_set_of_ne h.1]

theorem get?_bindingAll {ns : List String} (h : ns.Nodup) (sc : Scope) {vs : List Value}
    {n : String} {v : Value} (hv : (n, v) ∈ ns.zip vs) : (bindingAll sc ns vs).get? n = some v := by
  induction ns generalizing sc vs with
  | nil => cases hv
  | cons k ns ih =>
    obtain ⟨hk, hns⟩ := List.nodup_cons.1 h
    cases vs with
    | nil => cases hv
    | cons w vs =>
      rw [List.zip_cons_cons, List.mem_cons] at hv
      rw [bindingAll]
      obtain hv | hv := hv
      · cases hv
        rw [get?_bindingAll_of_notMem hk, Scope.get?_set]
      · exact ih hns _ hv

def boundIn (scope : Nat) (ns : List String) (vs : List Value) (m : Machine) : Machine :=
  { m with store := { m.store with
      scopes := m.store.scopes.modify scope fun sc => bindingAll sc ns vs } }

theorem modify_modify {α : Type} (xs : Array α) (i : Nat) (f g : α → α) :
    (xs.modify i f).modify i g = xs.modify i (g ∘ f) := by
  refine Array.ext_getElem? fun j => ?_
  rw [Array.getElem?_modify, Array.getElem?_modify, Array.getElem?_modify]
  split
  · exact Option.map_map ..
  · rfl

theorem assignEach_names (E : Engine) (scope : Nat) {ns : List String} {vs : List Value}
    (h : vs.length = ns.length) (m : Machine) :
    assignEach E scope (ns.map Target.name) vs m = .ok () (boundIn scope ns vs m) := by
  induction ns generalizing vs m with
  | nil =>
    obtain rfl := List.length_eq_zero_iff.1 h
    have hsame : m.store.scopes.modify scope (fun sc => sc) = m.store.scopes := by
      refine Array.ext_getElem? fun i => ?_
      rw [Array.getElem?_modify]
      split
      · exact Option.map_id_apply
      · rfl
    change _ = EStateM.Result.ok () { m with store := { m.store with
      scopes := m.store.scopes.modify scope fun sc => sc } }
    rw [hsame]
    rfl
  | cons n ns ih =>
    cases vs with
    | nil => cases h
    | cons v vs =>
      have hrest := ih (Nat.succ.inj h)
        { m with store := { m.store with scopes := m.store.scopes.modify scope fun sc => sc.set n v } }
      rw [boundIn, modify_modify] at hrest
      exact hrest

theorem executeAssignment_names (E : Engine) (scope : Nat) (x y : Identifier)
    (xs : List Identifier) (t : Tree) (ts : List Tree) :
    executeAssignment E scope
        ⟨writing (nameRow (x :: y :: xs)), .assign, writing (treeRow (t :: ts))⟩ =
      E.eval scope (writing (treeRow (t :: ts))) >>= fun v =>
        assign E scope (.items (((x :: y :: xs).map name).map .name)) v := by
  have htargets : ((x :: y :: xs).map name).map Target.name =
      (x :: y :: xs).map fun x => .name (name x) := List.map_map
  have hchange : changeOperator? .assign = none := rfl
  simp only [executeAssignment, hchange, chainedTargets_eq (assignment?_treeRow t ts), htargets]
  refine bind_congr fun v => ?_
  rw [← ofText_nameRow]
  exact bind_pure (m := Run) (assign E scope _ v)

theorem unpacked_list {m : Machine} {ref : Nat} {vs : List Value}
    (hitems : m.store.items ref = vs.toArray) :
    unpacked vs.length (.list ref) m = .ok vs m := by
  have hsplit : unpacked vs.length (.list ref) m =
      (do
        let xs := (m.store.items ref).toList
        if xs.length < vs.length then
          Run.fail (.value ("not enough values to unpack (expected " ++ toString vs.length ++
            ", got " ++ toString xs.length ++ ")"))
        if xs.length > vs.length then
          Run.fail (.value ("too many values to unpack (expected " ++ toString vs.length ++ ")"))
        return xs : Run (List Value)) m := rfl
  rw [hsplit, hitems]
  simp only [Nat.lt_irrefl, gt_iff_lt, if_false]
  rfl

theorem assign_newList (E : Engine) (scope : Nat) {ns : List String} {vs : List Value}
    (h : vs.length = ns.length) (m : Machine) :
    (Run.newList vs.toArray >>= fun v => assign E scope (.items (ns.map .name)) v) m =
      .ok () (boundIn scope ns vs
        { m with store := { m.store with lists := m.store.lists.push vs.toArray } }) := by
  let m' : Machine := { m with store := { m.store with lists := m.store.lists.push vs.toArray } }
  have hnew : (Run.newList vs.toArray >>= fun v => assign E scope (.items (ns.map .name)) v) m =
      assign E scope (.items (ns.map .name)) (.list m.store.lists.size) m' := rfl
  have hitems : m'.store.items m.store.lists.size = vs.toArray := by
    rw [Store.items, Array.getElem?_push_size]
    rfl
  have hunpacked := unpacked_list hitems
  rw [h, ← List.length_map (f := Target.name)] at hunpacked
  rw [hnew, assign, Run.bind_eq, hunpacked]
  exact assignEach_names E scope h m'

/-! ## Evaluating all before binding one -/

section Trees

variable {scope : Nat} {m m' : Machine} (hm : m.IsClosed scope)
include hm

/-- Each of several trees stands for what it stands for alone. -/
theorem denoteAll_alike (h : m.store.Extends m'.store)
    (hnames : ∀ n, (m'.store.scope scope).get? n = (m.store.scope scope).get? n)
    {ts : List Tree} {ws : List Value} {m₁ : Machine}
    (hts : Tree.denoteAll scope ts m' = .ok ws m₁) :
    m'.Grows m₁ ∧ List.Forall₂ (fun t w => ∃ v m₂, t.denote scope m = .ok v m₂ ∧
      ∀ s, m₁.store.Extends s → v.Alike m.store m₂.store s w) ts ws := by
  induction ts generalizing m' ws with
  | nil =>
    cases hts
    exact ⟨.refl _, .nil⟩
  | cons t ts ih =>
    rw [Tree.denoteAll, Run.bind_eq] at hts
    obtain ⟨stop, m₂, m₂', -, hfails⟩ | ⟨v, w, m₂, m₂', ht, hw, hgrows, -, halike⟩ :=
      t.denote_alike hm h hnames
    · rw [hfails] at hts
      cases hts
    · rw [hw] at hts
      dsimp only at hts
      rw [Run.bind_eq] at hts
      cases hrest : Tree.denoteAll scope ts m₂' with
      | error stop m₃ =>
        rw [hrest] at hts
        cases hts
      | ok vs m₃ =>
        rw [hrest] at hts
        cases hts
        have hscope : m₂'.store.scope scope = m'.store.scope scope := by
          rw [Store.scope, Store.scope, hgrows.scopes]
        obtain ⟨hmore, hall⟩ := ih (h.trans hgrows.extends)
          (fun n => by rw [hscope, hnames]) hrest
        exact ⟨hgrows.trans hmore, .cons ⟨v, m₂, ht, fun s hs => halike s (hmore.extends.trans hs)⟩
          hall⟩

/-- If each of several trees alone stands for something, then all of them do. -/
theorem denoteAll_ok (h : m.store.Extends m'.store)
    (hnames : ∀ n, (m'.store.scope scope).get? n = (m.store.scope scope).get? n)
    {ts : List Tree} (hts : ∀ t ∈ ts, ∃ v m₁, t.denote scope m = .ok v m₁) :
    ∃ ws m₁, Tree.denoteAll scope ts m' = .ok ws m₁ := by
  induction ts generalizing m' with
  | nil => exact ⟨[], m', rfl⟩
  | cons t ts ih =>
    obtain ⟨v, m₁, ht⟩ := hts t List.mem_cons_self
    obtain ⟨stop, m₂, m₂', hfails, -⟩ | ⟨v, w, m₂, m₂', -, hw, hgrows, -⟩ :=
      t.denote_alike hm h hnames
    · rw [ht] at hfails
      cases hfails
    · have hscope : m₂'.store.scope scope = m'.store.scope scope := by
        rw [Store.scope, Store.scope, hgrows.scopes]
      obtain ⟨ws, m₃, hrest⟩ := ih (h.trans hgrows.extends) (fun n => by rw [hscope, hnames])
        fun u hu => hts u (List.mem_cons_of_mem t hu)
      refine ⟨w :: ws, m₃, ?_⟩
      rw [Tree.denoteAll, Run.bind_eq, hw]
      dsimp only
      rw [Run.bind_eq, hrest]
      rfl

end Trees

/-- `m'` is `m` after each name was bound to the value that its tree has on `m`, and nothing else
that was there has changed. -/
structure Rebinds (scope : Nat) (xs : List Identifier) (ts : List Tree) (m m' : Machine) :
    Prop where
  values : ∀ p ∈ xs.zip ts, ∃ v w m₁,
    (∀ (bottom : Engine) (n : Nat), p.2.regroup.depth ≤ n →
      Expression.evaluate (bottom.over n) scope p.2.render m = .ok v m₁) ∧
    (m'.store.scope scope).get? (name p.1) = some w ∧ v.Alike m.store m₁.store m'.store w
  others : ∀ n, n ∉ xs.map name →
    (m'.store.scope scope).get? n = (m.store.scope scope).get? n
  scopes : ∀ ref, ref ≠ scope → m'.store.scopes[ref]? = m.store.scopes[ref]?
  kept : m.store.Extends m'.store

section Statement

variable {xs : List Identifier} {ts : List Tree} {scope indent number : Nat} {m : Machine}

/-- The statement is refused by the limits, or fails as the right side does, or binds all names to
what the right side gives. -/
theorem executeLine_row (hlength : xs.length = ts.length) (htwo : 2 ≤ xs.length) (E : Engine)
    (rest : List Line) :
    executeLine E scope (simultaneous xs ts indent number) rest m =
      Outcome.onFailure (fun f => f.locate number (String.ofList (simultaneousText xs ts)))
        (match (m.charged (simultaneous xs ts indent number)).refusal? with
          | some f => .error (.failed f) (m.charged (simultaneous xs ts indent number))
          | none =>
            (E.eval scope (writing (treeRow ts)) >>= fun v => do
              assign E scope (.items ((xs.map name).map .name)) v
              return (0, Flow.normal)) (m.charged (simultaneous xs ts indent number))) := by
  obtain ⟨x, y, xs, rfl⟩ : ∃ x y more, xs = x :: y :: more := by
    match xs, htwo with
    | x :: y :: more, _ => exact ⟨x, y, more, rfl⟩
  obtain ⟨t, ts, rfl⟩ := List.exists_cons_of_length_eq_add_one hlength.symm
  have hvalue : trim (writing (treeRow (t :: ts))) ≠ [] := by
    rw [trim_treeRow]
    exact treeRow_ne_nil t ts
  have hcomma : ∀ c ∈ (',' :: ' ' :: writing (nameRow (y :: xs))).head?, isWord c = false := by
    rintro c ⟨⟩
    decide
  have hassign : Symbol.assign.isAssignment = true := rfl
  have hline := (isTarget_nameRow x (y :: xs)).executeLine rfl hassign hvalue
    (writing_nameRow x y xs) hcomma E scope indent number rest m
  rw [trim_treeRow, executeAssignment_names, bind_assoc, ← simultaneousText_eq] at hline
  exact hline

/-- Where the right side is evaluated, the names are bound. -/
theorem executeLine_bound (hlength : xs.length = ts.length) (htwo : 2 ≤ xs.length) {E : Engine}
    (rest : List Line) {ws : List Value} {m₁ : Machine} (hws : ws.length = xs.length)
    (hstart : (m.charged (simultaneous xs ts indent number)).refusal? = none)
    (hvalue : E.eval scope (writing (treeRow ts))
        (m.charged (simultaneous xs ts indent number)) =
      (Tree.denoteAll scope ts >>= fun vs => Run.newList vs.toArray)
        (m.charged (simultaneous xs ts indent number)))
    (hall : Tree.denoteAll scope ts (m.charged (simultaneous xs ts indent number)) =
      .ok ws m₁) :
    executeLine E scope (simultaneous xs ts indent number) rest m =
      .ok (0, .normal) (boundIn scope (xs.map name) ws
        { m₁ with store := { m₁.store with lists := m₁.store.lists.push ws.toArray } }) := by
  have hnames : ws.length = (xs.map name).length := by rw [hws, List.length_map]
  have hassign := assign_newList E scope hnames m₁
  rw [Run.bind_eq] at hassign
  rw [executeLine_row hlength htwo, hstart]
  dsimp only
  rw [Run.bind_eq, hvalue, Run.bind_eq, hall]
  dsimp only
  cases hlist : Run.newList ws.toArray m₁ with
  | error stop m₂ =>
    rw [hlist] at hassign
    cases hassign
  | ok v m₂ =>
    rw [hlist] at hassign
    dsimp only at hassign ⊢
    rw [Run.bind_eq, hassign]
    rfl

theorem exists_zip {P : Tree → Value → Prop} {ws : List Value} (h : List.Forall₂ P ts ws)
    {p : Identifier × Tree} (hp : p ∈ xs.zip ts) :
    ∃ w, (name p.1, w) ∈ (xs.map name).zip ws ∧ P p.2 w := by
  induction h generalizing xs with
  | nil =>
    rw [List.zip_nil_right] at hp
    cases hp
  | cons htw _ ih =>
    cases xs with
    | nil => cases hp
    | cons x xs =>
      rw [List.zip_cons_cons, List.mem_cons] at hp
      obtain rfl | hp := hp
      · exact ⟨_, List.mem_cons_self, htw⟩
      · obtain ⟨w, hw, hpw⟩ := ih hp
        exact ⟨w, List.mem_cons_of_mem _ hw, hpw⟩

/-- After the names are bound, each is bound to what its tree stands for alone. -/
theorem rebinds_boundIn (hdistinct : (xs.map name).Nodup) (hscope : scope < m.store.scopes.size)
    (hm : m.IsClosed scope) {line : Line} {ws : List Value} {m₁ : Machine}
    (hall : Tree.denoteAll scope ts (m.charged line) = .ok ws m₁) :
    Rebinds scope xs ts m (boundIn scope (xs.map name) ws
      { m₁ with store := { m₁.store with lists := m₁.store.lists.push ws.toArray } }) := by
  have hstart : m.store.Extends (m.charged line).store := .refl m.store
  obtain ⟨hgrows, hvalues⟩ := denoteAll_alike hm hstart (fun n => rfl) hall
  let m' := boundIn scope (xs.map name) ws
    { m₁ with store := { m₁.store with lists := m₁.store.lists.push ws.toArray } }
  have hextends : m₁.store.Extends m'.store :=
    ⟨⟨#[ws.toArray], Array.push_eq_append⟩, ⟨#[], Array.append_empty.symm⟩, Nat.le_refl _, rfl, rfl,
      rfl⟩
  have hscopes : m₁.store.scopes = m.store.scopes := hgrows.scopes
  have hmodified : m'.store.scopes =
      m.store.scopes.modify scope fun sc => bindingAll sc (xs.map name) ws := by
    rw [← hscopes]
    rfl
  have hnames : m'.store.scope scope = bindingAll (m.store.scope scope) (xs.map name) ws := by
    rw [Store.scope, Store.scope, hmodified, Array.getElem?_modify, if_pos rfl,
      Array.getElem?_eq_getElem hscope]
    rfl
  refine ⟨fun p hp => ?_, fun n hn => ?_, fun ref href => ?_, hgrows.extends.trans hextends⟩
  · obtain ⟨w, hw, v, m₂, hv, halike⟩ := exists_zip hvalues hp
    refine ⟨v, w, m₂, fun bottom n hn => ?_, ?_, halike _ hextends⟩
    · rw [evaluate_over p.2 scope bottom hn, hv]
    · rw [hnames]
      exact get?_bindingAll hdistinct _ hw
  · rw [hnames]
    exact get?_bindingAll_of_notMem hn _ ws
  · rw [hmodified, Array.getElem?_modify, if_neg (Ne.symm href)]

/-- Where the right side is evaluated, the names are rebound. -/
theorem executeLine_rebinds (hlength : xs.length = ts.length) (htwo : 2 ≤ xs.length)
    (hdistinct : (xs.map name).Nodup) (hscope : scope < m.store.scopes.size)
    (hm : m.IsClosed scope) {E : Engine} (rest : List Line) {ws : List Value} {m₁ : Machine}
    (hstart : (m.charged (simultaneous xs ts indent number)).refusal? = none)
    (hvalue : E.eval scope (writing (treeRow ts))
        (m.charged (simultaneous xs ts indent number)) =
      (Tree.denoteAll scope ts >>= fun vs => Run.newList vs.toArray)
        (m.charged (simultaneous xs ts indent number)))
    (hall : Tree.denoteAll scope ts (m.charged (simultaneous xs ts indent number)) =
      .ok ws m₁) :
    ∃ m', executeLine E scope (simultaneous xs ts indent number) rest m = .ok (0, .normal) m' ∧
      Rebinds scope xs ts m m' := by
  have hcharged : m.store.Extends (m.charged (simultaneous xs ts indent number)).store :=
    .refl m.store
  obtain ⟨-, hvalues⟩ := denoteAll_alike hm hcharged (fun n => rfl) hall
  have hws : ws.length = xs.length := hvalues.length_eq.symm.trans hlength.symm
  exact ⟨_, executeLine_bound hlength htwo rest hws hstart hvalue hall,
    rebinds_boundIn hdistinct hscope hm hall⟩

/-- What stops the right side stops the statement, before a name is bound. -/
theorem executeLine_stops (hlength : xs.length = ts.length) (htwo : 2 ≤ xs.length) (n : Nat)
    (rest : List Line) {stop : Stop} {m₁ : Machine}
    (hstart : (m.charged (simultaneous xs ts indent number)).refusal? = none)
    (hvalue : (Engine.level n).eval scope (writing (treeRow ts))
      (m.charged (simultaneous xs ts indent number)) = .error stop m₁) :
    ∃ stop m', executeLine (Engine.level n) scope (simultaneous xs ts indent number) rest m =
      .error stop m' ∧ ∀ ref < m.store.scopes.size, m'.store.scopes[ref]? = m.store.scopes[ref]? := by
  have hkept := (Engine.confined_level n).eval scope (writing (treeRow ts))
    (m.charged (simultaneous xs ts indent number))
  have hrow := @executeLine_row xs ts scope indent number m hlength htwo (Engine.level n) rest
  rw [hvalue] at hkept
  rw [hstart] at hrow
  dsimp only at hrow
  rw [Run.bind_eq, hvalue] at hrow
  have hscopes : ∀ ref < m.store.scopes.size, m₁.store.scopes[ref]? = m.store.scopes[ref]? :=
    fun ref href => hkept.scope ref href id
  cases stop with
  | failed f => exact ⟨_, m₁, hrow, hscopes⟩
  | exhausted by_ => exact ⟨_, m₁, hrow, hscopes⟩

/-- The right side is evaluated from left to right, unless an engine with few levels runs out of
them. -/
theorem eval_treeRow_level (htwo : 2 ≤ ts.length) (n : Nat) (m : Machine) :
    (Engine.level n).eval scope (writing (treeRow ts)) m =
        (Tree.denoteAll scope ts >>= fun vs => Run.newList vs.toArray) m ∨
      ∃ m', (Engine.level n).eval scope (writing (treeRow ts)) m =
        .error (.exhausted .evaluation) m' := by
  match ts, htwo with
  | t :: u :: more, _ =>
    cases n with
    | zero => exact .inr ⟨_, rfl⟩
    | succ k =>
      rw [Engine.level_succ, Engine.next_eval]
      exact evaluate_treeRow t u more (reads_level scope k _) m

theorem eval_treeRow_of_le (htwo : 2 ≤ ts.length) {n : Nat}
    (hn : Tree.depthAll (Tree.regroupAll ts) + 2 ≤ n) :
    (Engine.level n).eval scope (writing (treeRow ts)) =
      Tree.denoteAll scope ts >>= fun vs => Run.newList vs.toArray := by
  obtain ⟨k, rfl⟩ := Nat.exists_eq_add_of_le' (show 1 ≤ n by omega)
  match ts, htwo with
  | t :: u :: more, _ =>
    have hlevels : Reads .equality (Engine.level k) scope
        (Tree.depthAll (Tree.regroupAll (t :: u :: more)) + 1) := by
      rw [Engine.level_eq_over]
      exact fun v hv hd => reads_over Engine.exhausted scope k v hv (by omega)
    rw [Engine.level_succ, Engine.next_eval]
    exact evaluate_treeRow t u more hlevels

/-- **Simultaneous assignment.** The statement `x1, …, xn = e1, …, en` either fails and leaves all
scopes as they are, or binds each name to what its tree alone is evaluated to before the statement,
and binds no other name. It does succeed if the limits allow a statement, every tree alone is
evaluated without failure and there are enough levels of nesting. -/
theorem executeLine_simultaneous (hlength : xs.length = ts.length) (htwo : 2 ≤ xs.length)
    (hdistinct : (xs.map name).Nodup) (hscope : scope < m.store.scopes.size)
    (hm : m.IsClosed scope) (n : Nat) (rest : List Line) :
    ((∃ stop m', executeLine (Engine.level n) scope (simultaneous xs ts indent number) rest m =
          .error stop m' ∧ ∀ ref < m.store.scopes.size, m'.store.scopes[ref]? = m.store.scopes[ref]?) ∨
      ∃ m', executeLine (Engine.level n) scope (simultaneous xs ts indent number) rest m =
          .ok (0, .normal) m' ∧ Rebinds scope xs ts m m') ∧
    ((m.charged (simultaneous xs ts indent number)).refusal? = none →
      (∀ t ∈ ts, ∃ v m₁, ∀ (bottom : Engine) (k : Nat), t.regroup.depth ≤ k →
        Expression.evaluate (bottom.over k) scope t.render m = .ok v m₁) →
      Tree.depthAll (Tree.regroupAll ts) + 2 ≤ n →
        ∃ m', executeLine (Engine.level n) scope (simultaneous xs ts indent number) rest m =
          .ok (0, .normal) m' ∧ Rebinds scope xs ts m m') := by
  constructor
  · cases hstart : (m.charged (simultaneous xs ts indent number)).refusal? with
    | some f =>
      have hrow := @executeLine_row xs ts scope indent number m hlength htwo (Engine.level n) rest
      rw [hstart] at hrow
      exact .inl ⟨_, _, hrow, fun ref _ => rfl⟩
    | none =>
      obtain hvalue | ⟨m', hexhausted⟩ := @eval_treeRow_level ts scope (hlength ▸ htwo) n
        (m.charged (simultaneous xs ts indent number))
      · cases hall : Tree.denoteAll scope ts (m.charged (simultaneous xs ts indent number)) with
        | ok ws m₁ =>
          exact .inr (executeLine_rebinds hlength htwo hdistinct hscope hm rest hstart hvalue hall)
        | error stop m₁ =>
          rw [Run.bind_eq, hall] at hvalue
          exact .inl (executeLine_stops hlength htwo n rest hstart hvalue)
      · exact .inl (executeLine_stops hlength htwo n rest hstart hexhausted)
  · intro hstart hvalues hn
    have hdenotes : ∀ t ∈ ts, ∃ v m₁, t.denote scope m = .ok v m₁ := by
      intro t ht
      obtain ⟨v, m₁, hv⟩ := hvalues t ht
      have hdeep := hv Engine.exhausted t.regroup.depth (Nat.le_refl _)
      rw [evaluate_over t scope _ (Nat.le_refl _)] at hdeep
      exact ⟨v, m₁, hdeep⟩
    have hcharged : m.store.Extends (m.charged (simultaneous xs ts indent number)).store :=
      .refl m.store
    obtain ⟨ws, m₁, hall⟩ := denoteAll_ok hm hcharged (fun n => rfl) hdenotes
    exact executeLine_rebinds hlength htwo hdistinct hscope hm rest hstart
      (congrFun (eval_treeRow_of_le (hlength ▸ htwo) hn) _) hall

end Statement

def nameY : Identifier := ⟨['y'], by decide, by decide⟩

/-- A machine on which `x` is bound to a list and `y` to a number. -/
def holdingTwo : Machine :=
  { store := { lists := #[#[.int 1, .int 2]], scopes := #[[("x", .list 0), ("y", .int 5)]] } }

theorem isClosed_holdingTwo : holdingTwo.IsClosed 0 where
  items ref v hv := by
    cases ref with
    | zero =>
      have hitem : v = .int 1 ∨ v = .int 2 := by simpa [Store.items, holdingTwo] using hv
      obtain rfl | rfl := hitem <;> trivial
    | succ ref =>
      have hnone : holdingTwo.store.items (ref + 1) = #[] := rfl
      rw [hnone] at hv
      exact absurd hv (Array.not_mem_empty v)
  names n v hv := by
    change [("x", Value.list 0), ("y", .int 5)].lookup n = some v at hv
    rw [List.lookup_cons, List.lookup_cons] at hv
    split at hv
    · cases hv
      exact Nat.zero_lt_one
    · split at hv
      · cases hv
        trivial
      · cases hv

/-- Two names are swapped, one of which is bound to a list: the other one is bound to the same list
afterwards. -/
theorem executeLine_simultaneous_swap :
    ∃ m', executeLine (Engine.level 3) 0 ⟨"x, y = y, x".toList, 0, 1⟩ [] holdingTwo =
        .ok (0, .normal) m' ∧
      (m'.store.scope 0).get? "x" = some (.int 5) ∧
      (m'.store.scope 0).get? "y" = some (.list 0) := by
  have hdenote : (Tree.name nameX).denote 0 holdingTwo = .ok (.list 0) holdingTwo ∧
      (Tree.name nameY).denote 0 holdingTwo = .ok (.int 5) holdingTwo := ⟨rfl, rfl⟩
  have hvalues : ∀ t ∈ [Tree.name nameY, .name nameX], ∃ v m₁, ∀ (bottom : Engine) (k : Nat),
      t.regroup.depth ≤ k →
        Expression.evaluate (bottom.over k) 0 t.render holdingTwo = .ok v m₁ := by
    intro t ht
    obtain rfl | rfl : t = .name nameY ∨ t = .name nameX := by simpa using ht
    · exact ⟨_, _, fun bottom k hk => by rw [evaluate_over _ _ _ hk, hdenote.2]⟩
    · exact ⟨_, _, fun bottom k hk => by rw [evaluate_over _ _ _ hk, hdenote.1]⟩
  have hdistinct : ([nameX, nameY].map name).Nodup := by decide
  have hstart : (holdingTwo.charged (simultaneous [nameX, nameY] [.name nameY, .name nameX] 0 1)).refusal?
      = none := Machine.refusal?_eq_none rfl (by decide) (show 0 + 1 ≤ 100000 by decide)
  obtain ⟨m', hline, hm'⟩ := (executeLine_simultaneous rfl (by decide) hdistinct (by decide)
    isClosed_holdingTwo 3 []).2 hstart hvalues (by decide)
  refine ⟨m', hline, ?_, ?_⟩
  · obtain ⟨v, w, m₁, hv, hw, halike⟩ := hm'.values (nameX, .name nameY) (by simp)
    have hvalue := hv Engine.exhausted 0 (Nat.le_refl 0)
    rw [evaluate_over _ _ _ (Nat.le_refl 0), hdenote.2] at hvalue
    cases hvalue
    rw [halike.eq_of_within trivial] at hw
    exact hw
  · obtain ⟨v, w, m₁, hv, hw, halike⟩ := hm'.values (nameY, .name nameX) (by simp)
    have hvalue := hv Engine.exhausted 0 (Nat.le_refl 0)
    rw [evaluate_over _ _ _ (Nat.le_refl 0), hdenote.1] at hvalue
    cases hvalue
    rw [halike.eq_of_within (show 0 < 1 by decide)] at hw
    exact hw

end SnippetGrader.Operation
