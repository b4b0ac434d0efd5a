import SnippetGrader.Proofs.Outcome

/-!
# What a call binds

A call writes the names of its body three times over: the arguments by position, the arguments by
name, and the defaults of the parameters that no position reaches. Each is a list of entries set one
after the other, so what a name stands for in the end is read off the last entry for it in the last
list that has one. Parameter names may repeat; their last place decides.
-/

namespace SnippetGrader

/-! ## Entries set one after the other -/

def lastMatch? (entries : List (String × Value)) (name : String) : Option Value :=
  entries.reverse.lookup name

theorem lastMatch?_cons (p : String × Value) (rest : List (String × Value)) (name : String) :
    lastMatch? (p :: rest) name =
      (lastMatch? rest name).or (if name = p.1 then some p.2 else none) := by
  obtain ⟨key, v⟩ := p
  rw [lastMatch?, List.reverse_cons, List.lookup_append, ← lastMatch?, List.lookup_cons]
  by_cases hname : name = key
  · rw [beq_iff_eq.2 hname, if_pos hname]
  · rw [beq_eq_false_iff_ne.2 hname, if_neg hname]
    rfl

theorem lastMatch?_eq_none_iff {entries : List (String × Value)} {name : String} :
    lastMatch? entries name = none ↔ ∀ p ∈ entries, name ≠ p.1 := by
  simp [lastMatch?]

theorem lastMatch?_map {names : List String} (g : String → Value) (name : String) :
    lastMatch? (names.map fun n => (n, g n)) name =
      if name ∈ names then some (g name) else none := by
  induction names with
  | nil => rfl
  | cons n names ih =>
    rw [List.map_cons, lastMatch?_cons, ih]
    by_cases hmem : name ∈ names
    · rw [if_pos hmem, if_pos (List.mem_cons_of_mem n hmem), Option.some_or]
    · rw [if_neg hmem, Option.none_or]
      by_cases hname : name = n
      · rw [if_pos hname, if_pos (hname ▸ List.mem_cons_self), hname]
      · rw [if_neg hname, if_neg fun h => (List.mem_cons.1 h).elim hname hmem]

/-- The place of a name behind which it does not occur again. -/
def IsLastPlace (names : List String) (name : String) (k : Nat) : Prop :=
  names[k]? = some name ∧ name ∉ names.drop (k + 1)

instance (names : List String) (name : String) (k : Nat) : Decidable (IsLastPlace names name k) :=
  inferInstanceAs (Decidable (_ ∧ _))

theorem IsLastPlace.mem_drop_iff {names : List String} {name : String} {k : Nat}
    (h : IsLastPlace names name k) (n : Nat) : name ∈ names.drop n ↔ n ≤ k := by
  constructor
  · intro hmem
    by_contra hlt
    refine h.2 (List.mem_of_mem_drop (i := n - (k + 1)) ?_)
    rwa [List.drop_drop, Nat.add_sub_cancel' (Nat.lt_of_not_le hlt)]
  · intro hle
    refine List.mem_iff_getElem?.2 ⟨k - n, ?_⟩
    rw [List.getElem?_drop, Nat.add_sub_cancel' hle, h.1]

theorem lastMatch?_zip {names : List String} {values : List Value} {name : String} {k : Nat}
    (h : IsLastPlace names name k) {v : Value} (hv : values[k]? = some v) :
    lastMatch? (names.zip values) name = some v := by
  induction names generalizing values k with
  | nil => exact absurd h.1 (by simp)
  | cons n names ih =>
    cases values with
    | nil => exact absurd hv (by simp)
    | cons w values =>
      rw [List.zip_cons_cons, lastMatch?_cons]
      cases k with
      | zero =>
        obtain rfl : n = name := Option.some.inj h.1
        obtain rfl : w = v := Option.some.inj hv
        have hrest : lastMatch? (names.zip values) n = none := by
          refine lastMatch?_eq_none_iff.2 fun p hp hname => h.2 ?_
          rw [hname]
          exact (List.of_mem_zip hp).1
        rw [hrest, if_pos rfl, Option.none_or]
      | succ k => rw [ih ⟨h.1, h.2⟩ hv, Option.some_or]

/-- Binds the names of some entries, one after the other. -/
def Scope.setAll (sc : Scope) (entries : List (String × Value)) : Scope :=
  entries.foldl (fun sc p => sc.set p.1 p.2) sc

theorem Scope.get?_setAll (sc : Scope) (entries : List (String × Value)) (name : String) :
    (sc.setAll entries).get? name = (lastMatch? entries name).or (sc.get? name) := by
  induction entries generalizing sc with
  | nil => rfl
  | cons p rest ih =>
    rw [setAll, List.foldl_cons, ← setAll, ih, lastMatch?_cons, Option.or_assoc]
    by_cases hname : name = p.1
    · rw [if_pos hname, hname, get?_set, Option.some_or]
    · rw [if_neg hname, get?_set_of_ne hname, Option.none_or]

namespace Statement

variable {f : Function}

/-! ## The names of a call -/

/-- What a parameter stands for that has its last place at `k`: its argument by name, else its
argument by position, else its default. -/
def argument (f : Function) (args : List Value) (keywords : Keywords) (p : String) (k : Nat) :
    Value :=
  (lastMatch? keywords p).getD (args[k]?.getD ((f.defaults.get? p).getD .undefined))

/-- The names that the body of a function sees when it is called within the scope `outer`. -/
structure Binds (f : Function) (args : List Value) (keywords : Keywords) (outer names : Scope) :
    Prop where
  parameter : ∀ p k, IsLastPlace f.params p k →
    names.get? p = some (argument f args keywords p k)
  other : ∀ name, name ∉ f.params → names.get? name = outer.get? name

/-- The arguments of a call do not fit the parameters: there are too many of them, or one is named
like no parameter. -/
def Misfit (f : Function) (args : List Value) (keywords : Keywords) : Prop :=
  f.params.length < args.length ∨ ∃ p ∈ keywords, p.1 ∉ f.params

theorem bindKeywords_ok (scope : Scope) {keywords : Keywords}
    (h : ∀ p ∈ keywords, p.1 ∈ f.params) :
    bindKeywords f scope keywords = .ok (scope.setAll keywords) := by
  induction keywords generalizing scope with
  | nil => rfl
  | cons p rest ih =>
    rw [List.forall_mem_cons] at h
    rw [bindKeywords, if_pos (List.contains_iff_mem.2 h.1), ih _ h.2]
    rfl

theorem bindKeywords_error (scope : Scope) {keywords : Keywords}
    (h : ∃ p ∈ keywords, p.1 ∉ f.params) :
    ∃ message, bindKeywords f scope keywords = .error (.type message) := by
  induction keywords generalizing scope with
  | nil =>
    obtain ⟨p, hp, -⟩ := h
    exact absurd hp List.not_mem_nil
  | cons q rest ih =>
    obtain ⟨name, v⟩ := q
    by_cases hname : name ∈ f.params
    · have hrest : ∃ p ∈ rest, p.1 ∉ f.params := by
        obtain ⟨p, hp, hnot⟩ := h
        obtain rfl | hp := List.mem_cons.1 hp
        · exact absurd hname hnot
        · exact ⟨p, hp, hnot⟩
      rw [bindKeywords, if_pos (List.contains_iff_mem.2 hname)]
      exact ih _ hrest
    · rw [bindKeywords, if_neg fun hmem => hname (List.contains_iff_mem.1 hmem)]
      exact ⟨_, rfl⟩

/-- The parameters that no position reaches and no argument names, with their defaults. -/
def missing (f : Function) (args : List Value) (keywords : Keywords) : List (String × Value) :=
  ((f.params.drop args.length).filter fun p => !Scope.has keywords p).map fun p =>
    (p, (f.defaults.get? p).getD .undefined)

theorem has_eq_isSome (keywords : Keywords) (p : String) :
    Scope.has keywords p = (lastMatch? keywords p).isSome := by
  rw [Bool.eq_iff_iff, Scope.has, Scope.get?, lastMatch?, List.lookup_isSome_iff,
    List.lookup_isSome_iff]
  simp only [List.mem_reverse]

theorem callScope_ok (outer : Scope) {args : List Value} {keywords : Keywords}
    (h : ¬ Misfit f args keywords) :
    callScope f outer args keywords =
      .ok (((outer.setAll (f.params.zip args)).setAll keywords).setAll
        (missing f args keywords)) := by
  obtain ⟨hcount, hnames⟩ := not_or.1 h
  have hparams : ∀ p ∈ keywords, p.1 ∈ f.params := by
    intro p hp
    by_contra hnot
    exact hnames ⟨p, hp, hnot⟩
  have hkeywords := bindKeywords_ok (outer.setAll (f.params.zip args)) hparams
  have hdefaults (sc : Scope) : sc.setAll (missing f args keywords) =
      ((f.params.drop args.length).filter fun p => !Scope.has keywords p).foldl
        (fun sc p => sc.set p ((f.defaults.get? p).getD .undefined)) sc := by
    rw [Scope.setAll, missing, List.foldl_map]
  rw [callScope, if_neg (show ¬ args.length > f.params.length from hcount)]
  dsimp only
  rw [← Scope.setAll, hkeywords, hdefaults]
  rfl

theorem callScope_error (outer : Scope) {args : List Value} {keywords : Keywords}
    (h : Misfit f args keywords) :
    ∃ message, callScope f outer args keywords = .error (.type message) := by
  rw [callScope]
  split
  · exact ⟨_, rfl⟩
  · next hcount =>
    obtain hcount' | hnames := h
    · exact absurd hcount' hcount
    · obtain ⟨message, hmessage⟩ :=
        bindKeywords_error ((f.params.zip args).foldl (fun sc p => sc.set p.1 p.2) outer) hnames
      refine ⟨message, ?_⟩
      simp only [hmessage]
      rfl

/-- The names that a call binds, place by place. -/
theorem binds_setAll (outer : Scope) {args : List Value} {keywords : Keywords}
    (h : ¬ Misfit f args keywords) :
    Binds f args keywords outer (((outer.setAll (f.params.zip args)).setAll keywords).setAll
      (missing f args keywords)) := by
  obtain ⟨-, hnames⟩ := not_or.1 h
  refine ⟨fun p k hk => ?_, fun name hname => ?_⟩
  · rw [Scope.get?_setAll, Scope.get?_setAll, Scope.get?_setAll, missing, lastMatch?_map]
    simp only [List.mem_filter, hk.mem_drop_iff, has_eq_isSome, argument]
    cases hkeyword : lastMatch? keywords p with
    | some v => simp
    | none =>
      cases harg : args[k]? with
      | none => simp [List.getElem?_eq_none_iff.1 harg]
      | some v =>
        have hlt : k < args.length := (List.getElem?_eq_some_iff.1 harg).1
        simp [Nat.not_le.2 hlt, lastMatch?_zip hk harg]
  · have hpositions : lastMatch? (f.params.zip args) name = none := by
      refine lastMatch?_eq_none_iff.2 fun p hp heq => hname ?_
      rw [heq]
      exact (List.of_mem_zip hp).1
    have hkeywords : lastMatch? keywords name = none := by
      refine lastMatch?_eq_none_iff.2 fun p hp heq => hnames ⟨p, hp, ?_⟩
      rwa [← heq]
    have hmissing : name ∉ (f.params.drop args.length).filter fun p => !Scope.has keywords p :=
      fun hmem => hname (List.mem_of_mem_drop (List.mem_filter.1 hmem).1)
    rw [Scope.get?_setAll, Scope.get?_setAll, Scope.get?_setAll, missing, lastMatch?_map,
      if_neg hmissing, hkeywords, hpositions, Option.none_or, Option.none_or, Option.none_or]

def idle : Engine where
  eval := fun _ _ => return .none
  apply := fun _ _ _ => return .none
  block := fun _ _ => return .normal

/-- **What a call binds.** Below the limit of nested calls, a call fails with a type error on the
machine as it was exactly if it has more arguments than the function has parameters, or names
something that is no parameter. Otherwise the body runs in a new scope, where every parameter stands
for its argument by name, its argument at its last place, its default or nothing, the first of these
that there is, and every other name for what it stands for in the scope of the function. -/
theorem callFunction_binds (f : Function) (args : List Value) (keywords : Keywords) (m : Machine)
    (hdepth : (m.callDepth : Int) < m.limits.maxCallDepth) :
    ((∃ message, ∀ e, callFunction e f args keywords m = .error (.failed (.type message)) m) ↔
      Misfit f args keywords) ∧
    (¬ Misfit f args keywords → ∃ names,
      Binds f args keywords (m.store.scope f.scope) names ∧
      (m.entered names).store.scope m.store.scopes.size = names ∧
      ∀ e, callFunction e f args keywords m =
        (Run.between (·.entered names) (e.block m.store.scopes.size f.body) Machine.left >>=
          fun flow => return Flow.result flow) m) := by
  have hfits (h : ¬ Misfit f args keywords) : ∃ names,
      Binds f args keywords (m.store.scope f.scope) names ∧
      ∀ e, callFunction e f args keywords m =
        (Run.between (·.entered names) (e.block m.store.scopes.size f.body) Machine.left >>=
          fun flow => return Flow.result flow) m := by
    refine ⟨_, binds_setAll _ h, fun e => ?_⟩
    rw [callFunction_eq, if_neg (Int.not_le.2 hdepth), callScope_ok _ h]
  refine ⟨⟨fun hfails => ?_, fun h => ?_⟩, fun h => ?_⟩
  · by_contra hnot
    obtain ⟨message, hmessage⟩ := hfails
    obtain ⟨names, -, hruns⟩ := hfits hnot
    exact absurd ((hmessage idle).symm.trans (hruns idle)) (by exact nofun)
  · obtain ⟨message, hmessage⟩ := callScope_error (m.store.scope f.scope) h
    exact ⟨message, fun e => by rw [callFunction_eq, if_neg (Int.not_le.2 hdepth), hmessage]⟩
  · obtain ⟨names, hnames, hruns⟩ := hfits h
    refine ⟨names, hnames, ?_, hruns⟩
    simp [Machine.entered, Store.scope]

/-- A call with a repeated parameter, whose first place alone is reached. -/
theorem callFunction_binds_repeated :
    let f : Function :=
      { name := "f", params := ["a", "b", "a", "c"], defaults := [("c", .int 7)], body := [],
        scope := 0 }
    let m : Machine := { store := { scopes := #[[("a", .int 8), ("x", .int 9)]] } }
    ∃ names : Scope, names.get? "a" = some .undefined ∧ names.get? "b" = some (.int 3) ∧
      names.get? "c" = some (.int 7) ∧ names.get? "x" = some (.int 9) ∧
      ∀ e, callFunction e f [.int 1, .int 2] [("b", .int 3)] m =
        (Run.between (·.entered names) (e.block 1 []) Machine.left >>=
          fun flow => return Flow.result flow) m := by
  intro f m
  obtain ⟨names, hnames, -, hruns⟩ :=
    (callFunction_binds f [.int 1, .int 2] [("b", .int 3)] m (by decide)).2 (by simp [Misfit, f])
  exact ⟨names, hnames.parameter "a" 2 (by decide), hnames.parameter "b" 1 (by decide),
    hnames.parameter "c" 3 (by decide), hnames.other "x" (by decide), hruns⟩

end Statement

end SnippetGrader
