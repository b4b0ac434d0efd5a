import SnippetGrader.Proofs.Failures.Basic
import SnippetGrader.Statement.Function
import SnippetGrader.Value.Format

/-!
# What is computed without the bodies of functions

The store holds the bodies of functions, but only a call looks at them. Everything else that is
computed from a store is the same if the functions have no bodies.
-/

namespace SnippetGrader

def Source.Line.unnumbered (l : Source.Line) : Source.Line := { l with number := 0 }

def Function.unnumbered (f : Function) : Function :=
  { f with body := f.body.map Source.Line.unnumbered }

/-- A function without its body. -/
def Function.bodiless (f : Function) : Function := { f with body := [] }

namespace Store

/-- A store whose functions have no bodies. -/
def bodiless (s : Store) : Store := { s with functions := s.functions.map Function.bodiless }

variable (s : Store)

@[simp] theorem bodiless_bodiless : s.bodiless.bodiless = s.bodiless := by
  have h : Function.bodiless ∘ Function.bodiless = Function.bodiless := rfl
  simp only [bodiless, Array.map_map, h]

@[simp] theorem items_bodiless (ref : Nat) : s.bodiless.items ref = s.items ref := rfl

@[simp] theorem scope_bodiless (ref : Nat) : s.bodiless.scope ref = s.scope ref := rfl

@[simp] theorem host_bodiless : s.bodiless.host = s.host := rfl

@[simp] theorem className_bodiless (ref : Nat) : s.bodiless.className ref = s.className ref := rfl

@[simp] theorem objects_bodiless : s.bodiless.objects = s.objects := rfl

@[simp] theorem templates_bodiless : s.bodiless.templates = s.templates := rfl

theorem getElem?_functions_bodiless (ref : Nat) :
    s.bodiless.functions[ref]? = s.functions[ref]?.map Function.bodiless :=
  Array.getElem?_map

end Store

/-- A machine whose functions have no bodies. -/
def Machine.bodiless (m : Machine) : Machine := { m with store := m.store.bodiless }

/-! ## Texts and truth -/

namespace Value

variable (s : Store)

@[simp] theorem typeName_bodiless (v : Value) : v.typeName s.bodiless = v.typeName s := by
  cases v <;> rfl

@[simp] theorem truthy_bodiless (v : Value) : v.truthy s.bodiless = v.truthy s := by
  cases v <;> rfl

@[simp] theorem plainRepr_bodiless (v : Value) : v.plainRepr s.bodiless = v.plainRepr s := by
  cases v with
  | function ref =>
    have hname : (s.functions[ref]?.map Function.bodiless).map (·.name) =
        s.functions[ref]?.map (·.name) := Option.map_map ..
    simp only [plainRepr, Store.getElem?_functions_bodiless, hname]
  | native f => cases f <;> rfl
  | _ => rfl

@[simp] theorem reprWithin_bodiless (outer : List Nat) (depth : Nat) :
    reprWithin s.bodiless outer depth = reprWithin s outer depth := by
  induction depth generalizing outer with
  | zero => rfl
  | succ depth ih =>
    funext v
    cases v <;> simp only [reprWithin, ih, Store.items_bodiless, plainRepr_bodiless]

@[simp] theorem reprText_bodiless (v : Value) : v.reprText s.bodiless = v.reprText s := by
  simp only [reprText, reprWithin_bodiless, Store.host_bodiless]

@[simp] theorem displayText_bodiless (v : Value) : v.displayText s.bodiless = v.displayText s := by
  cases v <;> simp only [displayText, reprText_bodiless]

@[simp] theorem format_bodiless (v : Value) (spec : List Char) :
    v.format s.bodiless spec = v.format s spec := by
  simp only [format, displayText_bodiless]

/-! ## Equality and order -/

@[simp] theorem eqWithin_bodiless (depth : Nat) : eqWithin s.bodiless depth = eqWithin s depth := by
  induction depth with
  | zero => rfl
  | succ depth ih =>
    funext v w
    simp only [eqWithin, ih, Store.items_bodiless]

@[simp] theorem eq_bodiless : eq s.bodiless = eq s := by
  funext v w
  simp only [eq, eqWithin_bodiless, Store.host_bodiless]

@[simp] theorem itemEq_bodiless : itemEq s.bodiless = itemEq s := by
  funext v w
  simp only [itemEq, eq_bodiless]

@[simp] theorem relateWithin_bodiless (r : Relation) (depth : Nat) :
    relateWithin s.bodiless r depth = relateWithin s r depth := by
  induction depth with
  | zero => rfl
  | succ depth ih =>
    funext v w
    simp only [relateWithin, ih, eqWithin_bodiless, Store.items_bodiless]

@[simp] theorem relate_bodiless (r : Relation) : relate s.bodiless r = relate s r := by
  funext v w
  simp only [relate, relateWithin_bodiless, Store.host_bodiless]

@[simp] theorem anyEqual_bodiless (v : Value) : anyEqual s.bodiless v = anyEqual s v := by
  funext ws
  induction ws with
  | nil => rfl
  | cons w ws ih => simp only [anyEqual, ih, itemEq_bodiless]

@[simp] theorem isMember_bodiless (v w : Value) : isMember s.bodiless v w = isMember s v w := by
  cases w <;> simp only [isMember, anyEqual_bodiless, Store.items_bodiless, typeName_bodiless]

@[simp] theorem compareBy_bodiless (c : Comparison) (v w : Value) :
    compareBy s.bodiless c v w = compareBy s c v w := by
  cases c <;> simp only [compareBy, eq_bodiless, relate_bodiless, isMember_bodiless]

end Value

/-! ## Functions and methods -/

@[simp] theorem operand_bodiless (s : Store) (op : String) (v : Value) :
    operand s.bodiless op v = operand s op v := by
  unfold operand
  rw [Value.typeName_bodiless]

@[simp] theorem ListMethod.findEqual_bodiless (s : Store) (v : Value) (i : Nat) (ws : List Value) :
    findEqual s.bodiless v i ws = findEqual s v i ws := by
  induction ws generalizing i with
  | nil => rfl
  | cons w ws ih => simp only [findEqual, ih, Value.itemEq_bodiless]

@[simp] theorem ListMethod.countEqual_bodiless (s : Store) (v : Value) (n : Nat)
    (ws : List Value) : countEqual s.bodiless v n ws = countEqual s v n ws := by
  induction ws generalizing n with
  | nil => rfl
  | cons w ws ih => simp only [countEqual, ih, Value.itemEq_bodiless]

@[simp] theorem Sequence.bestOf_bodiless (s : Store) (x : Extreme) (best : Value × Value)
    (ps : List (Value × Value)) : bestOf s.bodiless x best ps = bestOf s x best ps := by
  induction ps generalizing best with
  | nil => rfl
  | cons p ps ih => simp only [bestOf, ih, Value.relate_bodiless]

@[simp] theorem Native.bytesOf_bodiless (s : Store) (v : Value) :
    bytesOf s.bodiless v = bytesOf s v := by
  cases v <;> rfl

@[simp] theorem Expression.mainField_bodiless (s : Store) (ref : Nat) :
    mainField s.bodiless ref = mainField s ref := rfl

theorem Statement.bindKeywords_bodiless (f : Function) (scope : Scope) (keywords : Keywords) :
    bindKeywords f.bodiless scope keywords = bindKeywords f scope keywords := by
  have hparams : f.bodiless.params = f.params := rfl
  have hname : f.bodiless.name = f.name := rfl
  induction keywords generalizing scope with
  | nil => rfl
  | cons p rest ih => simp only [bindKeywords, ih, hparams, hname]

/-- The names in which a function is called have nothing to do with its body. -/
theorem Statement.callScope_bodiless (f : Function) (outer : Scope) (args : List Value)
    (keywords : Keywords) :
    callScope f.bodiless outer args keywords = callScope f outer args keywords := by
  simp only [callScope, bindKeywords_bodiless]
  rfl

/-! ## Work on the store -/

/-- Work on the store does not look at the bodies of functions, leaves scopes as they are and does
no more to functions than to add some. -/
structure Quiet {α : Type} (g : Store → α × Store) : Prop where
  scopes : ∀ s, (g s).2.scopes = s.scopes
  functions : ∃ added : Array Function, ∀ s, (g s).2.functions = s.functions ++ added
  result : ∀ s, (g s.bodiless).1 = (g s).1
  rest : ∀ s, (g s.bodiless).2.bodiless = (g s).2.bodiless

/-- Work that has nothing to do with functions. -/
theorem Quiet.of_apart {α : Type} {g : Store → α × Store}
    (h : ∀ s, (g s).2.scopes = s.scopes ∧ (g s).2.functions = s.functions ∧
      g s.bodiless = ((g s).1, (g s).2.bodiless)) : Quiet g where
  scopes s := (h s).1
  functions := ⟨#[], fun s => by rw [(h s).2.1, Array.append_empty]⟩
  result s := by rw [(h s).2.2]
  rest s := by rw [(h s).2.2, Store.bodiless_bodiless]

def Store.define (f : Function) (s : Store) : Except Stop Value × Store :=
  (.ok (.function s.functions.size), { s with functions := s.functions.push f })

theorem Quiet.define (f : Function) : Quiet (Store.define f) where
  scopes _ := rfl
  functions := ⟨#[f], fun _ => Array.push_eq_append⟩
  result s := by simp only [Store.define, Store.bodiless, Array.size_map]
  rest s := by
    have h : s.bodiless.bodiless.functions = s.bodiless.functions := by rw [s.bodiless_bodiless]
    simp only [Store.define, Store.bodiless, Array.map_push] at h ⊢
    rw [h]

/-- Quiet work that leaves the functions as they are and notes no line on its failure. -/
structure Plain {α : Type} (g : Store → Except Stop α × Store) : Prop extends Quiet g where
  kept : ∀ s, (g s).2.functions = s.functions
  unplaced : ∀ s, UnplacedStop (g s).1

theorem Plain.of_apart {α : Type} {g : Store → Except Stop α × Store}
    (h : ∀ s, (g s).2.scopes = s.scopes ∧ (g s).2.functions = s.functions ∧
      g s.bodiless = ((g s).1, (g s).2.bodiless)) (hg : ∀ s, UnplacedStop (g s).1) : Plain g where
  toQuiet := .of_apart h
  kept s := (h s).2.1
  unplaced := hg

end SnippetGrader
