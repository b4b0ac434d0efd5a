import SnippetGrader.Proofs.Definition.Parameters
import SnippetGrader.Proofs.Layout.Signature
import SnippetGrader.Proofs.Written.Evaluation

/-!
# Classes

What a class is after its definition: one field, which is the first that the block under the header
of `__init__` sets, and its default, which is that of the first parameter after the object. The
header is looked for among the lines of the body by a pattern of its own, which is narrower than that
of function heads: it knows no result annotation. A class with an annotated header has the field and
the default of a class without one.
-/

namespace SnippetGrader

open Text Source Statement Expression Layout

/-- The machine after a class was made in a scope, for which lists and a scope for the defaults were
made. -/
def Machine.classifying (m : Machine) (scope : Nat) (lists : Array (Array Value)) (t : Template) :
    Machine :=
  { m with
    store := { m.store with
      lists := m.store.lists ++ lists
      templates := m.store.templates.push t
      scopes := (m.store.scopes.push []).modify scope fun names =>
        names.set t.name (.template m.store.templates.size) } }

/-- The machine after an object was made. -/
def Machine.creating (m : Machine) (o : Object) : Machine :=
  { m with store := { m.store with objects := m.store.objects.push o } }

namespace Definition

/-! ## Literals -/

/-- A literal as a default: its value is the same in every scope, and evaluating it makes nothing but
lists. -/
structure Default (e : Engine) where
  text : List Char
  build : Run Value
  evaluates : ∀ scope, e.eval scope text = build
  makes : ∀ m, ∃ v more, build m = .ok v (m.making more)

namespace Default

theorem pure_makes (v : Value) (m : Machine) :
    ∃ w more, (pure v : Run Value) m = .ok w (m.making more) :=
  ⟨v, #[], by rw [m.making_empty]; rfl⟩

/-- A number. -/
def number (e : Engine) (text : List Char) {v : Value}
    (h : Literal.numberValue? (trim text) = some (.ok v)) (hquote : ∀ c ∈ text, isQuote c = false) :
    Default e.next where
  text := text
  build := pure v
  evaluates scope := by
    have hwords : String.ofList (trim text) ∉ ["None", "True", "False"] := by
      intro hmem
      have hnone : ∀ w ∈ ["None", "True", "False"], Literal.isNumber w.toList = false := by decide
      have hnumber := hnone _ hmem
      rw [String.toList_ofList] at hnumber
      rw [Literal.numberValue?, hnumber] at h
      cases h
    have hne : trim text ≠ [] := by
      intro hnil
      rw [hnil] at h
      cases h
    have hliteral : literal? e scope (trim text) = some <$> pure v := by
      rw [Rendering.literal?_eq hwords (fun c hc => hquote c (mem_of_mem_trim hc)), h]
      rfl
    have heval := Rendering.evaluate_of_literal (trim_trim text) hne hliteral
    exact (Rendering.evaluate_congr (trim_trim text).symm e scope).trans heval
  makes := pure_makes v

def quoted (e : Engine) {mark : Char} (hmark : isQuote mark = true) {body : List Char}
    (hbody : Written.LiteralBody mark body) {v : Value}
    (hvalue : Literal.stringValue ⟨[], mark, false⟩ (Written.marked mark body) = pure v) :
    Default e.next where
  text := Written.marked mark body
  build := pure v
  evaluates := hbody.evaluate_marked hmark hvalue e
  makes := pure_makes v

/-- A written constant, number, text or list of such. -/
def content (bottom : Engine) (t : Written.Content) : Default (bottom.over (t.depth + 1)) where
  text := t.text
  build := t.build
  evaluates scope := t.evaluate_text (R := .equality) fun u hu =>
    Written.Content.rebuilds_over bottom scope t.depth u hu
  makes m := by
    obtain ⟨v, more, hbuild, -⟩ := t.build_builds m
    exact ⟨v, more, hbuild⟩

end Default

/-! ## Parameters -/

/-- A parameter as it is written: asterisks, a name, blanks with or without an annotation behind
them, and a literal as its default, if it has one. -/
structure Parameter (e : Engine) where
  stars : List Char := []
  name : List Char
  note : List Char := []
  default : Option (Default e) := none
  star_stars : ∀ c ∈ stars, c = '*' := by simp
  isName_name : isName name = true
  lacks_note : '=' ∉ note := by simp
  blank_note : ∀ c ∈ note.takeWhile (· != ':'), isBlank c = true := by simp

namespace Parameter

variable {e : Engine} (p : Parameter e)

/-- How a parameter is written. -/
def text : List Char :=
  p.stars ++ (p.name ++ (p.note ++ (p.default.map fun d => '=' :: d.text).getD []))

/-- The name by which a parameter is bound. -/
def key : String := String.ofList p.name

theorem lacks_front : ∀ c ∈ p.stars ++ (p.name ++ p.note), c ≠ '=' := by
  intro c hc
  rw [List.mem_append, List.mem_append] at hc
  obtain hc | hc | hc := hc
  · rw [p.star_stars c hc]
    decide
  · exact (ne_of_isName p.isName_name c hc).1
  · rintro rfl
    exact p.lacks_note hc

theorem visible_front : ∀ c ∈ p.stars ++ p.name, isBlank c = false := by
  intro c hc
  obtain hc | hc := List.mem_append.1 hc
  · rw [p.star_stars c hc]
    decide
  · exact Rendering.isBlank_eq_false_of_isWord (isWord_of_isName p.isName_name hc)

theorem defaultText?_text : defaultText? p.text = p.default.map Default.text := by
  have hskip : ∀ c ∈ p.stars ++ (p.name ++ p.note), (c != '=') = true := fun c hc =>
    bne_iff_ne.2 (p.lacks_front c hc)
  have htext : p.text = (p.stars ++ (p.name ++ p.note)) ++
      (p.default.map fun d => '=' :: d.text).getD [] := by
    simp only [text, List.append_assoc]
  rw [defaultText?, htext, List.dropWhile_append_of_pos hskip]
  cases p.default <;> rfl

theorem parameterName_text : parameterName p.text = p.key := by
  let blanks := p.note.takeWhile (· != ':')
  let rest := p.note.dropWhile (· != ':') ++ (p.default.map fun d => '=' :: d.text).getD []
  have htext : p.text = (p.stars ++ (p.name ++ blanks)) ++ rest := by
    simp only [text, rest, blanks, List.append_assoc]
    rw [← List.append_assoc (p.note.takeWhile _), List.takeWhile_append_dropWhile]
  have hfront : ∀ c ∈ p.stars ++ (p.name ++ blanks), c ≠ '=' ∧ c ≠ ':' := by
    intro c hc
    have hnote {c : Char} (hc : c ∈ blanks) : c ∈ p.note := (List.takeWhile_prefix _).subset hc
    refine ⟨p.lacks_front c ?_, ?_⟩
    · simp only [List.mem_append] at hc ⊢
      exact hc.imp_right (Or.imp_right hnote)
    · simp only [List.mem_append] at hc
      obtain hc | hc | hc := hc
      · rw [p.star_stars c hc]
        decide
      · exact (ne_of_isName p.isName_name c hc).2
      · exact bne_iff_ne.1 (List.mem_takeWhile_imp (p := (· != ':')) hc)
  have hrest : ∀ c ∈ rest.head?, c = '=' ∨ c = ':' := by
    intro c hc
    have hcolon := List.head?_dropWhile_not (· != ':') p.note
    cases hdrop : p.note.dropWhile (· != ':') with
    | nil =>
      simp only [rest, hdrop, List.nil_append] at hc
      cases hdefault : p.default with
      | none =>
        rw [hdefault] at hc
        cases hc
      | some d =>
        rw [hdefault] at hc
        cases hc
        exact .inl rfl
    | cons d note =>
      simp only [rest, hdrop, List.cons_append] at hc
      rw [hdrop] at hcolon
      cases hc
      exact .inr (by simpa using hcolon)
  have htrim : trim (p.stars ++ (p.name ++ blanks)) = p.stars ++ p.name := by
    have hends : trim (p.stars ++ p.name) = p.stars ++ p.name := by
      refine trim_eq_self_iff.2 ⟨fun c hc => p.visible_front c (List.mem_of_mem_head? hc),
        fun c hc => p.visible_front c (List.mem_of_getLast? hc)⟩
    rw [← List.append_assoc, trim_congr (trimEnd_append_blank _ p.blank_note), hends]
  have hstars : ∀ c ∈ p.stars, (c == '*') = true := fun c hc => beq_iff_eq.2 (p.star_stars c hc)
  have hstar := dropWhile_star p.isName_name []
  rw [List.append_nil] at hstar
  rw [htext, parameterName_append hfront hrest, htrim, List.dropWhile_append_of_pos hstars, hstar]
  rfl

/-- A scope binds a parameter to the value of its default, whose lists are there, and not at all if
it has none. -/
def Bound (defaults : Scope) (lists : Array (Array Value)) : Prop :=
  match p.default with
  | none => defaults.get? p.key = none
  | some d => ∃ v m m' more, defaults.get? p.key = some v ∧ d.build m = .ok v m' ∧
      lists = m'.store.lists ++ more

end Parameter

section Defaults

variable {e : Engine}

/-- Literals are evaluated one after the other. -/
theorem defaultsFrom_text (scope : Nat) (ps : List (Parameter e)) (defaults : Scope) (m : Machine)
    (hnodup : (ps.map Parameter.key).Nodup) (hfree : ∀ p ∈ ps, defaults.get? p.key = none) :
    ∃ ds more, defaultsFrom e scope defaults (ps.map Parameter.text) m = .ok ds (m.making more) ∧
      (∀ n ∉ ps.map Parameter.key, ds.get? n = defaults.get? n) ∧
      ∀ p ∈ ps, p.Bound ds (m.store.lists ++ more) := by
  induction ps generalizing defaults m with
  | nil => exact ⟨defaults, #[], by rw [m.making_empty]; rfl, fun _ _ => rfl, by simp⟩
  | cons p ps ih =>
    rw [List.map_cons, List.nodup_cons] at hnodup
    rw [List.map_cons, defaultsFrom, p.defaultText?_text, p.parameterName_text]
    cases hdefault : p.default with
    | none =>
      obtain ⟨ds, more, hrun, hkept, hbound⟩ :=
        ih defaults m hnodup.2 fun q hq => hfree q (List.mem_cons_of_mem p hq)
      refine ⟨ds, more, hrun, fun n hn => hkept n fun hmem => hn (List.mem_cons_of_mem _ hmem), ?_⟩
      rw [List.forall_mem_cons]
      refine ⟨?_, hbound⟩
      rw [Parameter.Bound, hdefault]
      exact (hkept _ hnodup.1).trans (hfree p List.mem_cons_self)
    | some d =>
      obtain ⟨v, lists, hbuild⟩ := d.makes m
      have hfree' : ∀ q ∈ ps, (defaults.set p.key v).get? q.key = none := by
        intro q hq
        have hne : q.key ≠ p.key := fun heq =>
          hnodup.1 (heq ▸ List.mem_map_of_mem hq)
        rw [Scope.get?_set_of_ne hne]
        exact hfree q (List.mem_cons_of_mem p hq)
      obtain ⟨ds, more, hrun, hkept, hbound⟩ := ih (defaults.set p.key v) (m.making lists) hnodup.2 hfree'
      rw [Machine.making_making] at hrun
      refine ⟨ds, lists ++ more, ?_, fun n hn => ?_, ?_⟩
      · rw [Option.map_some]
        simp only [d.evaluates, Run.bind_eq, hbuild]
        exact hrun
      · rw [List.map_cons, List.mem_cons, not_or] at hn
        rw [hkept n hn.2, Scope.get?_set_of_ne hn.1]
      · have hlists : m.store.lists ++ (lists ++ more) = (m.making lists).store.lists ++ more :=
          Array.append_assoc.symm
        rw [List.forall_mem_cons, hlists]
        refine ⟨?_, hbound⟩
        rw [Parameter.Bound, hdefault]
        have hvalue : ds.get? p.key = some v := by
          rw [hkept _ hnodup.1, Scope.get?_set]
        exact ⟨v, m, m.making lists, more, hvalue, hbuild, rfl⟩

end Defaults

/-! ## The header -/

/-- The header of `__init__` with a block under it: what stands between its parentheses is on one
line and has these parameters, among them no two of the same name. -/
structure Initializer (e : Engine) where
  params : List (Parameter e)
  list : List Char
  afterWord : List Char
  beforeParen : List Char
  beforeColon : List Char
  afterWord_ne_nil : afterWord ≠ []
  isBlank_afterWord : ∀ c ∈ afterWord, isBlank c = true
  isBlank_beforeParen : ∀ c ∈ beforeParen, isBlank c = true
  isBlank_beforeColon : ∀ c ∈ beforeColon, isBlank c = true
  oneLine : '\n' ∉ list
  pieces : parameterPieces list = params.map Parameter.text
  nodup : (params.map Parameter.key).Nodup

/-- The name of the function that sets up an object. -/
def initName : List Char := "__init__".toList

namespace Initializer

variable {e : Engine} (i : Initializer e)

/-- How the header is written. -/
def text : List Char :=
  "def".toList ++ (i.afterWord ++ (initName ++ (i.beforeParen ++
    '(' :: (i.list ++ ')' :: (i.beforeColon ++ [':'])))))

theorem not_paren_beforeColon {a b : List Char} (h : i.beforeColon ++ [':'] = a ++ ')' :: b) :
    False := by
  have hmem : ')' ∈ i.beforeColon ++ [':'] := by simp [h]
  rw [List.mem_append, List.mem_singleton] at hmem
  obtain hblank | hcolon := hmem
  · exact absurd (i.isBlank_beforeColon _ hblank) (by decide)
  · exact absurd hcolon (by decide)

theorem trimStart_beforeColon : trimStart (i.beforeColon ++ [':']) = [':'] :=
  trimStart_append i.isBlank_beforeColon (by rintro c ⟨⟩; decide)

/-- The header is found by its own pattern. -/
theorem initParams?_text : initParams? i.text = some i.list := by
  have hdrop (rest : List Char) : dropFront? "__init__".toList (initName ++ rest) = some rest :=
    Rendering.dropFront?_eq_some.2 rfl
  have hparen (rest : List Char) : trimStart (i.beforeParen ++ '(' :: rest) = '(' :: rest :=
    trimStart_append i.isBlank_beforeParen (by rintro c ⟨⟩; decide)
  have hwithin : ∀ c ∈ i.list, (c != '\n') = true := by
    intro c hc
    rw [bne_iff_ne]
    rintro rfl
    exact i.oneLine hc
  have htail : (if (trimStart (i.beforeColon ++ [':'])).head? == some ':' then some () else none) =
      some () := by
    rw [i.trimStart_beforeColon]
    rfl
  have hcut : cutAtLastClose? (· != '\n')
      (fun after => if (trimStart after).head? == some ':' then some () else none) []
      (i.list ++ ')' :: (i.beforeColon ++ [':'])) = some (i.list, ()) :=
    cutAtLastClose?_eq_some [] hwithin htail fun a b hab => (i.not_paren_beforeColon hab).elim
  rw [initParams?, text, dropKeyword?_append "def" i.afterWord_ne_nil i.isBlank_afterWord
    (by rintro c ⟨⟩; decide)]
  simp only [Option.bind_eq_bind, Option.bind_some, hdrop, hparen, hcut, Option.map_some]

end Initializer

/-- What is found by this pattern is a function head of this name. -/
theorem exists_definitionHead?_of_initParams? {text list : List Char}
    (h : initParams? text = some list) :
    ∃ found, definitionHead? text = some found ∧ found.name = initName := by
  obtain ⟨t, hkeyword, h⟩ := Option.bind_eq_some_iff.1 h
  obtain ⟨r, hname, h⟩ := Option.bind_eq_some_iff.1 h
  have ht : t = initName ++ r := Rendering.dropFront?_eq_some.1 hname
  split at h
  · next body hbody =>
    obtain ⟨⟨front, x⟩, hcut, -⟩ := Option.map_eq_some_iff.1 h
    obtain ⟨a, b, hab, hb⟩ := exists_tail_of_cutAtLastClose? hcut
    obtain ⟨inline, hafter⟩ : ∃ inline, afterSignature? b = some inline := by
      split at hb
      · next hhead =>
        obtain ⟨inline, hinline⟩ := List.head?_eq_some_iff.1 (beq_iff_eq.1 hhead)
        exact ⟨inline, by rw [afterSignature?, hinline]; rfl⟩
      · cases hb
    obtain ⟨w, y, hlast⟩ := exists_cutAtLastClose? [] a hafter
    have hword : ∀ c ∈ r.head?, isWord c = false := by
      intro c hc
      cases r with
      | nil => cases hc
      | cons d r =>
        cases hc
        by_cases hblank : isBlank c = true
        · exact Rendering.isWord_eq_false_of_isBlank hblank
        · rw [trimStart, List.dropWhile_cons, if_neg hblank] at hbody
          cases hbody
          decide
    refine ⟨⟨initName, [] ++ (a ++ w), y⟩, ?_, rfl⟩
    rw [definitionHead?, hkeyword]
    simp only [Option.bind_eq_bind, Option.bind_some, ht,
      name?_append (show isName initName = true by decide) hword, hbody, hab, hlast]
    rfl
  · cases h

/-! ## The field -/

/-- A line that sets a field of the object: an assignment to its name, with an annotation or
without. -/
def SetsField (text field : List Char) : Prop :=
  isName field = true ∧ ∃ gap note value, (∀ c ∈ gap, isBlank c = true) ∧
    (note = [] ∨ note.head? = some ':' ∧ '=' ∉ note) ∧ value.head? ≠ some '=' ∧
    text = "self.".toList ++ (field ++ (gap ++ (note ++ '=' :: value)))

/-- What follows the name and its annotation: one equals sign. -/
theorem exists_value {rest name field : List Char}
    (h : (match rest with
      | '=' :: '=' :: _ => none
      | '=' :: _ => some name
      | _ => none) = some field) :
    name = field ∧ ∃ value, rest = '=' :: value ∧ value.head? ≠ some '=' := by
  split at h
  · cases h
  · next value hvalue =>
    cases h
    refine ⟨rfl, value, rfl, fun hhead => ?_⟩
    obtain ⟨more, rfl⟩ := List.head?_eq_some_iff.1 hhead
    exact hvalue more rfl
  · cases h

theorem setsField_of_selfField? {text field : List Char} (h : selfField? text = some field) :
    SetsField text field := by
  obtain ⟨t, hself, hread⟩ := Option.bind_eq_some_iff.1 h
  obtain ⟨⟨name, rest⟩, hname, hfield⟩ := Option.bind_eq_some_iff.1 hread
  obtain ⟨hisName, rfl⟩ := name?_eq_some hname
  have htext : text = "self.".toList ++ (name ++ rest) := Rendering.dropFront?_eq_some.1 hself
  have hgap : ∀ c ∈ rest.takeWhile isBlank, isBlank c = true := fun c hc =>
    List.mem_takeWhile_imp hc
  have hrest : rest = rest.takeWhile isBlank ++ trimStart rest :=
    List.takeWhile_append_dropWhile.symm
  obtain ⟨rfl, value, hvalue, hhead⟩ := exists_value hfield
  split at hvalue
  · next more hstart =>
    let note := ':' :: more.takeWhile (· != '=')
    have hnote : '=' ∉ note := by
      intro hmem
      obtain hcolon | hmem := List.mem_cons.1 hmem
      · cases hcolon
      · exact absurd (List.mem_takeWhile_imp hmem) (by decide)
    refine ⟨hisName, _, note, value, hgap, .inr ⟨rfl, hnote⟩, hhead, ?_⟩
    rw [List.cons_append, ← hvalue, List.takeWhile_append_dropWhile, ← hstart, ← hrest]
    exact htext
  · refine ⟨hisName, _, [], value, hgap, .inl rfl, hhead, ?_⟩
    rw [List.nil_append, ← hvalue, ← hrest]
    exact htext

theorem SetsField.selfField? {text field : List Char} (h : SetsField text field) :
    selfField? text = some field := by
  obtain ⟨hname, gap, note, value, hgap, hnote, hvalue, rfl⟩ := h
  have hdrop (rest : List Char) : dropFront? "self.".toList ("self.".toList ++ rest) = some rest :=
    Rendering.dropFront?_eq_some.2 rfl
  have hhead : ∀ c ∈ (note ++ '=' :: value).head?, c = ':' ∨ c = '=' := by
    intro c hc
    obtain rfl | ⟨hcolon, -⟩ := hnote
    · cases hc
      exact .inr rfl
    · obtain ⟨more, rfl⟩ := List.head?_eq_some_iff.1 hcolon
      cases hc
      exact .inl rfl
  have hblank : ∀ c ∈ (note ++ '=' :: value).head?, isBlank c = false := by
    intro c hc
    obtain rfl | rfl := hhead c hc <;> decide
  have hword : ∀ c ∈ (gap ++ (note ++ '=' :: value)).head?, isWord c = false := by
    intro c hc
    cases gap with
    | nil => obtain rfl | rfl := hhead c hc <;> decide
    | cons d gap =>
      cases hc
      exact Rendering.isWord_eq_false_of_isBlank (hgap _ List.mem_cons_self)
  have hfinal : (match '=' :: value with
      | '=' :: '=' :: _ => none
      | '=' :: _ => some field
      | _ => none) = some field := by
    split
    · next heq =>
      cases heq
      exact absurd rfl hvalue
    · rfl
    · next hne => exact absurd rfl (hne value)
  rw [Source.selfField?]
  simp only [Option.bind_eq_bind, hdrop, Option.bind_some, name?_append hname hword,
    trimStart_append hgap hblank]
  obtain rfl | ⟨hcolon, hequals⟩ := hnote
  · exact hfinal
  · obtain ⟨more, rfl⟩ := List.head?_eq_some_iff.1 hcolon
    have hskip : ∀ c ∈ more, (c != '=') = true := by
      intro c hc
      rw [bne_iff_ne]
      rintro rfl
      exact hequals (List.mem_cons_of_mem _ hc)
    simp only [List.cons_append, List.dropWhile_append_of_pos hskip]
    exact hfinal

/-! ## The class -/

/-- A class with a block whose lines have a header of `__init__` in front of all other ones, which a
block follows that sets a field. -/
structure ClassBlock (e : Engine) (line : Line) (rest : List Line) where
  head : ClassHead
  init : Initializer e
  header : Line
  setter : Line
  field : List Char
  before : List Line
  after : List Line
  front : List Line
  back : List Line
  head_eq : classHead? line.text = some head
  block : trim head.inline = []
  header_eq : header.text = init.text
  lines_eq : rest.take (blockLength line.indent rest) = before ++ header :: after
  first : ∀ l ∈ before, ∀ found, definitionHead? l.text = some found → found.name ≠ initName
  block_eq : after.take (blockLength header.indent after) = front ++ setter :: back
  fresh : ∀ l ∈ front, ∀ name, ¬ SetsField l.text name
  sets : SetsField setter.text field

/-- The default of the second parameter, whose lists are there, or zero. -/
def Initializer.Gives {e : Engine} (i : Initializer e) (v : Value) (lists : Array (Array Value)) :
    Prop :=
  match i.params[1]?.bind Parameter.default with
  | none => v = .int 0
  | some d => ∃ m m' more, d.build m = .ok v m' ∧ lists = m'.store.lists ++ more

namespace ClassBlock

variable {e : Engine} {line : Line} {rest : List Line} (c : ClassBlock e line rest)

/-- The class that is made. -/
def template (default : Value) : Template :=
  let parent := trim (c.head.parent.getD [])
  { name := String.ofList c.head.name
    parent := if parent.isEmpty then none else some (String.ofList parent)
    field := String.ofList c.field
    default }

include c in
theorem classify_line : classify line.text = .classDefinition := by
  obtain ⟨t, hkeyword, -⟩ := Option.bind_eq_some_iff.1 c.head_eq
  obtain ⟨r, hdrop, hblanks⟩ := Option.bind_eq_some_iff.1 hkeyword
  have htext : line.text = 'c' :: ("lass".toList ++ r) := Rendering.dropFront?_eq_some.1 hdrop
  have hword : ∀ d ∈ r.head?, isWord d = false := by
    intro d hd
    cases r with
    | nil => cases hd
    | cons d' r =>
      cases hd
      rw [dropBlanks?] at hblanks
      split at hblanks
      · next hblank => exact Rendering.isWord_eq_false_of_isBlank hblank
      · cases hblanks
  have hfirst : firstName line.text = "class" := by
    rw [firstName, htext, Rendering.splitName_word (List.all_eq_true.1 (by decide)) (by decide) hword]
    rfl
  rw [classify, hfirst]
  rfl

theorem classField_append {before lines : List Line} (h : ∀ l ∈ before, initParams? l.text = none) :
    classField e (before ++ lines) = classField e lines := by
  induction before with
  | nil => rfl
  | cons l before ih =>
    rw [List.cons_append, classField, h l List.mem_cons_self]
    exact ih fun l' hl' => h l' (List.mem_cons_of_mem l hl')

theorem initParams?_before : ∀ l ∈ c.before, initParams? l.text = none := by
  intro l hl
  rw [Option.eq_none_iff_forall_ne_some]
  intro list hlist
  obtain ⟨found, hfound, hname⟩ := exists_definitionHead?_of_initParams? hlist
  exact c.first l hl found hfound hname

theorem findSome?_block :
    (c.after.take (blockLength c.header.indent c.after)).findSome? (fun l => selfField? l.text) =
      some c.field := by
  have hfront : c.front.findSome? (fun l => selfField? l.text) = none := by
    rw [List.findSome?_eq_none_iff]
    intro l hl
    rw [Option.eq_none_iff_forall_ne_some]
    exact fun name hname => c.fresh l hl name (setsField_of_selfField? hname)
  rw [c.block_eq, List.findSome?_append, hfront, List.findSome?_cons, c.sets.selfField?]
  rfl

/-- The field is the first that the block sets, with the default of the second parameter. -/
theorem classField_eq (m : Machine) :
    ∃ v more, classField e (c.before ++ c.header :: c.after) m =
        .ok (String.ofList c.field, v)
          { m with store := { m.store with
              lists := m.store.lists ++ more, scopes := m.store.scopes.push [] } } ∧
      c.init.Gives v (m.store.lists ++ more) := by
  obtain ⟨ds, more, hrun, -, hbound⟩ := defaultsFrom_text m.store.scopes.size c.init.params []
    { m with store := { m.store with scopes := m.store.scopes.push [] } } c.init.nodup fun _ _ => rfl
  refine ⟨firstDefault (c.init.params.map Parameter.key) ds, more, ?_, ?_⟩
  · have hnames : (c.init.params.map Parameter.text).map parameterName =
        c.init.params.map Parameter.key := by
      rw [List.map_map]
      exact List.map_congr_left fun p _ => p.parameterName_text
    have hparameters (scope : Nat) : parameters e scope c.init.list = do
        let defaults ← defaultsFrom e scope [] (c.init.params.map Parameter.text)
        return (c.init.params.map Parameter.key, defaults) := by
      rw [parameters_eq, c.init.pieces, hnames]
    have hscope : Run.newScope [] m = .ok m.store.scopes.size
        { m with store := { m.store with scopes := m.store.scopes.push [] } } := rfl
    rw [classField_append c.initParams?_before, classField, c.header_eq, c.init.initParams?_text]
    simp only [hparameters, bind_assoc, pure_bind, c.findSome?_block, Option.map_some,
      Option.getD_some]
    rw [Run.bind_eq, hscope]
    dsimp only
    rw [Run.bind_eq, hrun]
    rfl
  · rw [Initializer.Gives]
    match hparams : c.init.params with
    | [] | [_] => rfl
    | _ :: p :: _ =>
      have hp := hbound p (by simp [hparams])
      rw [Parameter.Bound] at hp
      change match p.default with
        | none => _
        | some d => _
      cases hdefault : p.default with
      | none =>
        rw [hdefault] at hp
        rw [List.map_cons, List.map_cons, firstDefault, hp]
        rfl
      | some d =>
        rw [hdefault] at hp
        obtain ⟨v, m₁, m₂, rest, hv, hbuild, hlists⟩ := hp
        rw [List.map_cons, List.map_cons, firstDefault, hv]
        exact ⟨m₁, m₂, rest, hbuild, hlists⟩

/-- **Classes.** Executing the class makes a template with the field that the block sets first and
binds it to its name; its default is that of the second parameter, or zero. A call makes an object
that has this field alone, with the first argument or else the default as its value. -/
theorem executeLine_class (scope : Nat) {m : Machine}
    (hlimits : (m.charged line).refusal? = none) :
    ∃ v more,
      executeLine e scope line rest m =
        .ok (blockLength line.indent rest, .normal)
          ((m.charged line).classifying scope more (c.template v)) ∧
      c.init.Gives v (m.store.lists ++ more) ∧
      ∀ (e' : Engine) (args : List Value) (m' : Machine),
        m'.store.templates[m.store.templates.size]? = some (c.template v) →
        apply e' (.template m.store.templates.size) args [] m' =
          .ok (.object m'.store.objects.size)
            (m'.creating ⟨m.store.templates.size, [(String.ofList c.field, args.head?.getD v)]⟩) := by
  obtain ⟨v, more, hfield, hgives⟩ := c.classField_eq (m.charged line)
  refine ⟨v, more, ?_, hgives, ?_⟩
  · have hbody : body line (trim c.head.inline) rest =
        ⟨c.before ++ c.header :: c.after, blockLength line.indent rest⟩ := by
      rw [body, c.block, ← c.lines_eq]
      rfl
    have hdefine : defineClass e scope line rest (m.charged line) =
        .ok (blockLength line.indent rest, .normal)
          ((m.charged line).classifying scope more (c.template v)) := by
      unfold defineClass
      rw [c.head_eq]
      simp only [hbody]
      rw [Run.bind_eq, hfield]
      rfl
    rw [executeLine_eq, hlimits, c.classify_line]
    exact congrArg (Outcome.onFailure _) hdefine
  · intro e' args m' hm'
    have hsignature : templateSignature.bind (.template m.store.templates.size :: args) [] =
        .ok ([some (.template m.store.templates.size)], args) := by
      have hmissing : templateSignature.checkMissing (args.length + 1) [] = .ok () := by
        have hnone : templateSignature.required.drop (args.length + 1) = [] := by
          simp [templateSignature]
        rw [Signature.checkMissing, hnone]
        rfl
      rw [Signature.bind, List.length_cons, hmissing]
      rfl
    unfold apply
    rw [hsignature]
    simp only [Run.ofExcept, pure_bind, Run.store_bind, hm']
    rfl

def sizedHeader : Line :=
  ⟨"def __init__(self, size: int=3, label=\"box\", owner=None, *others):".toList, 4, 3⟩

/-- The lines of a class with a field of its own in front of the header. -/
def sizedLines : List Line :=
  [⟨"limit = 10".toList, 4, 2⟩, sizedHeader, ⟨"print(size)".toList, 8, 4⟩,
    ⟨"self.size = size".toList, 8, 5⟩]

theorem verbatim_box : ∀ c ∈ "box".toList, c ≠ '"' ∧ c ≠ '\\' ∧ c ≠ '\n' :=
  Rendering.forall_of_all (by decide)

def sizedInit : Initializer (Engine.level 3).next where
  params :=
    [{ name := "self".toList, isName_name := by decide },
      { name := "size".toList, note := ": int".toList
        default := some (Default.number (Engine.level 3) ['3'] (v := .int 3) rfl
          (Rendering.forall_of_all (by decide)))
        isName_name := by decide, lacks_note := by decide
        blank_note := Rendering.forall_of_all (by decide) },
      { name := "label".toList
        default := some (Default.quoted (Engine.level 3) (by decide) (.of_plain verbatim_box)
          (Written.stringValue_verbatim (by decide) verbatim_box))
        isName_name := by decide },
      { name := "owner".toList, default := some (Default.content (Engine.level 3) .none)
        isName_name := by decide },
      { stars := ['*'], name := "others".toList, isName_name := by decide }]
  list := "self, size: int=3, label=\"box\", owner=None, *others".toList
  afterWord := [' ']
  beforeParen := []
  beforeColon := []
  afterWord_ne_nil := by decide
  isBlank_afterWord := Rendering.isBlank_space
  isBlank_beforeParen := List.forall_mem_nil _
  isBlank_beforeColon := List.forall_mem_nil _
  oneLine := by decide
  pieces := rfl
  nodup := by decide

def sized : ClassBlock (Engine.level 3).next ⟨"class Box(Base):".toList, 0, 1⟩ sizedLines where
  head := ⟨"Box".toList, some "Base".toList, []⟩
  init := sizedInit
  header := sizedHeader
  setter := ⟨"self.size = size".toList, 8, 5⟩
  field := "size".toList
  before := [⟨"limit = 10".toList, 4, 2⟩]
  after := [⟨"print(size)".toList, 8, 4⟩, ⟨"self.size = size".toList, 8, 5⟩]
  front := [⟨"print(size)".toList, 8, 4⟩]
  back := []
  head_eq := rfl
  block := rfl
  header_eq := rfl
  lines_eq := rfl
  first := by
    rw [List.forall_mem_singleton]
    intro found hfound
    cases hfound
  block_eq := rfl
  fresh := by
    rw [List.forall_mem_singleton]
    intro name hname
    cases hname.selfField?
  sets := ⟨by decide, [' '], [], " size".toList, Rendering.isBlank_space, .inl rfl, by decide, rfl⟩

theorem executeLine_class_sized :
    ∃ m', executeLine (Engine.level 4) 0 ⟨"class Box(Base):".toList, 0, 1⟩ sizedLines
        { store := { scopes := #[[]] } } = .ok (4, .normal) m' ∧
      m'.store.templates = #[⟨"Box", some "Base", "size", .int 3⟩] ∧
      apply (Engine.level 4) (.template 0) [] [] m' =
        .ok (.object 0) (m'.creating ⟨0, [("size", .int 3)]⟩) ∧
      apply (Engine.level 4) (.template 0) [.int 7] [] m' =
        .ok (.object 0) (m'.creating ⟨0, [("size", .int 7)]⟩) := by
  obtain ⟨v, more, hrun, hgives, hcall⟩ := sized.executeLine_class 0
    (m := { store := { scopes := #[[]] } }) (Machine.refusal?_eq_none rfl (by decide) (by decide))
  obtain ⟨m₁, m₂, lists, hvalue, -⟩ := hgives
  obtain rfl : .int 3 = v := by
    cases hvalue
    rfl
  exact ⟨_, hrun, rfl, hcall (Engine.level 4) [] _ rfl, hcall (Engine.level 4) [.int 7] _ rfl⟩

/-- A header with a result annotation is a function head with the same parameters and a block that
sets a field, but the class does not know it. -/
theorem executeLine_class_annotated :
    let header := "def __init__(self, size=3) -> None:".toList
    definitionHead? header = some ⟨initName, "self, size=3".toList, []⟩ ∧
    SetsField "self.size = size".toList "size".toList ∧
    executeLine (Engine.level 4) 0 ⟨"class Box:".toList, 0, 1⟩
        [⟨header, 4, 2⟩, ⟨"self.size = size".toList, 8, 3⟩] { store := { scopes := #[[]] } } =
      .ok (2, .normal) { store :=
                           { templates := #[⟨"Box", none, "balance", .int 0⟩]
                             scopes := #[[("Box", .template 0)]] },
                         steps := 1, lineNumber := 1 } :=
  ⟨rfl, ⟨by decide, [' '], [], " size".toList, Rendering.isBlank_space, .inl rfl, by decide, rfl⟩, rfl⟩

end ClassBlock

end Definition

end SnippetGrader
