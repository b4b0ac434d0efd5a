import SnippetGrader.Proofs.Layout.Reading

/-!
# Reading parameters

What the parameters of a function are is a matter of the text alone: every piece between commas that
is no marker gives one name. Only the defaults are evaluated, from left to right, and a list of names
has none.
-/

namespace SnippetGrader.Definition

open Text Source Expression Layout

/-! ## One piece -/

/-- Whether a piece between commas is a marker, which is no parameter. -/
def isMarker (piece : List Char) : Bool := piece.isEmpty || piece == ['*'] || piece == ['/']

/-- The name of a parameter: what stands before its annotation and its default, without asterisks. -/
def parameterName (piece : List Char) : String :=
  let front := piece.takeWhile (· != '=')
  String.ofList ((trim (front.takeWhile (· != ':'))).dropWhile (· == '*'))

def defaultText? (piece : List Char) : Option (List Char) :=
  match piece.dropWhile (· != '=') with
  | [] => none
  | _ :: text => some text

theorem cutAround?_equals (piece : List Char) :
    cutAround? piece ['='] =
      (defaultText? piece).map fun text => (piece.takeWhile (· != '='), text) := by
  have hfind (i : Nat) : findFrom ['='] i piece =
      (defaultText? piece).map fun _ => i + (piece.takeWhile (· != '=')).length := by
    induction piece generalizing i with
    | nil => rfl
    | cons c rest ih =>
      by_cases hc : c = '='
      · simp [findFrom, defaultText?, hc]
      · have hstart : ['='].isPrefixOf (c :: rest) = false := by
          simp [List.isPrefixOf, Ne.symm hc]
        rw [findFrom, hstart, if_neg Bool.false_ne_true, ih (i + 1)]
        simp [defaultText?, hc, Nat.add_assoc, Nat.add_comm 1]
  rw [cutAround?, find?, hfind 0, Option.map_map]
  have hsplit := List.takeWhile_append_dropWhile (p := (· != '=')) (l := piece)
  generalize piece.takeWhile (· != '=') = front at hsplit ⊢
  rw [defaultText?]
  cases hdrop : piece.dropWhile (· != '=') with
  | nil => rfl
  | cons c text =>
    rw [hdrop] at hsplit
    have htake : piece.take front.length = front := by rw [← hsplit, List.take_left]
    have htext : piece.drop (front.length + 1) = text := by
      rw [← hsplit, ← List.drop_drop, List.drop_left]
      rfl
    simp [htake, htext]

theorem takeWhile_eq_self {piece : List Char} (h : defaultText? piece = none) :
    piece.takeWhile (· != '=') = piece := by
  rw [defaultText?] at h
  have hsplit := List.takeWhile_append_dropWhile (p := (· != '=')) (l := piece)
  cases hdrop : piece.dropWhile (· != '=') with
  | nil => rwa [hdrop, List.append_nil] at hsplit
  | cons c text =>
    rw [hdrop] at h
    cases h

theorem defaultText?_eq_none {piece : List Char} (h : '=' ∉ piece) : defaultText? piece = none := by
  have hdrop : piece.dropWhile (· != '=') = [] := by
    rw [List.dropWhile_eq_nil_iff]
    intro c hc
    rw [bne_iff_ne]
    rintro rfl
    exact h hc
  rw [defaultText?, hdrop]

/-! ## All pieces -/

def defaultsFrom (e : Engine) (scope : Nat) (defaults : Scope) : List (List Char) → Run Scope
  | [] => return defaults
  | piece :: rest =>
    match defaultText? piece with
    | some text => do
      let v ← e.eval scope text
      defaultsFrom e scope (defaults.set (parameterName piece) v) rest
    | none => defaultsFrom e scope defaults rest

def parameterPieces (text : List Char) : List (List Char) :=
  (cutTopLevel ',' text).filter fun piece => !isMarker piece

theorem parametersFrom_cons (e : Engine) (scope : Nat) (names : List String) (defaults : Scope)
    {piece : List Char} (hpiece : isMarker piece = false) (rest : List (List Char)) :
    parametersFrom e scope names defaults (piece :: rest) =
      match defaultText? piece with
      | some text => do
        let v ← e.eval scope text
        parametersFrom e scope (names ++ [parameterName piece])
          (defaults.set (parameterName piece) v) rest
      | none => parametersFrom e scope (names ++ [parameterName piece]) defaults rest := by
  have hskip : (piece.isEmpty || piece == ['*'] || piece == ['/']) = false := hpiece
  rw [parametersFrom, hskip, if_neg Bool.false_ne_true, cutAround?_equals]
  cases htext : defaultText? piece with
  | some text => rfl
  | none =>
    have hfront : piece.takeWhile (· != '=') = piece := takeWhile_eq_self htext
    rw [Option.map_none, parameterName, hfront]

theorem parametersFrom_eq (e : Engine) (scope : Nat) (names : List String) (defaults : Scope)
    (pieces : List (List Char)) :
    parametersFrom e scope names defaults pieces = do
      let ds ← defaultsFrom e scope defaults (pieces.filter fun piece => !isMarker piece)
      return (names ++ (pieces.filter fun piece => !isMarker piece).map parameterName, ds) := by
  induction pieces generalizing names defaults with
  | nil => simp [parametersFrom, defaultsFrom]
  | cons piece rest ih =>
    cases hpiece : isMarker piece with
    | true =>
      have hskip : (piece.isEmpty || piece == ['*'] || piece == ['/']) = true := hpiece
      rw [parametersFrom, if_pos hskip, ih, List.filter_cons_of_neg (by simp [hpiece])]
    | false =>
      rw [parametersFrom_cons e scope names defaults hpiece,
        List.filter_cons_of_pos (by simp [hpiece]), defaultsFrom]
      cases defaultText? piece with
      | none => simp only [ih, List.map_cons, List.append_assoc, List.singleton_append]
      | some text =>
        simp only [ih, List.map_cons, List.append_assoc, List.singleton_append, bind_assoc]

/-- The names of the parameters are those of the pieces, and what is evaluated are the defaults. -/
theorem parameters_eq (e : Engine) (scope : Nat) (text : List Char) :
    parameters e scope text = do
      let defaults ← defaultsFrom e scope [] (parameterPieces text)
      return ((parameterPieces text).map parameterName, defaults) := by
  rw [parameters, parametersFrom_eq, List.nil_append]
  rfl

theorem defaultsFrom_eq_pure (e : Engine) (scope : Nat) (defaults : Scope)
    {pieces : List (List Char)} (h : ∀ piece ∈ pieces, '=' ∉ piece) :
    defaultsFrom e scope defaults pieces = pure defaults := by
  induction pieces with
  | nil => rfl
  | cons piece rest ih =>
    rw [defaultsFrom, defaultText?_eq_none (h piece List.mem_cons_self)]
    exact ih fun p hp => h p (List.mem_cons_of_mem piece hp)

/-! ## Names -/

section Names

variable {names : List (List Char)} (h : ∀ p ∈ names, isName p = true)

theorem plain_of_isName {p : List Char} (hp : isName p = true) {c : Char} (hc : c ∈ p) :
    Rendering.isPlain c = true ∧ c ≠ ',' :=
  ⟨Rendering.isPlain_of_isWord (isWord_of_isName hp hc),
    Rendering.ne_of_isWord (isWord_of_isName hp hc) (by decide)⟩

theorem trim_blank_append_name {p gap : List Char} (hp : isName p = true)
    (hgap : ∀ c ∈ gap, isBlank c = true) : trim (p.reverse ++ gap).reverse = p := by
  have hreverse : ∀ c ∈ gap.reverse, isBlank c = true := fun c hc => hgap c (List.mem_reverse.1 hc)
  rw [List.reverse_append, List.reverse_reverse, trim_append_left hreverse, trim_of_isName hp]

theorem isMarker_of_isName {p : List Char} (hp : isName p = true) : isMarker p = false := by
  have hne (d : Char) (hd : isWord d = false) : p ≠ [d] := by
    rintro rfl
    rw [isWord_of_isName hp List.mem_cons_self] at hd
    cases hd
  have hnil : p ≠ [] := by
    rintro rfl
    cases hp
  simp [isMarker, hnil, hne '*' (by decide), hne '/' (by decide)]

/-- The name of a parameter ends where its annotation or its default starts. -/
theorem parameterName_append {front rest : List Char} (hfront : ∀ c ∈ front, c ≠ '=' ∧ c ≠ ':')
    (hrest : ∀ c ∈ rest.head?, c = '=' ∨ c = ':') :
    parameterName (front ++ rest) = String.ofList ((trim front).dropWhile (· == '*')) := by
  have hequals : ∀ c ∈ front, (c != '=') = true := fun c hc => bne_iff_ne.2 (hfront c hc).1
  have hcolon : ∀ c ∈ front, (c != ':') = true := fun c hc => bne_iff_ne.2 (hfront c hc).2
  have hnone : (rest.takeWhile (· != '=')).takeWhile (· != ':') = [] := by
    cases rest with
    | nil => rfl
    | cons c rest =>
      obtain rfl | rfl := hrest c rfl
      · rfl
      · rfl
  simp only [parameterName, List.takeWhile_append_of_pos hequals,
    List.takeWhile_append_of_pos hcolon, hnone, List.append_nil]

theorem dropWhile_star {p : List Char} (hp : isName p = true) (rest : List Char) :
    (p ++ rest).dropWhile (· == '*') = p ++ rest := by
  cases p with
  | nil => cases hp
  | cons c p =>
    have hne : (c == '*') = false :=
      beq_eq_false_iff_ne.2 (Rendering.ne_of_isWord (isWord_of_isName hp List.mem_cons_self)
        (by decide))
    rw [List.cons_append, List.dropWhile_cons, hne]
    rfl

theorem ne_of_isName {p : List Char} (hp : isName p = true) : ∀ c ∈ p, c ≠ '=' ∧ c ≠ ':' :=
  fun _ hc => ⟨Rendering.ne_of_isWord (isWord_of_isName hp hc) (by decide),
    Rendering.ne_of_isWord (isWord_of_isName hp hc) (by decide)⟩

theorem parameterName_name {p : List Char} (hp : isName p = true) :
    parameterName p = String.ofList p := by
  have hname := parameterName_append (ne_of_isName hp)
    (show ∀ c ∈ ([] : List Char).head?, c = '=' ∨ c = ':' by simp)
  have hstar := dropWhile_star hp []
  rw [List.append_nil] at hname hstar
  rw [hname, trim_of_isName hp, hstar]

include h

/-- A list of names is cut at its commas; the last name is still open at its end. -/
theorem cutTopLevelFrom_names {gap : List Char} (hgap : ∀ c ∈ gap, isBlank c = true)
    (tail : List Char) :
    ∃ gap', (∀ c ∈ gap', isBlank c = true) ∧
      (cutTopLevelFrom ',' {} gap ([',', ' '].intercalate names ++ tail)).map trim =
        names.dropLast ++
          (cutTopLevelFrom ',' {} ((names.getLast?.getD []).reverse ++ gap') tail).map trim := by
  induction names generalizing gap with
  | nil => exact ⟨gap, hgap, rfl⟩
  | cons p rest ih =>
    have hp := h p List.mem_cons_self
    have hpass := Rendering.cutTopLevelFrom_plain (fun c hc => plain_of_isName hp hc) 0 gap
    cases rest with
    | nil =>
      refine ⟨gap, hgap, ?_⟩
      rw [List.intercalate_singleton, hpass]
      rfl
    | cons q rest =>
      obtain ⟨gap', hblank, hrest⟩ := ih (fun r hr => h r (List.mem_cons_of_mem p hr))
        Rendering.isBlank_space
      refine ⟨gap', hblank, ?_⟩
      have hcomma (piece text : List Char) :
          cutTopLevelFrom ',' {} piece (',' :: ' ' :: text) =
            piece.reverse :: cutTopLevelFrom ',' {} [' '] text := rfl
      rw [List.intercalate_cons_cons, List.append_assoc, List.append_assoc, hpass,
        List.cons_append, List.cons_append, List.nil_append, hcomma, List.map_cons, hrest,
        trim_blank_append_name hp hgap, List.getLast?_cons_cons, List.dropLast_cons_cons,
        List.cons_append]

theorem cutTopLevel_names {gap : List Char} (hgap : ∀ c ∈ gap, isBlank c = true) :
    cutTopLevel ',' (gap ++ [',', ' '].intercalate names) = names := by
  have hplain : ∀ c ∈ gap, Rendering.isPlain c = true ∧ c ≠ ',' := fun c hc =>
    ⟨Rendering.isPlain_of_isBlank (hgap c hc), Rendering.ne_of_isBlank (hgap c hc) (by decide)⟩
  have hreverse : ∀ c ∈ gap.reverse, isBlank c = true := by simpa using hgap
  obtain ⟨gap', hblank, hcut⟩ := cutTopLevelFrom_names h hreverse []
  cases names with
  | nil =>
    have hall : (gap ++ [',', ' '].intercalate []).all isBlank = true := by simpa using hgap
    rw [cutTopLevel, if_pos hall]
  | cons p rest =>
    have hall : ¬ (gap ++ [',', ' '].intercalate (p :: rest)).all isBlank = true := by
      obtain ⟨c, p, rfl⟩ : ∃ c p', p = c :: p' := by
        cases p with
        | nil => exact absurd (h [] List.mem_cons_self) (by decide)
        | cons c p => exact ⟨c, p, rfl⟩
      have hc : isBlank c = false := Rendering.isBlank_eq_false_of_isWord
        (isWord_of_isName (h _ List.mem_cons_self) List.mem_cons_self)
      cases rest <;> simp [List.intercalate_cons_cons, hc]
    have hlast := List.getLast?_eq_some_getLast (List.cons_ne_nil p rest)
    have hname := h _ (List.mem_of_getLast? hlast)
    have hend : (cutTopLevelFrom ',' {} (((p :: rest).getLast?.getD []).reverse ++ gap') []).map
        trim = [(p :: rest).getLast (List.cons_ne_nil p rest)] := by
      rw [hlast]
      exact congrArg (fun piece => [piece]) (trim_blank_append_name hname hblank)
    rw [hend, List.dropLast_concat_getLast, List.append_nil] at hcut
    rw [cutTopLevel, if_neg hall, Rendering.cutTopLevelFrom_plain hplain, List.append_nil, hcut]

/-- A list of names is read as these parameters, without defaults. -/
theorem parameters_names {gap : List Char} (hgap : ∀ c ∈ gap, isBlank c = true) (e : Engine)
    (scope : Nat) :
    parameters e scope (gap ++ [',', ' '].intercalate names) =
      pure (names.map String.ofList, []) := by
  have hpieces : parameterPieces (gap ++ [',', ' '].intercalate names) = names := by
    rw [parameterPieces, cutTopLevel_names h hgap, List.filter_eq_self]
    intro p hp
    rw [isMarker_of_isName (h p hp)]
    rfl
  have hname : names.map parameterName = names.map String.ofList :=
    List.map_congr_left fun p hp => parameterName_name (h p hp)
  have hequals : ∀ p ∈ names, '=' ∉ p := fun p hp hmem =>
    absurd (isWord_of_isName (h p hp) hmem) (by decide)
  rw [parameters_eq, hpieces, hname, defaultsFrom_eq_pure e scope [] hequals, pure_bind]

end Names

end SnippetGrader.Definition
