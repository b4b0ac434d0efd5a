import SnippetGrader.Proofs.Layout.Blocks

/-!
# The head of a function definition

A function head is read up to the last parenthesis that can close its signature. If no colon stands
in the result annotation after that parenthesis, the colon that is found is the one that ends the
header, so that nothing of the header is taken for a body on the same line. If one stands there, in
brackets or not, the rest of the header is taken for the body.
-/

namespace SnippetGrader.Layout

open Text Source Statement

/-! ## The last parenthesis -/

theorem afterSignatures?_eq_none {text : List Char}
    (h : ∀ a b, text = a ++ ')' :: b → closesSignature b = false) :
    afterSignatures? text = none := by
  induction text with
  | nil => rfl
  | cons c rest ih =>
    have hrest := ih fun a b hab => h (c :: a) b (by rw [hab, List.cons_append])
    by_cases hc : c = ')'
    · simp [afterSignatures?, hrest, h [] rest (by rw [hc, List.nil_append])]
    · simp [afterSignatures?, hrest, hc]

theorem afterSignatures?_eq_some {a b : List Char} (hclose : closesSignature b = true)
    (hlast : ∀ a' b', b = a' ++ ')' :: b' → closesSignature b' = false) :
    afterSignatures? (a ++ ')' :: b) = some b := by
  induction a with
  | nil => simp [afterSignatures?, afterSignatures?_eq_none hlast, hclose]
  | cons c a ih => rw [List.cons_append, afterSignatures?, ih]

theorem eq_none_of_cutAtLastClose? {α : Type} {tail : List Char → Option α}
    {before text : List Char} (h : cutAtLastClose? (fun _ => true) tail before text = none)
    {a b : List Char} (hab : text = a ++ ')' :: b) : tail b = none := by
  induction text generalizing before a with
  | nil => simp at hab
  | cons c rest ih =>
    simp only [cutAtLastClose?, if_true] at h
    split at h
    · cases h
    · next hrest =>
      cases a with
      | nil =>
        rw [List.nil_append, List.cons.injEq] at hab
        obtain ⟨rfl, rfl⟩ := hab
        simpa using h
      | cons d a =>
        rw [List.cons_append, List.cons.injEq] at hab
        exact ih hrest hab.2

/-- The text is cut at the last parenthesis after which the rest can be read. -/
theorem exists_of_cutAtLastClose? {α : Type} {tail : List Char → Option α}
    {before text front : List Char} {x : α}
    (h : cutAtLastClose? (fun _ => true) tail before text = some (front, x)) :
    ∃ a b, text = a ++ ')' :: b ∧ front = before.reverse ++ a ∧ tail b = some x ∧
      ∀ a' b', b = a' ++ ')' :: b' → tail b' = none := by
  induction text generalizing before with
  | nil => cases h
  | cons c rest ih =>
    simp only [cutAtLastClose?, if_true] at h
    split at h
    · next found hfound =>
      cases h
      obtain ⟨a, b, rfl, rfl, hb, hlast⟩ := ih hfound
      exact ⟨c :: a, b, rfl, by simp, hb, hlast⟩
    · next hrest =>
      split at h
      · next hc =>
        rw [beq_iff_eq] at hc
        subst hc
        obtain ⟨y, hy, hpair⟩ := Option.map_eq_some_iff.1 h
        cases hpair
        exact ⟨[], rest, rfl, by simp, hy, fun a' b' hab => eq_none_of_cutAtLastClose? hrest hab⟩
      · cases h

section Close

variable {α : Type} {within : Char → Bool} {tail : List Char → Option α}

/-- The text is cut at a parenthesis after which the rest can be read. -/
theorem exists_tail_of_cutAtLastClose? {before text front : List Char} {x : α}
    (h : cutAtLastClose? within tail before text = some (front, x)) :
    ∃ a b, text = a ++ ')' :: b ∧ tail b = some x := by
  induction text generalizing before with
  | nil => cases h
  | cons c rest ih =>
    simp only [cutAtLastClose?] at h
    split at h
    · next found hfound =>
      cases h
      split at hfound
      · obtain ⟨a, b, rfl, hb⟩ := ih hfound
        exact ⟨c :: a, b, rfl, hb⟩
      · cases hfound
    · split at h
      · next hc =>
        obtain ⟨y, hy, hpair⟩ := Option.map_eq_some_iff.1 h
        cases hpair
        exact ⟨[], rest, by rw [beq_iff_eq.1 hc]; rfl, hy⟩
      · cases h

theorem cutAtLastClose?_eq_none {before text : List Char}
    (h : ∀ a b, text = a ++ ')' :: b → tail b = none) :
    cutAtLastClose? within tail before text = none := by
  induction text generalizing before with
  | nil => rfl
  | cons c rest ih =>
    have hrest (before : List Char) : cutAtLastClose? within tail before rest = none :=
      ih fun a b hab => h (c :: a) b (by rw [hab, List.cons_append])
    by_cases hc : c = ')'
    · simp [cutAtLastClose?, hrest, hc, h [] rest (by rw [hc, List.nil_append])]
    · simp [cutAtLastClose?, hrest, hc]

/-- Where the text is cut if no later parenthesis will do. -/
theorem cutAtLastClose?_eq_some (before : List Char) {a b : List Char} {x : α}
    (hwithin : ∀ c ∈ a, within c = true) (hb : tail b = some x)
    (hlast : ∀ a' b', b = a' ++ ')' :: b' → tail b' = none) :
    cutAtLastClose? within tail before (a ++ ')' :: b) = some (before.reverse ++ a, x) := by
  induction a generalizing before with
  | nil => simp [cutAtLastClose?, cutAtLastClose?_eq_none hlast, hb]
  | cons c a ih =>
    have hrest := ih (c :: before) fun d hd => hwithin d (List.mem_cons_of_mem c hd)
    simp [cutAtLastClose?, hwithin c List.mem_cons_self, hrest]

/-- A parenthesis that will do is one where the text is cut, or the text is cut after it. -/
theorem exists_cutAtLastClose? (before a : List Char) {b : List Char} {x : α}
    (hb : tail b = some x) :
    ∃ w y, cutAtLastClose? (fun _ => true) tail before (a ++ ')' :: b) =
      some (before.reverse ++ (a ++ w), y) := by
  induction a generalizing before with
  | nil =>
    cases hrest : cutAtLastClose? (fun _ => true) tail (')' :: before) b with
    | none => exact ⟨[], x, by simp [cutAtLastClose?, hrest, hb]⟩
    | some found =>
      obtain ⟨front, y⟩ := found
      obtain ⟨w, -, -, hfront, -⟩ := exists_of_cutAtLastClose? hrest
      exact ⟨')' :: w, y, by simp [cutAtLastClose?, hrest, hfront]⟩
  | cons c a ih =>
    obtain ⟨w, y, hrest⟩ := ih (c :: before)
    exact ⟨w, y, by simp [cutAtLastClose?, hrest]⟩

end Close

/-! ## What follows the signature -/

theorem trimStart_append_colon (b : List Char) : trimStart (b ++ [':']) = trimStart b ++ [':'] := by
  rw [trimStart, List.dropWhile_append]
  split
  · next hempty =>
    rw [List.isEmpty_iff] at hempty
    rw [trimStart, hempty]
    rfl
  · rfl

/-- A parenthesis can close a signature if what follows it can be read up to the colon. -/
theorem isSome_afterSignature? (b : List Char) :
    (afterSignature? (b ++ [':'])).isSome = closesSignature b := by
  rw [afterSignature?, closesSignature, trimStart_append_colon]
  cases trimStart b with
  | nil => rfl
  | cons c rest =>
    by_cases hcolon : c = ':'
    · subst hcolon
      rfl
    · by_cases hdash : c = '-'
      · subst hdash
        cases rest with
        | nil => rfl
        | cons d rest =>
          by_cases hd : d = '>'
          · subst hd
            have hne : (rest ++ [':']).dropWhile (· != ':') ≠ [] := by
              simp [List.dropWhile_eq_nil_iff]
            obtain ⟨x, body, hbody⟩ := List.exists_cons_of_ne_nil hne
            simp [hbody]
          · simp [hd]
      · simp [hcolon, hdash]

/-- The colon that ends a header is found if there is none before it. -/
theorem afterSignature?_eq_nil {b inline : List Char} (hcolon : ':' ∉ b)
    (h : afterSignature? (b ++ [':']) = some inline) : inline = [] := by
  have hstart : ':' ∉ trimStart b := fun hc => hcolon ((List.dropWhile_suffix _).subset hc)
  rw [afterSignature?, trimStart_append_colon] at h
  generalize trimStart b = start at h hstart
  cases start with
  | nil =>
    cases h
    rfl
  | cons c rest =>
    rw [List.mem_cons, not_or] at hstart
    split at h
    · next heq => exact absurd (List.cons.inj heq).1.symm hstart.1
    · next more heq =>
      have hrest := (List.cons.inj heq).2
      cases rest with
      | nil => cases hrest
      | cons d rest =>
        obtain rfl : rest ++ [':'] = more := (List.cons.inj hrest).2
        rw [List.mem_cons, not_or] at hstart
        have hskip : ∀ c ∈ rest, (c != ':') = true := by
          intro c hc
          rw [bne_iff_ne]
          rintro rfl
          exact hstart.2.2 hc
        rw [List.dropWhile_append_of_pos hskip] at h
        cases h
        rfl
    · cases h

/-- If there is a colon before it, the colon that ends a header is left over. -/
theorem colon_mem_afterSignature? {b inline : List Char} (hcolon : ':' ∈ b)
    (h : afterSignature? (b ++ [':']) = some inline) : ':' ∈ inline := by
  have hstart : ':' ∈ trimStart b := mem_trimStart_of_mem hcolon (by decide)
  rw [afterSignature?, trimStart_append_colon] at h
  generalize trimStart b = start at h hstart
  cases start with
  | nil => cases hstart
  | cons c rest =>
    split at h
    · next heq =>
      cases h
      rw [← (List.cons.inj heq).2]
      exact List.mem_concat_self
    · next more heq =>
      obtain ⟨rfl, hrest⟩ := List.cons.inj heq
      cases rest with
      | nil => cases hrest
      | cons d rest =>
        obtain ⟨rfl, hmore⟩ := List.cons.inj hrest
        obtain rfl : rest ++ [':'] = more := hmore
        have hmem : ':' ∈ rest := by simpa using hstart
        -- the first colon is not the last one, so dropping up to it keeps the last one
        obtain ⟨x, body, hbody⟩ : ∃ x body, rest.dropWhile (· != ':') = x :: body := by
          refine List.exists_cons_of_ne_nil fun hnil => ?_
          simpa using List.dropWhile_eq_nil_iff.1 hnil ':' hmem
        rw [List.dropWhile_append, hbody] at h
        cases h
        exact List.mem_concat_self
    · cases h

/-! ## Tabs -/

theorem closesSignature_expandTabsFrom (column : Nat) (text : List Char) :
    closesSignature (expandTabsFrom 4 column text) = closesSignature text := by
  obtain ⟨after, hstart⟩ := trimStart_expandTabsFrom column text
  rw [closesSignature, closesSignature, hstart]
  cases trimStart text with
  | nil => rfl
  | cons c rest =>
    by_cases htab : c = '\t'
    · subst htab
      obtain ⟨n, after', hcons⟩ := expandTabsFrom_tab after
      rw [hcons, List.replicate_succ]
      rfl
    · obtain ⟨after', hcons⟩ := expandTabsFrom_cons htab after
      rw [hcons]
      simp only [head?_expandTabsFrom (c := '>') (by decide) (by decide) after' rest]

theorem afterSignatures?_expandTabsFrom (column : Nat) (text : List Char) :
    ∃ after, afterSignatures? (expandTabsFrom 4 column text) =
      (afterSignatures? text).map (expandTabsFrom 4 after) := by
  have hspaces (n : Nat) (rest : List Char) :
      afterSignatures? (List.replicate n ' ' ++ rest) = afterSignatures? rest := by
    induction n with
    | zero => rfl
    | succ n ih =>
      rw [List.replicate_succ, List.cons_append, afterSignatures?, ih]
      cases afterSignatures? rest <;> rfl
  induction text generalizing column with
  | nil => exact ⟨column, rfl⟩
  | cons c rest ih =>
    by_cases htab : c = '\t'
    · subst htab
      obtain ⟨n, column', hcons⟩ := expandTabsFrom_tab column
      obtain ⟨after, hrest⟩ := ih column'
      refine ⟨after, ?_⟩
      rw [hcons, hspaces, hrest, afterSignatures?]
      cases afterSignatures? rest <;> rfl
    · obtain ⟨column', hcons⟩ := expandTabsFrom_cons htab column
      obtain ⟨after, hrest⟩ := ih column'
      rw [hcons, afterSignatures?, afterSignatures?, hrest, closesSignature_expandTabsFrom]
      cases afterSignatures? rest with
      | some found => exact ⟨after, rfl⟩
      | none =>
        refine ⟨column', ?_⟩
        simp only [Option.map_none]
        split <;> rfl

theorem hasPlainResult_expandTabsFrom (column : Nat) (head : List Char) :
    hasPlainResult (expandTabsFrom 4 column head) = hasPlainResult head := by
  obtain ⟨after, hafter⟩ := afterSignatures?_expandTabsFrom column head
  rw [hasPlainResult, hasPlainResult, hafter]
  cases afterSignatures? head with
  | none => rfl
  | some found =>
    have hcolon : ':' ∈ expandTabsFrom 4 after found ↔ ':' ∈ found :=
      ⟨fun hc => (mem_expandTabsFrom hc).resolve_left (by decide),
        fun hc => mem_expandTabsFrom_of_mem after hc (by decide)⟩
    simp only [Option.map_some, Option.all_some, List.contains_eq_mem, hcolon]

/-! ## The head -/

theorem afterSignatures?_append {w : List Char} (hw : ')' ∉ w) (text : List Char) :
    afterSignatures? (w ++ text) = afterSignatures? text := by
  induction w with
  | nil => rfl
  | cons c w ih =>
    rw [List.mem_cons, not_or] at hw
    rw [List.cons_append, afterSignatures?, ih hw.2, beq_false_of_ne (Ne.symm hw.1)]
    cases afterSignatures? text <;> rfl

theorem suffix_of_dropKeyword? {word : String} {text rest : List Char}
    (h : dropKeyword? word text = some rest) : rest <:+ text := by
  obtain ⟨tail, htail, hrest⟩ := Option.bind_eq_some_iff.1 h
  rw [Rendering.dropFront?_eq_some] at htail
  cases tail with
  | nil => cases hrest
  | cons c tail =>
    simp only [dropBlanks?] at hrest
    split at hrest
    · cases hrest
      rw [htail]
      exact ((List.dropWhile_suffix _).trans (List.suffix_cons c tail)).trans
        (List.suffix_append word.toList _)
    · cases hrest

theorem name?_eq_some {text name rest : List Char} (h : name? text = some (name, rest)) :
    isName name = true ∧ text = name ++ rest := by
  cases text with
  | nil => cases h
  | cons c text =>
    rw [name?, splitName] at h
    by_cases hc : isNameStart c = true
    · have hword : isWord c = true := Rendering.isWord_of_isNameStart hc
      rw [if_pos hc, List.span_eq_takeWhile_dropWhile] at h
      simp only [List.takeWhile_cons_of_pos hword, List.dropWhile_cons_of_pos hword] at h
      cases h
      refine ⟨?_, by rw [List.cons_append, List.takeWhile_append_dropWhile]⟩
      rw [isName, hc, Bool.true_and, List.all_eq_true]
      exact fun d hd => List.mem_takeWhile_imp hd
    · rw [if_neg hc] at h
      cases h

theorem suffix_of_name? {text name rest : List Char} (h : name? text = some (name, rest)) :
    rest <:+ text :=
  ⟨name, (name?_eq_some h).2.symm⟩

theorem trimStart_append {gap : List Char} (hgap : ∀ c ∈ gap, isBlank c = true) {text : List Char}
    (htext : ∀ c ∈ text.head?, isBlank c = false) : trimStart (gap ++ text) = text := by
  rw [trimStart, List.dropWhile_append_of_pos hgap]
  cases text with
  | nil => rfl
  | cons c text => rw [List.dropWhile_cons, htext c rfl]; rfl

theorem dropKeyword?_append (word : String) {gap : List Char} (hne : gap ≠ [])
    (hgap : ∀ c ∈ gap, isBlank c = true) {text : List Char}
    (htext : ∀ c ∈ text.head?, isBlank c = false) :
    dropKeyword? word (word.toList ++ (gap ++ text)) = some text := by
  have hdrop : dropFront? word.toList (word.toList ++ (gap ++ text)) = some (gap ++ text) :=
    Rendering.dropFront?_eq_some.2 rfl
  obtain ⟨c, gap, rfl⟩ := List.exists_cons_of_ne_nil hne
  rw [List.forall_mem_cons] at hgap
  rw [dropKeyword?, hdrop, Option.bind_some, List.cons_append, dropBlanks?, if_pos hgap.1,
    trimStart_append hgap.2 htext]

theorem name?_append {name : List Char} (hname : isName name = true) {rest : List Char}
    (hrest : ∀ c ∈ rest.head?, isWord c = false) : name? (name ++ rest) = some (name, rest) := by
  obtain ⟨c, name, rfl⟩ : ∃ c rest, name = c :: rest := by
    cases name with
    | nil => cases hname
    | cons c rest => exact ⟨c, rest, rfl⟩
  have hstart : isNameStart c = true := by
    rw [isName, Bool.and_eq_true] at hname
    exact hname.1
  rw [name?, List.cons_append,
    Rendering.splitName_word (fun d hd => isWord_of_isName hname hd) hstart hrest]
  rfl

section Head

variable {gap name gap' : List Char} (hne : gap ≠ []) (hgap : ∀ c ∈ gap, isBlank c = true)
  (hname : isName name = true) (hgap' : ∀ c ∈ gap', isBlank c = true)

theorem isBlank_head?_name (hname : isName name = true) (text : List Char) :
    ∀ c ∈ (name ++ text).head?, isBlank c = false := by
  intro c hc
  cases name with
  | nil => cases hname
  | cons d name =>
    cases hc
    exact Rendering.isBlank_eq_false_of_isWord (isWord_of_isName hname List.mem_cons_self)

theorem isWord_head?_paren (hgap' : ∀ c ∈ gap', isBlank c = true) (body : List Char) :
    ∀ c ∈ (gap' ++ '(' :: body).head?, isWord c = false := by
  intro c hc
  cases gap' with
  | nil =>
    cases hc
    decide
  | cons d gap' =>
    cases hc
    exact Rendering.isWord_eq_false_of_isBlank (hgap' _ List.mem_cons_self)

include hne hgap hname hgap'

/-- A head with blanks where they may stand is read by what follows its first parenthesis. -/
theorem definitionHead?_append (body : List Char) :
    definitionHead? ("def".toList ++ (gap ++ (name ++ (gap' ++ '(' :: body)))) =
      (cutAtLastClose? (fun _ => true) afterSignature? [] body).map fun found =>
        ⟨name, found.1, found.2⟩ := by
  have hparen : trimStart (gap' ++ '(' :: body) = '(' :: body :=
    trimStart_append hgap' (by rintro c ⟨⟩; decide)
  rw [definitionHead?, dropKeyword?_append "def" hne hgap (isBlank_head?_name hname _)]
  simp only [Option.bind_eq_bind, Option.bind_some,
    name?_append hname (isWord_head?_paren hgap' body), hparen]
  cases cutAtLastClose? (fun _ => true) afterSignature? [] body <;> rfl

end Head

/-- A function head is cut at a parenthesis after which its signature is read. -/
theorem exists_of_definitionHead? {text : List Char} {found : DefinitionHead}
    (h : definitionHead? text = some found) :
    ∃ body, body <:+ text ∧
      cutAtLastClose? (fun _ => true) afterSignature? [] body =
        some (found.params, found.inline) := by
  obtain ⟨t, ht, h⟩ := Option.bind_eq_some_iff.1 h
  obtain ⟨⟨name, rest⟩, hname, h⟩ := Option.bind_eq_some_iff.1 h
  simp only at h
  split at h
  · next body hbody =>
    obtain ⟨⟨params, inline⟩, hcut, h⟩ := Option.bind_eq_some_iff.1 h
    cases h
    have hstart : '(' :: body <:+ rest := by
      rw [← hbody]
      exact List.dropWhile_suffix _
    exact ⟨body, (((List.suffix_cons '(' body).trans hstart).trans (suffix_of_name? hname)).trans
      (suffix_of_dropKeyword? ht), hcut⟩
  · cases h

/-- A function head is read by what follows the last parenthesis that can close its signature. -/
theorem exists_signature {p : Part} {n : Nat} {found : DefinitionHead}
    (hfound : definitionHead? (expandTabsFrom 4 n p.headline) = some found) :
    ∃ after, afterSignatures? (p.wideHead n) = some after ∧
      afterSignature? (after ++ [':']) = some found.inline := by
  have hparen : ')' ∉ p.word.text.toList :=
    fun hc => absurd (p.word.isWord_of_mem _ hc) (by decide)
  rw [← afterSignatures?_append hparen]
  obtain ⟨body, ⟨front, hbody⟩, hcut⟩ := exists_of_definitionHead? hfound
  obtain ⟨a, b, rfl, -, hafter, hlast⟩ := exists_of_cutAtLastClose? hcut
  rw [Part.expandTabsFrom_headline] at hbody
  generalize p.word.text.toList ++ p.wideHead n = text at hbody
  obtain rfl | ⟨b, c, rfl⟩ := List.eq_nil_or_concat b
  · cases hafter
  rw [List.concat_eq_append] at *
  have hsplit : front ++ a ++ ')' :: b = text ∧ c = ':' := by
    rw [← List.cons_append, ← List.append_assoc, ← List.append_assoc] at hbody
    exact (List.append_inj' hbody rfl).imp_right fun hc => (List.cons.inj hc).1
  obtain ⟨rfl, rfl⟩ := hsplit
  have hclose : closesSignature b = true := by
    rw [← isSome_afterSignature?, hafter]
    rfl
  have hends : ∀ a' b', b = a' ++ ')' :: b' → closesSignature b' = false := by
    intro a' b' hab
    rw [← isSome_afterSignature?, hlast a' (b' ++ [':']) (by rw [hab, List.append_assoc]; rfl)]
    rfl
  exact ⟨b, afterSignatures?_eq_some hclose hends, hafter⟩

/-- What is left of a function head is empty if its annotation has no colon, and holds the colon
that ends the header otherwise. -/
theorem definitionHead?_inline {p : Part} {n : Nat} {found : DefinitionHead}
    (hfound : definitionHead? (expandTabsFrom 4 n p.headline) = some found) :
    if hasPlainResult p.head then found.inline = [] else ':' ∈ found.inline := by
  obtain ⟨after, hafter, hinline⟩ := exists_signature hfound
  have hplain := hasPlainResult_expandTabsFrom (n + p.word.text.toList.length) p.head
  rw [← Part.wideHead, hasPlainResult, hafter, Option.all_some] at hplain
  rw [← hplain]
  split
  · next hcolon => exact afterSignature?_eq_nil (by simpa using hcolon) hinline
  · next hcolon => exact colon_mem_afterSignature? (by simpa using hcolon) hinline

end SnippetGrader.Layout
