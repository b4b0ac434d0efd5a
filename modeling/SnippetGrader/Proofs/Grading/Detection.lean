import SnippetGrader.Grading.Rule
import SnippetGrader.Source.Statement
import SnippetGrader.Statement.Clause
import SnippetGrader.Proofs.Layout.Blocks
import SnippetGrader.Proofs.Layout.Opening
import SnippetGrader.Proofs.Rendering.Sign

/-!
# What the rules see of a program

The checks of the catalogue look at the raw text of a submission, the interpreter at its logical
lines. A loop or a `global` statement is seen where it stands at the start of a physical line, its
header is on that line and its words have blanks around them. The interpreter asks for none of the
three, so that a submission can execute a statement that no check sees.
-/

namespace SnippetGrader.Text.Pattern

open Rendering

/-! ## Pieces that fit a pattern -/

/-- A piece of text is what a pattern describes. -/
def Fits (p : Pattern) (piece : List Char) : Prop := ∀ rest, rest ∈ p.rests (piece ++ rest)

theorem fits_word (text : String) : (word text).Fits text.toList := fun _ =>
  mem_rests_exactly.2 rfl

section Class

variable {q : Char → Bool} {piece : List Char}

theorem fits_one {c : Char} (hc : q c = true) : (one q).Fits [c] := fun _ =>
  mem_rests_one.2 ⟨c, hc, rfl⟩

theorem fits_many (h : ∀ c ∈ piece, q c = true) : (many q).Fits piece := fun _ =>
  mem_rests_many.2 ⟨piece, h, rfl⟩

end Class

section Combined

variable {p q : Pattern} {a b : List Char}

theorem Fits.andThen (ha : p.Fits a) (hb : q.Fits b) : (andThen p q).Fits (a ++ b) := by
  intro rest
  rw [List.append_assoc]
  exact mem_rests_andThen.2 ⟨b ++ rest, ha (b ++ rest), hb rest⟩

theorem Fits.left (ha : p.Fits a) : (either p q).Fits a := fun rest =>
  mem_rests_either.2 (.inl (ha rest))

theorem Fits.right (ha : q.Fits a) : (either p q).Fits a := fun rest =>
  mem_rests_either.2 (.inr (ha rest))

end Combined

theorem fits_some {q : Char → Bool} {piece : List Char} (hne : piece ≠ [])
    (h : ∀ c ∈ piece, q c = true) : (some q).Fits piece := by
  obtain ⟨c, rest, rfl⟩ := List.exists_cons_of_ne_nil hne
  rw [List.forall_mem_cons] at h
  exact (fits_one h.1).andThen (fits_many h.2)

theorem fits_all {ps : List Pattern} {pieces : List (List Char)} (h : List.Forall₂ Fits ps pieces) :
    (all ps).Fits pieces.flatten := by
  induction h with
  | nil => exact fits_word ""
  | cons hp _ ih => exact hp.andThen ih

/-- A piece is found wherever the character in front admits it. -/
theorem occursAfter_append {p : Pattern} {anchor : Option Char → Bool} {piece : List Char}
    (hfits : p.Fits piece) (front back : List Char) (before : Option Char)
    (h : anchor (front.getLast?.or before) = true) :
    p.occursAfter anchor before (front ++ (piece ++ back)) = true := by
  induction front generalizing before with
  | nil =>
    have hfound : (p.rests (piece ++ back)).isEmpty = false :=
      List.isEmpty_eq_false_iff.2 (List.ne_nil_of_mem (hfits back))
    rw [List.getLast?_nil, Option.none_or] at h
    cases htext : piece ++ back with
    | nil =>
      rw [htext] at hfound
      simp [occursAfter, h, hfound]
    | cons c rest =>
      rw [htext] at hfound
      simp [occursAfter, h, hfound]
  | cons c front ih =>
    have hrest : anchor (front.getLast?.or (Option.some c)) = true := by
      cases front with
      | nil => exact h
      | cons d front =>
        rw [List.getLast?_cons_cons] at h
        rw [List.getLast?_eq_some_getLast (List.cons_ne_nil d front), Option.some_or] at h ⊢
        exact h
    rw [List.cons_append, occursAfter, ih _ hrest, Bool.or_true]

end SnippetGrader.Text.Pattern

namespace SnippetGrader.Layout

open Text Source

/-! ## Where a physical line stands in a source -/

/-- A piece starts a text or follows a separator. -/
theorem exists_of_getElem?_cutAt {sep : Char} {text piece : List Char} {i : Nat}
    (h : (cutAt sep text)[i]? = some piece) :
    ∃ before after, text = before ++ (piece ++ after) ∧
      before.getLast? = if i = 0 then none else some sep := by
  induction text generalizing i piece with
  | nil =>
    obtain ⟨rfl, rfl⟩ : i = 0 ∧ piece = [] := by
      cases i with
      | zero => exact ⟨rfl, (Option.some.inj h).symm⟩
      | succ i => cases h
    exact ⟨[], [], rfl, rfl⟩
  | cons c rest ih =>
    obtain ⟨first, more, hcut⟩ := List.exists_cons_of_ne_nil (cutAt_ne_nil sep rest)
    by_cases hc : c = sep
    · subst hc
      rw [cutAt, if_pos (beq_self_eq_true c)] at h
      cases i with
      | zero =>
        obtain rfl : [] = piece := Option.some.inj h
        exact ⟨[], c :: rest, rfl, rfl⟩
      | succ i =>
        obtain ⟨before, after, hrest, hlast⟩ := ih h
        refine ⟨c :: before, after, by rw [hrest]; rfl, ?_⟩
        rw [List.getLast?_cons, hlast]
        split <;> rfl
    · rw [cutAt, if_neg (by simpa using hc), hcut] at h
      rw [hcut] at ih
      cases i with
      | zero =>
        obtain rfl : c :: first = piece := Option.some.inj h
        obtain ⟨before, after, hrest, hlast⟩ := ih (i := 0) rfl
        rw [if_pos rfl, List.getLast?_eq_none_iff] at hlast
        rw [hlast] at hrest
        exact ⟨[], after, by rw [hrest]; rfl, rfl⟩
      | succ i =>
        obtain ⟨before, after, hrest, hlast⟩ := ih (i := i + 1) h
        refine ⟨c :: before, after, by rw [hrest]; rfl, ?_⟩
        rw [if_neg (Nat.succ_ne_zero i)] at hlast ⊢
        rw [List.getLast?_cons, hlast]
        rfl

theorem exists_of_getElem?_dropReturns {lines : List (List Char)} {raw : List Char} {i : Nat}
    (h : (dropReturns lines)[i]? = some raw) : ∃ line, lines[i]? = some line ∧ raw <+: line := by
  induction lines using dropReturns.induct generalizing i with
  | case1 line next more ih =>
    cases i with
    | zero =>
      obtain rfl : dropReturn line = raw := Option.some.inj h
      obtain ⟨blanks, -, hline⟩ := exists_dropReturn line
      exact ⟨line, rfl, blanks, hline.symm⟩
    | succ i => exact ih h
  | case2 lines hlines =>
    rw [dropReturns] at h
    · exact ⟨raw, h, List.prefix_rfl⟩
    · exact hlines

/-- The physical line of a logical line is a part of the source, at the start of a line. -/
theorem exists_of_physicalLine (source : List Char) (l : Line) :
    ∃ before after, source = before ++ (physicalLine source l ++ after) ∧
      Pattern.atLineStart before.getLast? = true ∧ '\n' ∉ physicalLine source l := by
  rw [physicalLine]
  cases hraw : (physicalLines source)[l.number - 1]? with
  | none => exact ⟨[], source, rfl, rfl, List.not_mem_nil⟩
  | some raw =>
    rw [physicalLines_eq] at hraw
    obtain ⟨line, hline, back, rfl⟩ := exists_of_getElem?_dropReturns hraw
    obtain ⟨before, after, hsource, hlast⟩ := exists_of_getElem?_cutAt hline
    refine ⟨before, back ++ after, by rw [hsource, List.append_assoc]; rfl, ?_, fun hmem => ?_⟩
    · rw [hlast]
      split <;> rfl
    · exact not_mem_cutAt (List.mem_of_getElem? hline) (List.mem_append_left back hmem)

theorem occurs_of_physicalLine {p : Pattern} {source : List Char} {l : Line} {piece : List Char}
    (hfits : p.Fits piece) (rest : List Char) (hline : physicalLine source l = piece ++ rest) :
    p.occurs Pattern.atLineStart source = true := by
  obtain ⟨before, after, hsource, hstart, -⟩ := exists_of_physicalLine source l
  rw [hline, List.append_assoc] at hsource
  rw [Pattern.occurs, hsource]
  exact Pattern.occursAfter_append hfits before _ none (by rwa [Option.or_none])

/-! ## Lines whose tabs are expanded -/

/-- A text and what it becomes when its tabs are expanded, in some column. -/
def Widens (raw wide : List Char) : Prop := ∃ column, expandTabsFrom 4 column raw = wide

section Widens

variable {raw wide : List Char}

theorem exists_of_expandTabsFrom {column : Nat} {a b : List Char} {c : Char} (hc : c ≠ ' ')
    (h : expandTabsFrom 4 column raw = a ++ c :: b) :
    ∃ a' b', raw = a' ++ c :: b' ∧ expandTabsFrom 4 column a' = a ∧ Widens b' b := by
  induction raw generalizing a column with
  | nil => exact absurd h (by simp [expandTabsFrom])
  | cons d raw ih =>
    by_cases htab : d = '\t'
    · subst htab
      obtain ⟨n, after, hcons⟩ := expandTabsFrom_tab column
      rw [hcons] at h
      -- the character is none of the spaces
      obtain ⟨more, rfl, hrest⟩ : ∃ more, a = List.replicate (n + 1) ' ' ++ more ∧
          expandTabsFrom 4 after raw = more ++ c :: b := by
        obtain h | ⟨more, hspaces, hrest⟩ := List.append_eq_append_iff.1 h
        · exact h
        · cases more with
          | nil => exact ⟨[], by rw [hspaces, List.append_nil, List.append_nil], hrest.symm⟩
          | cons e more =>
            have hmem : e ∈ List.replicate (n + 1) ' ' := hspaces ▸ by simp
            exact absurd ((List.cons.inj hrest).1.trans (List.eq_of_mem_replicate hmem)) hc
      obtain ⟨a', b', hraw, hfront, hback⟩ := ih hrest
      exact ⟨'\t' :: a', b', by rw [hraw, List.cons_append], by rw [hcons, hfront], hback⟩
    · obtain ⟨after, hcons⟩ := expandTabsFrom_cons htab column
      rw [hcons] at h
      cases a with
      | nil =>
        obtain ⟨rfl, hrest⟩ := List.cons.inj h
        exact ⟨[], raw, rfl, rfl, after, hrest⟩
      | cons e a =>
        obtain ⟨rfl, hrest⟩ := List.cons.inj h
        obtain ⟨a', b', hraw, hfront, hback⟩ := ih hrest
        exact ⟨d :: a', b', by rw [hraw, List.cons_append], by rw [hcons, hfront], hback⟩

theorem Widens.cut {a b : List Char} {c : Char} (h : Widens raw (a ++ c :: b)) (hc : c ≠ ' ') :
    ∃ a' b', raw = a' ++ c :: b' ∧ Widens a' a ∧ Widens b' b := by
  obtain ⟨column, h⟩ := h
  obtain ⟨a', b', hraw, hfront, hback⟩ := exists_of_expandTabsFrom hc h
  exact ⟨a', b', hraw, ⟨column, hfront⟩, hback⟩

theorem Widens.eq_nil (h : Widens raw []) : raw = [] := by
  obtain ⟨column, h⟩ := h
  by_contra hne
  exact expandTabsFrom_ne_nil hne column h

/-- A word stays, between what the texts around it were. -/
theorem Widens.around {a b word : List Char} (h : Widens raw (a ++ (word ++ b))) (hne : word ≠ [])
    (hword : ' ' ∉ word) :
    ∃ a' b', raw = a' ++ (word ++ b') ∧ Widens a' a ∧ Widens b' b := by
  obtain ⟨c, word, rfl⟩ := List.exists_cons_of_ne_nil hne
  rw [List.mem_cons, not_or] at hword
  obtain ⟨a', more, rfl, hfront, hback⟩ := h.cut (Ne.symm hword.1)
  suffices hrest : ∃ b', more = word ++ b' ∧ Widens b' b by
    obtain ⟨b', rfl, hb⟩ := hrest
    exact ⟨a', b', rfl, hfront, hb⟩
  have hspace := hword.2
  clear h hword hfront hne
  induction word generalizing more with
  | nil => exact ⟨more, rfl, hback⟩
  | cons d word ih =>
    rw [List.mem_cons, not_or] at hspace
    obtain ⟨none', rest, rfl, hnone, hrest⟩ := Widens.cut (a := []) hback (Ne.symm hspace.1)
    obtain ⟨b', rfl, hb⟩ := ih rest hrest hspace.2
    exact ⟨b', by rw [hnone.eq_nil]; rfl, hb⟩

theorem Widens.ne_nil (h : Widens raw wide) (hne : wide ≠ []) : raw ≠ [] := by
  rintro rfl
  obtain ⟨column, rfl⟩ := h
  exact hne rfl

theorem Widens.blank (h : Widens raw wide) (hblank : ∀ c ∈ wide, isBlank c = true) :
    ∀ c ∈ raw, isBlank c = true := by
  obtain ⟨column, rfl⟩ := h
  intro c hc
  by_cases htab : c = '\t'
  · rw [htab]
    rfl
  · exact hblank c (mem_expandTabsFrom_of_mem column hc htab)

theorem Widens.getLast_blank (h : Widens raw wide) (hlast : wide.getLast?.any isBlank = true) :
    ∃ front c, raw = front ++ [c] ∧ isBlank c = true := by
  obtain ⟨column, rfl⟩ := h
  cases hraw : raw.getLast? with
  | none =>
    rw [List.getLast?_eq_none_iff] at hraw
    rw [hraw] at hlast
    cases hlast
  | some c =>
    obtain ⟨front, hfront⟩ := List.getLast?_eq_some_iff.1 hraw
    refine ⟨front, c, hfront, ?_⟩
    by_cases htab : c = '\t'
    · rw [htab]
      rfl
    · rw [getLast?_expandTabsFrom hraw htab column] at hlast
      exact hlast

end Widens

/-- What opens a physical line follows blanks on it. -/
theorem widens_opening {raw piece : List Char} (h : piece <+: opening raw) :
    ∃ lead tail, (∀ c ∈ lead, isBlank c = true) ∧ Widens raw (lead ++ (piece ++ tail)) := by
  obtain ⟨tail, htail⟩ := h.trans (isPrefix_withoutSlash _)
  obtain ⟨blanks, -, hblanks⟩ := exists_trimEnd (trimStart (expandTabs 4 raw))
  refine ⟨(expandTabs 4 raw).takeWhile isBlank, tail ++ blanks,
    fun c hc => List.mem_takeWhile_imp hc, 0, ?_⟩
  rw [← List.append_assoc piece, htail]
  change expandTabs 4 raw = _ ++ (trim (expandTabs 4 raw) ++ blanks)
  rw [trim, ← hblanks]
  exact List.takeWhile_append_dropWhile.symm

end SnippetGrader.Layout

namespace SnippetGrader.Grading

open Text Source Statement Layout

/-! ## The three patterns -/

section Patterns

variable {source : List Char} {l : Line}

theorem occurs_namingLine {gap : List Char} {c : Char} (hgap : gap ≠ [])
    (hblank : ∀ b ∈ gap, isBlank b = true) (hc : isNameStart c = true)
    (h : "global".toList ++ (gap ++ [c]) <+: opening (physicalLine source l)) :
    (namingLine "global").occurs Pattern.atLineStart source = true := by
  obtain ⟨lead, tail, hlead, hwide⟩ := widens_opening h
  rw [List.append_assoc, List.append_assoc] at hwide
  obtain ⟨lead', r₁, hraw, hlead', hwide⟩ := hwide.around (by decide) (by decide)
  have hspace : ' ' ∉ [c] := by
    rw [List.mem_singleton]
    rintro rfl
    exact absurd hc (by decide)
  obtain ⟨gap', r₂, rfl, hgap', -⟩ := hwide.around (List.cons_ne_nil c []) hspace
  have hfits : (namingLine "global").Fits [lead', "global".toList, gap', [c]].flatten := by
    refine Pattern.fits_all (.cons ?_ (.cons ?_ (.cons ?_ (.cons ?_ .nil))))
    · exact Pattern.fits_many (hlead'.blank hlead)
    · exact Pattern.fits_word _
    · exact Pattern.fits_some (hgap'.ne_nil hgap) (hgap'.blank hblank)
    · exact Pattern.fits_one hc
  refine occurs_of_physicalLine hfits r₂ (hraw.trans ?_)
  simp only [List.flatten_cons, List.flatten_nil, List.append_nil, List.append_assoc]

theorem occurs_endlessLoop {gap gap' word : List Char}
    (hword : word = "True".toList ∨ word = "1".toList) (hgap : gap ≠ [])
    (hblank : ∀ b ∈ gap, isBlank b = true) (hblank' : ∀ b ∈ gap', isBlank b = true)
    (h : "while".toList ++ (gap ++ (word ++ (gap' ++ [':']))) <+: opening (physicalLine source l)) :
    endlessLoop.occurs Pattern.atLineStart source = true := by
  obtain ⟨lead, tail, hlead, hwide⟩ := widens_opening h
  simp only [List.append_assoc] at hwide
  have hletters : word ≠ [] ∧ ' ' ∉ word := by
    obtain rfl | rfl := hword
    · decide
    · decide
  obtain ⟨lead', r₁, hraw, hlead', hwide⟩ := hwide.around (by decide) (by decide)
  obtain ⟨g, r₂, rfl, hg, hwide⟩ := hwide.around hletters.1 hletters.2
  obtain ⟨g', r₃, rfl, hg', -⟩ := hwide.around (by decide) (by decide)
  have hfits : endlessLoop.Fits [lead', "while".toList, g, word, g', [':']].flatten := by
    refine Pattern.fits_all
      (.cons ?_ (.cons ?_ (.cons ?_ (.cons ?_ (.cons ?_ (.cons ?_ .nil))))))
    · exact Pattern.fits_many (hlead'.blank hlead)
    · exact Pattern.fits_word _
    · exact Pattern.fits_some (hg.ne_nil hgap) (hg.blank hblank)
    · obtain rfl | rfl := hword
      · exact (Pattern.fits_word _).left
      · exact (Pattern.fits_word _).right
    · exact Pattern.fits_many (hg'.blank hblank')
    · exact Pattern.fits_word ":"
  refine occurs_of_physicalLine hfits r₃ (hraw.trans ?_)
  simp only [List.flatten_cons, List.flatten_nil, List.append_nil, List.append_assoc]

/-- The target and the items start with characters `t` and `e` that are not blank. -/
theorem occurs_forHead {gap target gap' items : List Char} {t e : Char} (hgap : gap ≠ [])
    (hblank : ∀ b ∈ gap, isBlank b = true) (ht : isBlank t = false)
    (htarget : target.getLast?.any isBlank = true) (hgap' : gap' ≠ [])
    (hblank' : ∀ b ∈ gap', isBlank b = true) (he : isBlank e = false)
    (h : "for".toList ++ (gap ++ ([t] ++ (target ++ ("in".toList ++ (gap' ++ ([e] ++
      (items ++ [':']))))))) <+: opening (physicalLine source l)) :
    forHead.occurs Pattern.atLineStart source = true := by
  have hspace {c : Char} (hc : isBlank c = false) : ' ' ∉ [c] := by
    rw [List.mem_singleton]
    rintro rfl
    exact absurd hc (by decide)
  obtain ⟨lead, tail, hlead, hwide⟩ := widens_opening h
  simp only [List.append_assoc] at hwide
  obtain ⟨lead', r₁, hraw, hlead', hwide⟩ := hwide.around (by decide) (by decide)
  obtain ⟨g, r₂, rfl, hg, hwide⟩ := hwide.around (List.cons_ne_nil t []) (hspace ht)
  obtain ⟨w, r₃, rfl, hw, hwide⟩ := hwide.around (by decide) (by decide)
  obtain ⟨g', r₄, rfl, hg', hwide⟩ := hwide.around (List.cons_ne_nil e []) (hspace he)
  obtain ⟨m, r₅, rfl, -, -⟩ := hwide.around (by decide) (by decide)
  obtain ⟨front, b, rfl, hb⟩ := hw.getLast_blank htarget
  -- no line end is on the line
  have hline : ∀ c ∈ physicalLine source l, inLine c = true := by
    intro c hc
    obtain ⟨-, -, -, -, hnewline⟩ := exists_of_physicalLine source l
    exact bne_iff_ne.2 fun heq => hnewline (heq ▸ hc)
  have hfits : forHead.Fits
      [lead', "for".toList, g, t :: front, [b], "in".toList, g', e :: m, [':']].flatten := by
    refine Pattern.fits_all (.cons ?_ (.cons ?_ (.cons ?_ (.cons ?_ (.cons ?_ (.cons ?_ (.cons ?_
      (.cons ?_ (.cons ?_ .nil)))))))))
    · exact Pattern.fits_many (hlead'.blank hlead)
    · exact Pattern.fits_word _
    · exact Pattern.fits_some (hg.ne_nil hgap) (hg.blank hblank)
    · refine Pattern.fits_some (List.cons_ne_nil t front) fun c hc => hline c ?_
      rw [hraw]
      simp only [List.mem_append, List.mem_cons] at hc ⊢
      grind
    · exact Pattern.fits_some (List.cons_ne_nil b []) (List.forall_mem_singleton.2 hb)
    · exact Pattern.fits_word _
    · exact Pattern.fits_some (hg'.ne_nil hgap') (hg'.blank hblank')
    · refine Pattern.fits_some (List.cons_ne_nil e m) fun c hc => hline c ?_
      rw [hraw]
      simp only [List.mem_append, List.mem_cons] at hc ⊢
      grind
    · exact Pattern.fits_word ":"
  refine occurs_of_physicalLine hfits r₅ (hraw.trans ?_)
  simp only [List.flatten_cons, List.flatten_nil, List.append_nil, List.append_assoc,
    List.cons_append, List.nil_append]

end Patterns

/-! ## Headers and names -/

theorem firstName_of_classify {text : List Char} {kind : StatementKind} (h : classify text = kind)
    (hkind : kind = .forLoop ∨ kind = .whileLoop) : firstName text = kind.name := by
  have hkeyword {word : String} (hword : StatementKind.ofKeyword? word = some kind) : False := by
    unfold StatementKind.ofKeyword? at hword
    obtain rfl | rfl := hkind
    · split at hword <;> cases hword
    · split at hword <;> cases hword
  have hcompound {word : String} (hword : StatementKind.ofCompound? word = some kind) :
      word = kind.name := by
    unfold StatementKind.ofCompound? at hword
    obtain rfl | rfl := hkind
    · split at hword <;> first | rfl | cases hword
    · split at hword <;> first | rfl | cases hword
  unfold classify at h
  dsimp only at h
  split at h
  · next other hother => exact (hkeyword (h ▸ hother)).elim
  · split at h
    · next other hother => exact hcompound (h ▸ hother)
    · obtain rfl | rfl := hkind
      · split at h
        · cases h
        · split at h <;> cases h
      · split at h
        · cases h
        · split at h <;> cases h

/-- A text that starts with a name goes on with something else than a word. -/
theorem exists_of_firstName {text : List Char} {word : String} (h : firstName text = word)
    (hword : word ≠ "") :
    ∃ rest, text = word.toList ++ rest ∧ rest.head?.any isWord = false := by
  rw [firstName_eq] at h
  split at h
  · refine ⟨text.dropWhile isWord, ?_, ?_⟩
    · rw [← h, String.toList_ofList, List.takeWhile_append_dropWhile]
    · have hhead := List.head?_dropWhile_not isWord text
      cases hrest : (text.dropWhile isWord).head? with
      | none => rfl
      | some c =>
        rw [hrest] at hhead
        exact hhead
  · exact absurd h.symm hword

section Header

variable {keyword : String} {l : Line} {h : Header}

/-- The text of a line up to its header colon: the keyword, blanks, what stands between, blanks and
the colon. -/
theorem header_text (hname : firstName l.text = keyword) (hkeyword : keyword ≠ "")
    (hheader : header keyword l = .ok h) (hhead : h.head ≠ []) :
    ∃ k gap gap' rest, headerColon? l.text = some k ∧ (∀ b ∈ gap, isBlank b = true) ∧
      (∀ b ∈ gap', isBlank b = true) ∧
      l.text.take (k + 1) = keyword.toList ++ (gap ++ (h.head ++ (gap' ++ [':']))) ∧
      l.text = keyword.toList ++ (gap ++ (h.head ++ rest)) ∧
      (gap ++ (h.head ++ rest)).head?.any isWord = false := by
  obtain ⟨more, htext, hmore⟩ := exists_of_firstName hname hkeyword
  unfold header at hheader
  split at hheader
  · cases hheader
  · next k hk =>
    cases hheader
    obtain ⟨b, hsplit⟩ := headerColon?_split hk
    have hlength : keyword.toList.length = keyword.length := String.length_toList
    -- the colon stands behind the keyword, since something stands between them
    have hlt : keyword.length < k := by
      by_contra hle
      apply hhead
      dsimp only
      rw [List.drop_eq_nil_of_le (by rw [List.length_take]; omega)]
      rfl
    have htake : l.text.take k = keyword.toList ++ (l.text.take k).drop keyword.length := by
      have hfront : (l.text.take k).take keyword.length = keyword.toList := by
        rw [List.take_take, Nat.min_eq_left (Nat.le_of_lt hlt), htext, ← hlength, List.take_left]
      rw [← hfront]
      exact (List.take_append_drop keyword.length (l.text.take k)).symm
    obtain ⟨gap, gap', hgap, hgap', hbetween⟩ := exists_trim ((l.text.take k).drop keyword.length)
    have hfront (y : List Char) : l.text.take k ++ y = keyword.toList ++
        (gap ++ (trim ((l.text.take k).drop keyword.length) ++ (gap' ++ y))) := by
      have happend := congrArg (· ++ y) (htake.trans (congrArg (keyword.toList ++ ·) hbetween))
      simpa only [List.append_assoc] using happend
    have hcolon : l.text.take (k + 1) = l.text.take k ++ [':'] := by
      have hle : (l.text.take k).length = k :=
        List.length_take_of_le (Nat.le_of_lt (headerColon?_lt hk))
      conv_lhs => rw [hsplit, List.take_append, hle, Nat.add_sub_cancel_left,
        List.take_of_length_le (by omega)]
      rfl
    have hall := hsplit.trans (hfront (':' :: b))
    refine ⟨k, gap, gap', gap' ++ ':' :: b, hk, hgap, hgap', hcolon.trans (hfront [':']), hall, ?_⟩
    rwa [← List.append_cancel_left (htext.symm.trans hall)]

theorem trim_header (hheader : header keyword l = .ok h) : trim h.head = h.head := by
  unfold header at hheader
  split at hheader
  · cases hheader
  · cases hheader
    exact trim_trim _

end Header

/-- What is trimmed and starts with a blank goes on after its blanks. -/
theorem exists_after_blanks {text : List Char} (hlast : ∀ c ∈ text.getLast?, isBlank c = false)
    (h : text.head?.any isBlank = true) :
    ∃ gap e rest, text = gap ++ ([e] ++ rest) ∧ gap ≠ [] ∧ (∀ b ∈ gap, isBlank b = true) ∧
      isBlank e = false := by
  cases hrest : text.dropWhile isBlank with
  | nil =>
    have hall : ∀ c ∈ text, isBlank c = true := List.dropWhile_eq_nil_iff.1 hrest
    cases hend : text.getLast? with
    | none =>
      rw [List.getLast?_eq_none_iff] at hend
      rw [hend] at h
      cases h
    | some c =>
      have hblank := hall c (List.mem_of_getLast? hend)
      rw [hlast c hend] at hblank
      cases hblank
  | cons e rest =>
    have he := List.head?_dropWhile_not isBlank text
    rw [hrest] at he
    refine ⟨text.takeWhile isBlank, e, rest, ?_, fun hnil => ?_,
      fun c hc => List.mem_takeWhile_imp hc, he⟩
    · rw [List.singleton_append, ← hrest, List.takeWhile_append_dropWhile]
    · rw [← List.takeWhile_append_dropWhile (p := isBlank) (l := text), hnil, hrest] at h
      exact absurd (h.symm.trans he) (by decide)

/-! ## Statements and checks -/

/-- The header colon of a logical line stands on the physical line on which it starts. -/
def HeaderOnLine (source : List Char) (l : Line) : Prop :=
  ∃ k, headerColon? l.text = some k ∧ k < (opening (physicalLine source l)).length

/-- The words of the header of a counting loop have blanks around them. -/
def IsSpaced (l : Line) (h : Header) : Prop :=
  (l.text.drop 3).head?.any isBlank = true ∧
    ∃ s, (findKeyword ["in"] h.head).head? = some s ∧
      (h.head.take s.start).getLast?.any isBlank = true ∧
      (h.head.drop s.stop).head?.any isBlank = true

section Statements

variable {source : List Char} {l : Line} {h : Header}

theorem prefix_of_headerOnLine (hl : l ∈ splitLines source) (hline : HeaderOnLine source l) {k : Nat}
    (hk : headerColon? l.text = some k) :
    l.text.take (k + 1) <+: opening (physicalLine source l) := by
  obtain ⟨k', hk', hlt⟩ := hline
  obtain rfl : k = k' := Option.some.inj (hk.symm.trans hk')
  rw [take_opening hl hk hlt]
  exact List.take_prefix (k + 1) _

theorem endless_seen (hl : l ∈ splitLines source) (hkind : classify l.text = .whileLoop)
    (hheader : header "while" l = .ok h) (hhead : h.head = "True".toList ∨ h.head = "1".toList)
    (hline : HeaderOnLine source l) : endlessLoop.occurs Pattern.atLineStart source = true := by
  have hne : h.head ≠ [] := by
    obtain hhead | hhead := hhead
    · rw [hhead]
      decide
    · rw [hhead]
      decide
  have hname : firstName l.text = "while" := firstName_of_classify hkind (.inr rfl)
  obtain ⟨k, gap, gap', rest, hk, hgap, hgap', htake, -, hword⟩ :=
    header_text hname (by decide) hheader hne
  have hopens := prefix_of_headerOnLine hl hline hk
  rw [htake] at hopens
  refine occurs_endlessLoop hhead ?_ hgap hgap' hopens
  rintro rfl
  obtain hhead | hhead := hhead
  · rw [hhead] at hword
    cases hword
  · rw [hhead] at hword
    cases hword

theorem loop_seen (hl : l ∈ splitLines source) (hkind : classify l.text = .forLoop)
    (hheader : header "for" l = .ok h) (hline : HeaderOnLine source l) (hspaced : IsSpaced l h) :
    forHead.occurs Pattern.atLineStart source = true := by
  obtain ⟨hafter, s, hs, htarget, hitems⟩ := hspaced
  have hsplit := findKeyword_split (List.mem_of_head? hs)
  obtain ⟨htrimHead, htrimLast⟩ := trim_eq_self_iff.1 (trim_header hheader)
  generalize h.head.take s.start = target at htarget hsplit
  generalize h.head.drop s.stop = items at hitems hsplit
  -- the target starts with a character that is not blank, and the items hold one
  obtain ⟨t, target, rfl⟩ : ∃ t more, target = t :: more := by
    cases target with
    | nil => cases htarget
    | cons t more => exact ⟨t, more, rfl⟩
  have ht : isBlank t = false := htrimHead t (by rw [hsplit]; rfl)
  have hend : target.getLast?.any isBlank = true := by
    cases target with
    | nil =>
      rw [List.getLast?_singleton, Option.any_some, ht] at htarget
      cases htarget
    | cons d more => exact htarget
  have hlast : ∀ c ∈ items.getLast?, isBlank c = false := by
    intro c hc
    refine htrimLast c ?_
    rw [hsplit, ← List.append_assoc, List.getLast?_append, Option.mem_def.1 hc]
    rfl
  obtain ⟨blanks, e, more, rfl, hblanks, hblank, he⟩ := exists_after_blanks hlast hitems
  have hne : h.head ≠ [] := by
    rw [hsplit]
    exact List.cons_ne_nil t _
  have hname : firstName l.text = "for" := firstName_of_classify hkind (.inl rfl)
  obtain ⟨k, gap, gap', rest, hk, hgap, hgap', htake, htext, -⟩ :=
    header_text hname (by decide) hheader hne
  have hopens := prefix_of_headerOnLine hl hline hk
  have hstart : gap ≠ [] := by
    rintro rfl
    have hdrop : l.text.drop 3 = h.head ++ rest := by
      rw [htext]
      rfl
    rw [hdrop, hsplit] at hafter
    exact absurd (hafter.symm.trans ht) (by decide)
  rw [htake, hsplit] at hopens
  have hpiece : "for".toList ++ (gap ++ ([t] ++ (target ++ ("in".toList ++ (blanks ++ ([e] ++
      ((more ++ gap') ++ [':']))))))) <+: opening (physicalLine source l) := by
    simpa only [List.append_assoc, List.cons_append, List.nil_append] using hopens
  exact occurs_forHead hstart hgap ht hend hblanks hblank he hpiece

theorem global_seen {n : Nat} (hname : firstName l.text = "global")
    (hafter : firstName (trim ((l.text.take n).drop 6)) ≠ "")
    (hopens : l.text.take n <+: opening (physicalLine source l)) :
    (namingLine "global").occurs Pattern.atLineStart source = true := by
  obtain ⟨rest, htext, hrest⟩ := exists_of_firstName hname (by decide)
  obtain ⟨gap, back, hgap, -, hbetween⟩ := exists_trim ((l.text.take n).drop 6)
  obtain ⟨c, more, hmore, hc⟩ : ∃ c more, trim ((l.text.take n).drop 6) = c :: more ∧
      isNameStart c = true := by
    cases htrim : trim ((l.text.take n).drop 6) with
    | nil =>
      rw [htrim] at hafter
      exact absurd rfl hafter
    | cons c more =>
      refine ⟨c, more, rfl, ?_⟩
      by_contra hnot
      rw [htrim, firstName, Rendering.splitName_other (Bool.eq_false_iff.2 hnot)] at hafter
      exact hafter rfl
  rw [hmore] at hbetween
  have hn : 6 ≤ n := by
    by_contra hlt
    rw [List.drop_eq_nil_of_le (by rw [List.length_take]; omega)] at hbetween
    simp at hbetween
  have htake : l.text.take n = "global".toList ++ rest.take (n - 6) := by
    rw [htext, List.take_append, List.take_of_length_le hn]
    rfl
  have hrestTake : rest.take (n - 6) = gap ++ (c :: more ++ back) := by
    rw [← hbetween, htake]
    rfl
  refine occurs_namingLine ?_ hgap hc (List.IsPrefix.trans ?_ hopens)
  · -- without a blank the first word would go on
    rintro rfl
    cases rest with
    | nil => simp at hrestTake
    | cons d rest =>
      have hd : d = c := by
        have hhead := congrArg List.head? hrestTake
        cases hsix : n - 6 with
        | zero => simp [hsix] at hrestTake
        | succ m => simpa [hsix] using hhead
      rw [List.head?_cons, Option.any_some, hd, Rendering.isWord_of_isNameStart hc] at hrest
      cases hrest
  · rw [htake, hrestTake]
    exact ⟨more ++ back, by simp only [List.append_assoc, List.cons_append, List.nil_append]⟩

theorem catalogue_looks (source : List Char) :
    ∀ check ∈ catalogue,
      (check.name = "functional" → check.brokenBy source = forHead.occurs Pattern.atLineStart source) ∧
      (check.name = "terminate" →
        check.brokenBy source = endlessLoop.occurs Pattern.atLineStart source) ∧
      (check.name = "global" →
        check.brokenBy source = (namingLine "global").occurs Pattern.atLineStart source) := by
  simp [catalogue]

end Statements

/-- **Loops and `global` statements that the checks see.** A counting loop whose words have blanks
around them, a loop whose condition is `True` or `1`, and a `global` statement are seen in the text
of the program if the header, or the statement as far as its first name goes, is on one physical
line and starts it. For a header the latter need not be asked: it always does. -/
theorem statements_seen (source : List Char) {l : Line} (hl : l ∈ splitLines source) :
    (∀ h, classify l.text = .forLoop → header "for" l = .ok h → HeaderOnLine source l →
      IsSpaced l h → ∀ check ∈ catalogue, check.name = "functional" →
        check.brokenBy source = true) ∧
    (∀ h, classify l.text = .whileLoop → header "while" l = .ok h →
      (h.head = "True".toList ∨ h.head = "1".toList) → HeaderOnLine source l →
        ∀ check ∈ catalogue, check.name = "terminate" → check.brokenBy source = true) ∧
    (∀ n, firstName l.text = "global" → firstName (trim ((l.text.take n).drop 6)) ≠ "" →
      l.text.take n <+: opening (physicalLine source l) →
        ∀ check ∈ catalogue, check.name = "global" → check.brokenBy source = true) := by
  refine ⟨fun h hkind hheader hline hspaced check hcheck hname => ?_,
    fun h hkind hheader hhead hline check hcheck hname => ?_,
    fun n hname hafter hopens check hcheck hcheckName => ?_⟩
  · rw [(catalogue_looks source check hcheck).1 hname]
    exact loop_seen hl hkind hheader hline hspaced
  · rw [(catalogue_looks source check hcheck).2.1 hname]
    exact endless_seen hl hkind hheader hhead hline
  · rw [(catalogue_looks source check hcheck).2.2 hcheckName]
    exact global_seen hname hafter hopens

/-- A program of three such statements, with tabs in it. -/
theorem statements_seen_nested :
    splitLines "for\tx in xs:\n\twhile 1 :\n\t\tglobal y; pass".toList =
        [⟨"for x in xs:".toList, 0, 1⟩, ⟨"while 1 :".toList, 4, 2⟩, ⟨"global y".toList, 8, 3⟩,
          ⟨"pass".toList, 8, 3⟩] ∧
      ∀ check ∈ catalogue, check.name ∈ ["functional", "terminate", "global"] →
        check.brokenBy "for\tx in xs:\n\twhile 1 :\n\t\tglobal y; pass".toList = true := by
  have hlines : splitLines "for\tx in xs:\n\twhile 1 :\n\t\tglobal y; pass".toList =
      [⟨"for x in xs:".toList, 0, 1⟩, ⟨"while 1 :".toList, 4, 2⟩, ⟨"global y".toList, 8, 3⟩,
        ⟨"pass".toList, 8, 3⟩] := by decide +kernel
  have hloop := statements_seen "for\tx in xs:\n\twhile 1 :\n\t\tglobal y; pass".toList
    (l := ⟨"for x in xs:".toList, 0, 1⟩) (by rw [hlines]; decide)
  have hendless := statements_seen "for\tx in xs:\n\twhile 1 :\n\t\tglobal y; pass".toList
    (l := ⟨"while 1 :".toList, 4, 2⟩) (by rw [hlines]; decide)
  have hglobal := statements_seen "for\tx in xs:\n\twhile 1 :\n\t\tglobal y; pass".toList
    (l := ⟨"global y".toList, 8, 3⟩) (by rw [hlines]; decide)
  have hspaced : IsSpaced ⟨"for x in xs:".toList, 0, 1⟩ ⟨"x in xs".toList, []⟩ :=
    ⟨by decide, ⟨2, 4⟩, by decide +kernel, by decide, by decide⟩
  refine ⟨hlines, fun check hcheck hname => ?_⟩
  simp only [List.mem_cons, List.not_mem_nil, or_false] at hname
  obtain hname | hname | hname := hname
  · exact hloop.1 ⟨"x in xs".toList, []⟩ (by decide +kernel) (by rfl)
      ⟨11, by decide +kernel, by decide +kernel⟩ hspaced check hcheck hname
  · exact hendless.2.1 ⟨"1".toList, []⟩ (by decide +kernel) (by rfl) (.inr rfl)
      ⟨8, by decide +kernel, by decide +kernel⟩ check hcheck hname
  · exact hglobal.2.2 8 (by decide) (by decide) (by decide +kernel) check hcheck hname

/-- Statements that no check sees: one that shares its line, a header that goes over two lines, and
words without blanks between them. -/
theorem statements_unseen :
    (⟨"global y".toList, 0, 1⟩ ∈ splitLines "x = 1; global y".toList ∧
      classify "global y".toList = .scoping ∧
      ∀ check ∈ catalogue, check.name = "global" →
        check.brokenBy "x = 1; global y".toList = false) ∧
    (⟨"while True: pass".toList, 0, 1⟩ ∈ splitLines "while \\\nTrue: pass".toList ∧
      classify "while True: pass".toList = .whileLoop ∧
      header "while" ⟨"while True: pass".toList, 0, 1⟩ = .ok ⟨"True".toList, "pass".toList⟩ ∧
      ∀ check ∈ catalogue, check.name = "terminate" →
        check.brokenBy "while \\\nTrue: pass".toList = false) ∧
    ∀ source ∈ ["for x in [1,\n2]: pass", "for x in[1]: pass", "for [x]in y: pass",
        "for[x] in y: pass"],
      ∃ l ∈ splitLines source.toList, classify l.text = .forLoop ∧
        (∃ h, header "for" l = .ok h ∧ findKeyword ["in"] h.head ≠ []) ∧
        ∀ check ∈ catalogue, check.name = "functional" → check.brokenBy source.toList = false := by
  refine ⟨⟨by decide +kernel, by decide +kernel, fun check hcheck hname => ?_⟩,
    ⟨by decide +kernel, by decide +kernel, rfl, fun check hcheck hname => ?_⟩,
    fun source hsource => ?_⟩
  · rw [(catalogue_looks _ check hcheck).2.2 hname]
    decide +kernel
  · rw [(catalogue_looks _ check hcheck).2.1 hname]
    decide +kernel
  · suffices hunseen : forHead.occurs Pattern.atLineStart source.toList = false ∧
        ∃ l ∈ splitLines source.toList, classify l.text = .forLoop ∧
          ∃ h, header "for" l = .ok h ∧ findKeyword ["in"] h.head ≠ [] by
      obtain ⟨hunseen, l, hl, hkind, hheader⟩ := hunseen
      exact ⟨l, hl, hkind, hheader, fun check hcheck hname =>
        ((catalogue_looks _ check hcheck).1 hname).trans hunseen⟩
    simp only [List.mem_cons, List.not_mem_nil, or_false] at hsource
    obtain rfl | rfl | rfl | rfl := hsource
    · exact ⟨by decide +kernel, ⟨"for x in [1, 2]: pass".toList, 0, 1⟩, by decide +kernel,
        by decide +kernel, _, rfl, by decide +kernel⟩
    · exact ⟨by decide +kernel, ⟨"for x in[1]: pass".toList, 0, 1⟩, by decide +kernel,
        by decide +kernel, _, rfl, by decide +kernel⟩
    · exact ⟨by decide +kernel, ⟨"for [x]in y: pass".toList, 0, 1⟩, by decide +kernel,
        by decide +kernel, _, rfl, by decide +kernel⟩
    · exact ⟨by decide +kernel, ⟨"for[x] in y: pass".toList, 0, 1⟩, by decide +kernel,
        by decide +kernel, _, rfl, by decide +kernel⟩

end SnippetGrader.Grading
