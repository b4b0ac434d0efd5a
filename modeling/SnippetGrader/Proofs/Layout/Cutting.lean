import SnippetGrader.Proofs.Layout.Reading

/-!
# Cutting at top level

A text is cut where the reader meets the separator in code with no bracket open. There it is in the
state in which it starts, so the rest of the text is cut as a text of its own, and every piece but
the last leaves the reader in that state. This holds of every text, whatever it leaves open.
-/

namespace SnippetGrader.Source

open Text Layout

/-! ## States -/

/-- A reader that has read a whole text expects no mark. -/
theorem Reader.Fits.after {r : Reader} {text : List Char} (h : r.Fits text) :
    (r.after text).Fits [] := by
  induction text generalizing r with
  | nil => exact h
  | cons c rest ih => exact ih h.step

theorem Reader.Fits.of_nil {r : Reader} (h : r.Fits []) (text : List Char) : r.Fits text := by
  obtain ⟨mode, depth⟩ := r
  cases mode with
  | code => exact trivial
  | single q | escaped q | triple q => exact h
  | opening q left =>
    obtain ⟨-, hleft, hmarks⟩ := h
    rw [List.prefix_nil, List.replicate_eq_nil_iff] at hmarks
    omega
  | closing left =>
    obtain ⟨q, -, hleft, hmarks⟩ := h
    rw [List.prefix_nil, List.replicate_eq_nil_iff] at hmarks
    omega

/-- How the reader leaves a text. -/
def Reader.balance (r : Reader) : Balance :=
  ⟨r.depth, match r.mode with | .triple _ => true | _ => false⟩

theorem Reader.balance_settled (r : Reader) : r.settled.balance = r.balance := by
  obtain ⟨mode, depth⟩ := r
  cases mode <;> rfl

/-! ## Blanks at the ends -/

/-- Blanks leave as much open as there was. -/
theorem Reader.Fits.balance_blanks {r : Reader} (h : r.Fits []) {blanks : List Char}
    (hblanks : ∀ c ∈ blanks, isBlank c = true) : (r.after blanks).balance = r.balance := by
  induction blanks generalizing r with
  | nil => rfl
  | cons c rest ih =>
    rw [List.forall_mem_cons] at hblanks
    have hfits := h.of_nil (c :: rest)
    have hquote := Rendering.isQuote_of_isPlain (Rendering.isPlain_of_isBlank hblanks.1)
    rw [Reader.after, hfits.step_blank hblanks.1, ih (hfits.of_unquoted hquote []).2 hblanks.2,
      r.balance_settled]

/-- Blanks at the end of a text leave as much open as there was. -/
theorem Reader.balance_after_trimEnd (text : List Char) :
    (Reader.after {} (trimEnd text)).balance = (Reader.after {} text).balance := by
  obtain ⟨blanks, hblanks, htext⟩ := exists_trimEnd text
  have hstart := Reader.fits_code 0 (trimEnd text)
  conv_rhs => rw [htext, Reader.after_append (isQuote_head?_blanks hblanks) hstart,
    hstart.after.balance_blanks hblanks]

section Balance

variable {text : List Char} (hcomment : '#' ∉ text)
include hcomment

theorem balance_eq : Source.balance text = (Reader.after {} text).balance :=
  balanceFrom_eq (Reader.admits_of_forall fun c hc _ => by
    have hne : c ≠ '#' := fun heq => hcomment (heq ▸ hc)
    simp [noComment, hne])

theorem balance_trim : Source.balance (trim text) = Source.balance text := by
  have hfront : ∀ c ∈ text.takeWhile isBlank, Rendering.isPlain c = true :=
    fun c hc => Rendering.isPlain_of_isBlank (List.mem_takeWhile_imp hc)
  have hafter : Reader.after {} text = Reader.after {} (trimStart text) := by
    conv_lhs => rw [← List.takeWhile_append_dropWhile (p := isBlank) (l := text),
      Reader.after_plain hfront]
    rfl
  rw [balance_eq hcomment, balance_eq fun h => hcomment (mem_of_mem_trim h), hafter, trim,
    Reader.balance_after_trimEnd]

end Balance

/-! ## The first character that is not admitted -/

/-- A text is admitted, or it has a first character that is not. The reader looks ahead at quotation
marks only, so it makes no difference to the text in front that it ends there. -/
theorem Reader.admits_or_first {p : Char → Place → Bool}
    (hp : ∀ c place, p c place = false → isQuote c = false) {r : Reader} {text : List Char}
    (h : r.Fits text) :
    r.admits p text = true ∨
      ∃ a c b, text = a ++ c :: b ∧ r.admits p a = true ∧
        p c ((r.after a).step c b).2 = false := by
  induction text generalizing r with
  | nil => exact .inl rfl
  | cons c rest ih =>
    by_cases hhere : p c (r.step c rest).2 = true
    · obtain hadmits | ⟨a, d, b, rfl, hadmits, hplace⟩ := ih h.step
      · exact .inl (by rw [Reader.admits, hhere, hadmits]; rfl)
      · have hhead : ∀ e ∈ (d :: b).head?, isQuote e = false := by
          rintro e ⟨⟩
          exact hp _ _ hplace
        have hstep : r.step c a = r.step c (a ++ d :: b) :=
          h.step_congr fun hc => (tripled_append hhead hc a).symm
        refine .inr ⟨c :: a, d, b, rfl, ?_, ?_⟩
        · rw [Reader.admits, hstep, hhere, hadmits]
          rfl
        · rw [Reader.after, hstep, hplace]
    · exact .inr ⟨[], c, rest, rfl, rfl, Bool.eq_false_iff.2 hhere⟩

/-! ## The first cut -/

section Cut

variable {sep : Char} (hsep : Rendering.isPlain sep = true)
include hsep

/-- A reader that meets a separator at top level is as it is at a start. -/
theorem Reader.eq_start_of_step {r : Reader} {rest : List Char}
    (h : (r.step sep rest).2 = .code 0) : r = {} ∧ (r.step sep rest).1 = {} := by
  obtain ⟨mode, depth⟩ := r
  cases mode with
  | code =>
    rw [Rendering.step_plain hsep] at h ⊢
    cases h
    exact ⟨rfl, rfl⟩
  | _ => cases h

omit hsep in
theorem mem_of_mem_cutTopLevelFrom {r : Reader} {piece text p : List Char} {c : Char}
    (hp : p ∈ cutTopLevelFrom sep r piece text) (hc : c ∈ p) : c ∈ piece ∨ c ∈ text := by
  induction text generalizing r piece with
  | nil =>
    rw [cutTopLevelFrom, List.mem_singleton] at hp
    rw [hp, List.mem_reverse] at hc
    exact .inl hc
  | cons d rest ih =>
    simp only [cutTopLevelFrom] at hp
    split at hp
    · obtain rfl | hp := List.mem_cons.1 hp
      · exact .inl (List.mem_reverse.1 hc)
      · obtain hc | hc := ih hp
        · cases hc
        · exact .inr (List.mem_cons_of_mem d hc)
    · obtain hc | hc := ih hp
      · exact (List.mem_cons.1 hc).elim (fun heq => .inr (heq ▸ List.mem_cons_self)) .inl
      · exact .inr (List.mem_cons_of_mem d hc)

theorem isQuote_head?_sep (rest : List Char) : ∀ c ∈ (sep :: rest).head?, isQuote c = false := by
  rintro c ⟨⟩
  exact Rendering.isQuote_of_isPlain hsep

/-- A text has no separator at top level, or it is cut at the first one and then as a new text. -/
theorem cutTopLevelFrom_first (text piece : List Char) :
    (Reader.admits (lacks sep) {} text = true ∧
        cutTopLevelFrom sep {} piece text = [piece.reverse ++ text]) ∨
      ∃ a b, text = a ++ sep :: b ∧ Reader.admits (lacks sep) {} a = true ∧
        Reader.after {} a = {} ∧
          cutTopLevelFrom sep {} piece text =
            (piece.reverse ++ a) :: cutTopLevelFrom sep {} [] b := by
  have hrefused (c : Char) (place : Place) (h : lacks sep c place = false) :
      place = .code 0 ∧ c = sep := by
    simpa [lacks] using h
  have hquote (c : Char) (place : Place) (h : lacks sep c place = false) : isQuote c = false := by
    rw [(hrefused c place h).2]
    exact Rendering.isQuote_of_isPlain hsep
  obtain hadmits | ⟨a, c, b, rfl, hadmits, hlacks⟩ :=
    Reader.admits_or_first hquote (Reader.fits_code 0 text)
  · have hcut := cutTopLevelFrom_append (b := []) (by simp) (Reader.fits_code 0 text) hadmits piece
    rw [List.append_nil] at hcut
    exact .inl ⟨hadmits, by rw [hcut, cutTopLevelFrom, List.reverse_append, List.reverse_reverse]⟩
  · obtain ⟨hplace, rfl⟩ := hrefused _ _ hlacks
    obtain ⟨hstart, hnext⟩ := Reader.eq_start_of_step hsep hplace
    have hcut := cutTopLevelFrom_append (isQuote_head?_sep hsep b) (Reader.fits_code 0 a) hadmits piece
    rw [hstart] at hplace hnext hcut
    refine .inr ⟨a, b, rfl, hadmits, hstart, ?_⟩
    rw [hcut]
    simp [cutTopLevelFrom, hplace, hnext]

/-- A piece holds no separator at top level, and it leaves the reader at a start or as the whole
text does. -/
theorem of_mem_cutTopLevelFrom {text p : List Char} (hp : p ∈ cutTopLevelFrom sep {} [] text) :
    Reader.admits (lacks sep) {} p = true ∧
      (Reader.after {} p = {} ∨ Reader.after {} p = Reader.after {} text) := by
  generalize hpieces : cutTopLevelFrom sep {} [] text = pieces at hp
  induction pieces generalizing text with
  | nil => cases hp
  | cons first more ih =>
    obtain ⟨hadmits, hcut⟩ | ⟨a, b, rfl, hadmits, hafter, hcut⟩ := cutTopLevelFrom_first hsep text []
    · obtain ⟨rfl, rfl⟩ := List.cons_eq_cons.1 (hpieces.symm.trans hcut)
      rw [List.mem_singleton] at hp
      rw [hp]
      exact ⟨hadmits, .inr rfl⟩
    · obtain ⟨rfl, hmore⟩ := List.cons_eq_cons.1 (hcut.symm.trans hpieces)
      have hwhole : Reader.after {} (a ++ sep :: b) = Reader.after {} b := by
        rw [Reader.after_append (isQuote_head?_sep hsep b) (Reader.fits_code 0 a), hafter,
          Reader.after, Rendering.step_plain hsep]
      obtain rfl | hp := List.mem_cons.1 hp
      · exact ⟨hadmits, .inl hafter⟩
      · rw [hwhole]
        exact ih hmore hp

end Cut

/-- The pieces of a text that leaves nothing open leave nothing open. -/
theorem balance_of_mem_cutTopLevel {sep : Char} (hsep : Rendering.isPlain sep = true)
    {text p : List Char} (hcomment : '#' ∉ text) (h : Source.balance text = ⟨0, false⟩)
    (hp : p ∈ cutTopLevel sep text) : Source.balance p = ⟨0, false⟩ := by
  rw [cutTopLevel] at hp
  split at hp
  · cases hp
  · obtain ⟨q, hq, rfl⟩ := List.mem_map.1 hp
    have hmem : '#' ∉ q := fun hc =>
      (mem_of_mem_cutTopLevelFrom hq hc).elim List.not_mem_nil hcomment
    rw [balance_trim hmem, balance_eq hmem]
    obtain hafter | hafter := (of_mem_cutTopLevelFrom hsep hq).2
    · rw [hafter]
      rfl
    · rw [hafter, ← balance_eq hcomment, h]

end SnippetGrader.Source
