import Mathlib.Data.List.Basic
import SnippetGrader.Proofs.Layout.Physical
import SnippetGrader.Proofs.Layout.Reading

/-!
# Pieces with separators between them

Texts that close what they open and hold no separator at depth zero are found again when they are
written with a separator and a space between them.
-/

namespace SnippetGrader.Layout

open Text Source

/-- A text that can stand between separators. -/
structure IsPiece (sep : Char) (a : List Char) : Prop where
  closed : Reader.after {} a = {}
  lacks : Reader.admits (lacks sep) {} a = true
  trimmed : trim a = a
  ne_nil : a ≠ []

/-- Some texts with a separator and a space between them. -/
def joinBy (sep : Char) (parts : List (List Char)) : List Char := [sep, ' '].intercalate parts

variable {sep : Char} {parts : List (List Char)}

theorem joinBy_singleton (sep : Char) (a : List Char) : joinBy sep [a] = a :=
  List.intercalate_singleton

theorem joinBy_cons_cons (sep : Char) (a b : List Char) (parts : List (List Char)) :
    joinBy sep (a :: b :: parts) = a ++ sep :: ' ' :: joinBy sep (b :: parts) := by
  rw [joinBy, List.intercalate_cons_cons, List.append_assoc]
  exact rfl

theorem joinBy_ne_nil {a : List Char} (ha : a ≠ []) (parts : List (List Char)) :
    joinBy sep (a :: parts) ≠ [] := by
  cases parts with
  | nil => rwa [joinBy_singleton]
  | cons b parts =>
    rw [joinBy_cons_cons]
    exact List.append_ne_nil_of_left_ne_nil ha _

section Pieces

variable (h : ∀ a ∈ parts, IsPiece sep a)
include h

theorem trim_joinBy : trim (joinBy sep parts) = joinBy sep parts := by
  refine trim_eq_self_iff.2 ?_
  induction parts with
  | nil => exact ⟨by simp [joinBy], by simp [joinBy]⟩
  | cons a parts ih =>
    obtain ⟨hhead, hlast⟩ := trim_eq_self_iff.1 (h a List.mem_cons_self).trimmed
    cases parts with
    | nil =>
      rw [joinBy_singleton]
      exact ⟨hhead, hlast⟩
    | cons b parts =>
      obtain ⟨-, hrest⟩ := ih fun c hc => h c (List.mem_cons_of_mem a hc)
      have hb := (h b (List.mem_cons_of_mem a List.mem_cons_self)).ne_nil
      rw [joinBy_cons_cons]
      constructor
      · rwa [List.head?_append_of_ne_nil _ (h a List.mem_cons_self).ne_nil]
      · have hne : joinBy sep (b :: parts) ≠ [] := joinBy_ne_nil hb parts
        obtain ⟨d, more, htext⟩ := List.exists_cons_of_ne_nil hne
        rw [htext] at hrest
        rwa [htext, List.getLast?_append_of_ne_nil _ (by simp), List.getLast?_cons_cons,
          List.getLast?_cons_cons]

variable (hsep : Rendering.isPlain sep = true)
include hsep

/-- The space after a separator starts the next piece. -/
theorem cutTopLevelFrom_joinBy (hspace : ' ' ≠ sep) {a : List Char} (ha : IsPiece sep a)
    (piece : List Char) :
    cutTopLevelFrom sep {} piece (joinBy sep (a :: parts)) =
      (piece.reverse ++ a) :: parts.map (' ' :: ·) := by
  induction parts generalizing a piece with
  | nil =>
    have hcut := cutTopLevelFrom_append (b := []) (by simp) (Reader.fits_code 0 a) ha.lacks piece
    rw [List.append_nil, ha.closed] at hcut
    rw [joinBy_singleton, hcut, cutTopLevelFrom, List.reverse_append, List.reverse_reverse]
    exact rfl
  | cons b parts ih =>
    have hquote : isQuote sep = false := Rendering.isQuote_of_isPlain hsep
    have hrest := ih (fun c hc => h c (List.mem_cons_of_mem b hc)) (h b List.mem_cons_self) [' ']
    have hcut := cutTopLevelFrom_append (b := sep :: ' ' :: joinBy sep (b :: parts))
      (by simpa using hquote) (Reader.fits_code 0 a) ha.lacks piece
    have hseparator := Rendering.step_plain hsep 0 (' ' :: joinBy sep (b :: parts))
    have hblank := Rendering.step_plain (c := ' ') (by decide) 0 (joinBy sep (b :: parts))
    rw [joinBy_cons_cons, hcut, ha.closed, cutTopLevelFrom, hseparator]
    simp only [beq_self_eq_true, Bool.and_self, if_true]
    rw [Rendering.cutTopLevelFrom_cons hblank (.inr hspace), hrest, List.reverse_append,
      List.reverse_reverse]
    exact rfl

/-- **The pieces are found again.** -/
theorem cutTopLevel_joinBy (hspace : ' ' ≠ sep) : cutTopLevel sep (joinBy sep parts) = parts := by
  cases parts with
  | nil => exact rfl
  | cons a parts =>
    have ha := h a List.mem_cons_self
    have hblank : (joinBy sep (a :: parts)).all isBlank = false := by
      rw [Bool.eq_false_iff, ne_eq, List.all_eq_true, ← trimEnd_eq_nil, ← trim_eq_nil, trim_joinBy h]
      exact joinBy_ne_nil ha.ne_nil parts
    have htail : (parts.map (' ' :: ·)).map trim = parts := by
      rw [List.map_map]
      conv_rhs => rw [← List.map_id parts]
      refine List.map_congr_left fun b hb => ?_
      exact (trim_append_left Rendering.isBlank_space b).trans
        (h b (List.mem_cons_of_mem a hb)).trimmed
    rw [cutTopLevel, hblank, if_neg Bool.false_ne_true,
      cutTopLevelFrom_joinBy (fun b hb => h b (List.mem_cons_of_mem a hb)) hsep hspace ha,
      List.map_cons, htail, List.reverse_nil, List.nil_append, ha.trimmed]

end Pieces

end SnippetGrader.Layout
