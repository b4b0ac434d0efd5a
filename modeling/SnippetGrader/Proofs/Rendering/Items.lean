import SnippetGrader.Proofs.Rendering.Operand

/-!
# The items of a list

The rows of the items of a list, with commas between them, are cut at these commas into the writings
of the items.
-/

namespace SnippetGrader.Rendering

open Text Source Expression

section Rows

variable {ps : List Lexeme} {rows : List (List Lexeme)} (h : ∀ qs ∈ ps :: rows, Shape 0 qs)
include h

theorem separated_ends : Legible (separated (ps :: rows)) ∧
    (separated (ps :: rows)).head? = ps.head? ∧
      ∃ p ∈ (separated (ps :: rows)).getLast?, p.isOperand = true := by
  induction rows generalizing ps with
  | nil =>
    have hps := h ps List.mem_cons_self
    rw [separated_singleton]
    exact ⟨hps.legible, rfl, hps.back⟩
  | cons qs rows ih =>
    have hps := h ps List.mem_cons_self
    have hqs := h qs (by simp)
    obtain ⟨hlegible, hhead, q, hq, hoperand⟩ := ih fun rs hrs => h rs (List.mem_cons_of_mem ps hrs)
    obtain ⟨p, hp, -⟩ := hps.front
    have htail : Legible (.comma :: .space :: separated (qs :: rows)) := by
      refine List.isChain_cons_cons.2 ⟨trivial, List.isChain_cons.2 ⟨fun p hp => ?_, hlegible⟩⟩
      rw [hhead] at hp
      exact hqs.ne_space hp
    rw [separated_cons_cons]
    refine ⟨List.isChain_append.2 ⟨hps.legible, htail, ?_⟩, ?_, q, ?_, hoperand⟩
    · intro x hx y hy
      cases hy
      obtain ⟨z, hz, hoperand⟩ := hps.back
      rw [Option.mem_unique hx hz]
      cases z with
      | number n | name x => exact rfl
      | bracket b inner hb => trivial
      | _ => cases hoperand
    · rw [List.head?_append, hp]
      rfl
    · rw [Option.mem_def] at hq ⊢
      simp [List.getLast?_append, List.getLast?_cons, hq]

theorem trim_separated : trim (writing (separated (ps :: rows))) = writing (separated (ps :: rows)) := by
  obtain ⟨-, hhead, q, hq, hoperand⟩ := separated_ends h
  have hps := h ps List.mem_cons_self
  obtain ⟨p, hp, -⟩ := hps.front
  have hfirst : p ∈ (separated (ps :: rows)).head? := hhead ▸ hp
  have hspace : q ≠ .space := by
    rintro rfl
    cases hoperand
  have htrim := trim_writing hfirst (hps.ne_space hp) hq hspace (a := []) (b := []) (by simp) (by simp)
  rwa [List.nil_append, List.append_nil] at htrim

theorem cutTopLevelFrom_separated {front : List Lexeme} (hfront : .comma ∉ front) :
    cutTopLevelFrom ',' {} [] (writing (front ++ separated (ps :: rows))) =
      writing (front ++ ps) :: rows.map fun qs => ' ' :: writing qs := by
  induction rows generalizing ps front with
  | nil =>
    have hcomma : .comma ∉ front ++ ps := by
      simp [hfront, (h ps List.mem_cons_self).comma]
    have hcut := cutTopLevelFrom_writing hcomma [] []
    rw [List.append_nil, List.append_nil] at hcut
    rw [separated_singleton, hcut]
    simp [cutTopLevelFrom]
  | cons qs rows ih =>
    have hcomma : .comma ∉ front ++ ps := by
      simp [hfront, (h ps List.mem_cons_self).comma]
    have hrest := ih (fun rs hrs => h rs (List.mem_cons_of_mem ps hrs))
      (show .comma ∉ [Lexeme.space] by simp)
    have hcut := cutTopLevelFrom_writing hcomma []
      (',' :: writing ([Lexeme.space] ++ separated (qs :: rows)))
    have hwriting : writing (front ++ separated (ps :: qs :: rows)) =
        writing (front ++ ps) ++ ',' :: writing ([Lexeme.space] ++ separated (qs :: rows)) := by
      simp [separated_cons_cons, Lexeme.chars]
    have hstep : Reader.step {} ',' (writing ([Lexeme.space] ++ separated (qs :: rows))) =
        ({}, .code 0) := rfl
    rw [hwriting, hcut, cutTopLevelFrom, hstep]
    simp only [beq_self_eq_true, Bool.and_self, if_true, hrest]
    simp [Lexeme.chars]

theorem cutTopLevel_separated :
    cutTopLevel ',' (writing (separated (ps :: rows))) = (ps :: rows).map writing := by
  have hps := h ps List.mem_cons_self
  obtain ⟨-, hhead, -⟩ := separated_ends h
  obtain ⟨p, hp, -⟩ := hps.front
  obtain ⟨c, more, hchars⟩ := List.exists_cons_of_ne_nil p.chars_ne_nil
  have hc : c ∈ p.chars.head? := by rw [hchars]; rfl
  have hblank : (writing (separated (ps :: rows))).all isBlank = false := by
    refine List.all_eq_false.2 ⟨c, List.mem_of_mem_head? ?_, ?_⟩
    · rw [head?_writing (hhead ▸ hp)]
      exact hc
    · simp [Lexeme.isBlank_head? (hps.ne_space hp) hc]
  have hcut := cutTopLevelFrom_separated h (show .comma ∉ ([] : List Lexeme) by simp)
  rw [cutTopLevel, hblank]
  simp only [List.nil_append] at hcut
  rw [if_neg Bool.false_ne_true, hcut, List.map_cons, List.map_map, hps.trim_writing, List.map_cons]
  congr 1
  refine List.map_congr_left fun qs hqs => ?_
  have htrim := (h qs (List.mem_cons_of_mem ps hqs)).trim_spaced (a := [' ']) (b := [])
    isBlank_space (by simp)
  rwa [List.append_nil] at htrim

end Rows

end SnippetGrader.Rendering
