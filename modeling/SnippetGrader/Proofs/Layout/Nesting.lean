import Mathlib.Data.List.TakeWhile
import SnippetGrader.Statement.Clause

/-!
# Nested blocks

Whatever the indentations of a program are, the block under a header is a run of lines: as deep as
its first line, deeper than the header, and ended by a line that is less deep than the first one. A
header inside the run finds its own block inside it, so it makes no difference whether that block is
looked up in the whole program or in the lines of the body alone.
-/

namespace SnippetGrader.Layout

open Source Statement

/-! ## Runs of lines -/

/-- The lines `block ++ after` that follow a header of indentation `n` begin with its block. The
block is empty only if the next line is not deeper than the header. -/
structure IsRun (n : Nat) (block after : List Line) : Prop where
  deep : ∀ l ∈ block, n < l.indent ∧ ∀ first ∈ block.head?, first.indent ≤ l.indent
  ended : ∀ l ∈ after.head?, ∀ first ∈ block.head?, l.indent < first.indent
  shallow : block = [] → ∀ l ∈ after.head?, l.indent ≤ n

theorem isRun_takeWhile {n : Nat} {first : Line} (h : n < first.indent) (rest : List Line) :
    IsRun n ((first :: rest).takeWhile fun l => first.indent ≤ l.indent)
      ((first :: rest).dropWhile fun l => first.indent ≤ l.indent) := by
  have hhead : ((first :: rest).takeWhile fun l => first.indent ≤ l.indent).head? = some first := by
    rw [List.takeWhile_cons_of_pos (by simp), List.head?_cons]
  refine ⟨fun l hl => ?_, fun l hl d hd => ?_, fun hnil => ?_⟩
  · have hle : first.indent ≤ l.indent := by simpa using List.mem_takeWhile_imp hl
    refine ⟨Nat.lt_of_lt_of_le h hle, fun d hd => ?_⟩
    obtain rfl := Option.some.inj (hhead.symm.trans hd)
    exact hle
  · obtain rfl := Option.some.inj (hhead.symm.trans hd)
    have hstop := List.head?_dropWhile_not (fun l : Line => decide (first.indent ≤ l.indent))
      (first :: rest)
    rw [hl] at hstop
    simpa using hstop
  · rw [hnil] at hhead
    cases hhead

/-- The lines that a block is measured on begin with a run of its length. -/
theorem exists_isRun (n : Nat) (rest : List Line) :
    ∃ block after, rest = block ++ after ∧ block.length = blockLength n rest ∧
      IsRun n block after := by
  cases rest with
  | nil => exact ⟨[], [], rfl, rfl, by simp, by simp, by simp⟩
  | cons first rest =>
    by_cases h : first.indent ≤ n
    · exact ⟨[], first :: rest, rfl, by simp [blockLength, h], by simp, by simp, by simpa using h⟩
    · exact ⟨_, _, List.takeWhile_append_dropWhile.symm, by simp [blockLength, h],
        isRun_takeWhile (Nat.lt_of_not_le h) rest⟩

/-- A block does not reach over a line that is less deep than the header and all lines between. -/
theorem blockLength_append {n : Nat} {block after : List Line}
    (h : ∀ l ∈ after.head?, l.indent ≤ n ∧ ∀ d ∈ block, l.indent < d.indent) :
    blockLength n (block ++ after) = blockLength n block := by
  cases block with
  | nil =>
    cases after with
    | nil => rfl
    | cons l after => exact if_pos (h l rfl).1
  | cons first block =>
    have hafter : after.takeWhile (fun l => first.indent ≤ l.indent) = [] := by
      cases after with
      | nil => rfl
      | cons l after =>
        have hl := (h l rfl).2 first List.mem_cons_self
        exact List.takeWhile_cons_of_neg (by simpa using hl)
    have happend : ((first :: block ++ after).takeWhile fun l => first.indent ≤ l.indent) =
        (first :: block).takeWhile fun l => first.indent ≤ l.indent := by
      rw [List.takeWhile_append, hafter, List.append_nil]
      split
      · next hlength => exact ((List.takeWhile_prefix _).eq_of_length hlength).symm
      · rfl
    rw [List.cons_append] at happend ⊢
    simp only [blockLength, happend]

/-- **Blocks are nested.** A header inside a run has its block inside the run, as long as it is in
the run alone. -/
theorem IsRun.blockLength_inside {n : Nat} {x y after : List Line} {line : Line}
    (h : IsRun n (x ++ line :: y) after) :
    blockLength line.indent (y ++ after) = blockLength line.indent y := by
  refine blockLength_append fun l hl => ?_
  obtain ⟨first, hfirst⟩ : ∃ first, (x ++ line :: y).head? = some first := by
    cases x <;> exact ⟨_, rfl⟩
  have hended := h.ended l hl first hfirst
  have hdeep {d : Line} (hd : d ∈ x ++ line :: y) : l.indent < d.indent :=
    Nat.lt_of_lt_of_le hended ((h.deep d hd).2 first hfirst)
  have hline : line ∈ x ++ line :: y := List.mem_append_right x List.mem_cons_self
  exact ⟨Nat.le_of_lt (hdeep hline),
    fun d hd => hdeep (List.mem_append_right x (List.mem_cons_of_mem line hd))⟩

theorem blockLength_le (n : Nat) (rest : List Line) : blockLength n rest ≤ rest.length := by
  obtain ⟨block, after, hrest, hlength, -⟩ := exists_isRun n rest
  rw [← hlength, hrest, List.length_append]
  exact Nat.le_add_right _ _

/-! ## Positions -/

theorem blockEnd_of_drop {lines rest : List Line} {line : Line} {h : Nat}
    (hdrop : lines.drop h = line :: rest) :
    blockEnd lines h = h + 1 + blockLength line.indent rest := by
  have hsign : ¬ (h : Int) < 0 := by omega
  rw [blockEnd, if_neg hsign]
  simp only [Int.toNat_natCast, hdrop]

theorem blockEnd_le_length (lines : List Line) (header : Int) :
    blockEnd lines header ≤ lines.length := by
  unfold blockEnd
  split
  · exact Nat.zero_le _
  · dsimp only
    cases hdrop : lines.drop header.toNat with
    | nil => exact Nat.le_refl _
    | cons line rest =>
      have hlength : lines.length - header.toNat = rest.length + 1 := by
        rw [← List.length_drop, hdrop, List.length_cons]
      have := blockLength_le line.indent rest
      dsimp only
      omega

/-- What the position `e` past the block under the header at position `h` says about the lines. -/
structure IsBlockEnd (lines : List Line) (h e : Nat) : Prop where
  follows : h + 1 ≤ e
  /-- A line after the header that is deeper belongs to the block. -/
  opens : ∀ header ∈ lines[h]?, ∀ first ∈ lines[h + 1]?, header.indent < first.indent → h + 1 < e
  inside : ∀ header ∈ lines[h]?, ∀ first ∈ lines[h + 1]?, ∀ i, h < i → i < e → ∀ l ∈ lines[i]?,
    first.indent ≤ l.indent ∧ header.indent < l.indent
  ended : ∀ first ∈ lines[h + 1]?, h + 1 < e → ∀ l ∈ lines[e]?, l.indent < first.indent

namespace IsRun

variable {lines block after : List Line} {line : Line} {h : Nat}
  (hrun : IsRun line.indent block after) (hdrop : lines.drop h = line :: (block ++ after))
include hdrop

omit hrun in
/-- The lines after the header, the run first. -/
theorem getElem?_lines (j : Nat) :
    lines[h + 1 + j]? = if j < block.length then block[j]? else after[j - block.length]? := by
  rw [Nat.add_assoc, ← List.getElem?_drop, hdrop, Nat.add_comm 1 j, List.getElem?_cons_succ,
    List.getElem?_append]

omit hrun in
theorem extract_lines : lines.extract (h + 1) (h + 1 + block.length) = block := by
  have htail : lines.drop (h + 1) = block ++ after := by
    rw [← List.tail_drop, hdrop, List.tail_cons]
  rw [List.extract_eq_take_drop, Nat.add_sub_cancel_left, htail, List.take_left]

include hrun in
theorem isBlockEnd : IsBlockEnd lines h (h + 1 + block.length) := by
  have hheader : lines[h]? = some line := by rw [← List.head?_drop, hdrop, List.head?_cons]
  have hget := getElem?_lines hdrop
  have hfirst (hne : 0 < block.length) : lines[h + 1]? = block.head? := by
    rw [← Nat.add_zero (h + 1), hget, if_pos hne, List.head?_eq_getElem?]
  refine ⟨Nat.le_add_right _ _, fun header hh first hf hlt => ?_,
    fun header hh first hf i hi hie l hl => ?_, fun first hf hlt l hl => ?_⟩
  · obtain rfl := Option.some.inj (hheader.symm.trans hh)
    by_contra hempty
    have hnil : block = [] := List.eq_nil_of_length_eq_zero (by omega)
    rw [← Nat.add_zero (h + 1), hget, hnil, List.length_nil, if_neg (Nat.lt_irrefl 0),
      ← List.head?_eq_getElem?] at hf
    exact Nat.not_le_of_lt hlt (hrun.shallow hnil first hf)
  · obtain rfl := Option.some.inj (hheader.symm.trans hh)
    obtain ⟨j, rfl⟩ : ∃ j, i = h + 1 + j := ⟨i - (h + 1), by omega⟩
    rw [hget, if_pos (by omega)] at hl
    rw [hfirst (by omega)] at hf
    obtain ⟨hheader, hle⟩ := hrun.deep l (List.mem_of_getElem? hl)
    exact ⟨hle first hf, hheader⟩
  · rw [hget, if_neg (Nat.lt_irrefl _), Nat.sub_self, ← List.head?_eq_getElem?] at hl
    rw [hfirst (by omega)] at hf
    exact hrun.ended l hl first hf

include hrun in
/-- A block inside the run, looked up in the whole program and in the run alone. -/
theorem blockEnd_inside {j : Nat} (hj : j < block.length) :
    blockEnd lines (h + 1 + j : Nat) = h + 1 + blockEnd block j := by
  obtain ⟨d, y, hy⟩ : ∃ d y, block.drop j = d :: y :=
    ⟨block[j], block.drop (j + 1), List.drop_eq_getElem_cons hj⟩
  have hblock : block = block.take j ++ d :: y := by rw [← hy, List.take_append_drop]
  have hwhole : lines.drop (h + 1 + j) = d :: (y ++ after) := by
    rw [Nat.add_assoc, ← List.drop_drop, hdrop, Nat.add_comm 1 j, List.drop_succ_cons,
      List.drop_append_of_le_length (Nat.le_of_lt hj), hy, List.cons_append]
  rw [hblock] at hrun
  rw [blockEnd_of_drop hwhole, blockEnd_of_drop hy, hrun.blockLength_inside]
  omega

end IsRun

/-- **Blocks are laminar, and slicing commutes with looking them up.** The position past a block is
in the program, whatever header position is asked for. Under a header of the program it bounds a run
of lines, which are the body that the header is executed with; and a header inside that run finds its
block inside it, in the whole program as in the run alone. -/
theorem blockEnd_nested (lines : List Line) :
    (∀ header : Int, blockEnd lines header ≤ lines.length) ∧
      ∀ (h : Nat) (hlt : h < lines.length),
        IsBlockEnd lines h (blockEnd lines h) ∧
          (body lines[h] [] (lines.drop (h + 1))).lines =
            lines.extract (h + 1) (blockEnd lines h) ∧
          ∀ i : Nat, h < i → i < blockEnd lines h →
            blockEnd lines i ≤ blockEnd lines h ∧
              (blockEnd (lines.extract (h + 1) (blockEnd lines h)) ((i : Int) - h - 1) : Int) =
                blockEnd lines i - (h + 1) := by
  refine ⟨blockEnd_le_length lines, fun h hlt => ?_⟩
  have hcons := List.drop_eq_getElem_cons hlt
  obtain ⟨block, after, hrest, hlength, hrun⟩ := exists_isRun lines[h].indent (lines.drop (h + 1))
  have hdrop : lines.drop h = lines[h] :: (block ++ after) := by rw [hcons, hrest]
  have hend : blockEnd lines h = h + 1 + block.length := by rw [blockEnd_of_drop hcons, hlength]
  have hextract := IsRun.extract_lines hdrop
  rw [hend, hextract]
  refine ⟨hrun.isBlockEnd hdrop, ?_, fun i hi hie => ?_⟩
  · rw [body, List.isEmpty_nil, if_pos rfl, ← hlength, hrest]
    exact List.take_left
  · obtain ⟨j, rfl⟩ : ∃ j, i = h + 1 + j := ⟨i - (h + 1), by omega⟩
    have hinside := hrun.blockEnd_inside hdrop (Nat.lt_of_add_lt_add_left hie)
    have hle := blockEnd_le_length block j
    have hposition : ((h + 1 + j : Nat) : Int) - h - 1 = (j : Nat) := by omega
    rw [hposition, hinside]
    omega

/-- A first line that is deeper than what follows it, and dedents to columns of no earlier line. -/
theorem blockEnd_nested_uneven :
    let lines : List Line := [4, 9, 12, 10, 9, 6, 4].map fun n => ⟨[], n, 1⟩
    IsBlockEnd lines 0 5 ∧ blockEnd lines 1 = 3 ∧ blockEnd (lines.extract 1 5) 0 = 2 := by
  intro lines
  obtain ⟨-, hlines⟩ := blockEnd_nested lines
  obtain ⟨hend, -, hinside⟩ := hlines 0 (by decide)
  have hsliced := (hinside 1 (by decide) (by decide)).2
  refine ⟨hend, by decide, ?_⟩
  have hnumber : ((blockEnd (lines.extract 1 5) 0 : Nat) : Int) = 2 := hsliced
  exact Int.ofNat.inj hnumber

end SnippetGrader.Layout
