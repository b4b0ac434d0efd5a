import SnippetGrader.Proofs.Layout.Cutting
import SnippetGrader.Proofs.Scanning.Marks

/-!
# Splitting at separators

The pieces of a text are what stands between its separators of code at depth zero: with the
separators between them they are the text again, whatever it leaves open or closes too often. A piece
is not cut again, because the reader is at a start behind every cut and the blanks that are trimmed
off tell it nothing.
-/

namespace SnippetGrader.Source

open Text Layout

/-! ## The cuts -/

/-- The positions of the separators between some pieces, the first of which starts at position
`i`. -/
def cutPositions (i : Nat) : List (List Char) → List Nat
  | [] => []
  | [_] => []
  | p :: q :: more => (i + p.length) :: cutPositions (i + p.length + 1) (q :: more)

theorem cutTopLevelFrom_ne_nil (sep : Char) (r : Reader) (piece text : List Char) :
    cutTopLevelFrom sep r piece text ≠ [] := by
  obtain ⟨front, more, hcut⟩ := exists_cutTopLevelFrom sep r piece text
  rw [hcut]
  exact List.cons_ne_nil _ _

theorem intercalate_cutTopLevelFrom (sep : Char) (r : Reader) (piece text : List Char) :
    [sep].intercalate (cutTopLevelFrom sep r piece text) = piece.reverse ++ text := by
  induction text generalizing r piece with
  | nil => rw [cutTopLevelFrom, List.intercalate_singleton, List.append_nil]
  | cons c rest ih =>
    simp only [cutTopLevelFrom]
    split
    · next hcut =>
      obtain ⟨-, rfl⟩ : _ ∧ c = sep := by simpa using hcut
      have hrest := ih (r.step c rest).1 []
      obtain ⟨first, more, hmore⟩ :=
        List.exists_cons_of_ne_nil (cutTopLevelFrom_ne_nil c (r.step c rest).1 [] rest)
      rw [hmore] at hrest ⊢
      rw [List.intercalate_cons_cons, hrest, List.reverse_nil, List.nil_append, List.append_assoc]
      rfl
    · rw [ih, List.reverse_cons, List.append_assoc]
      rfl

/-- The cuts are the separators that a scan reports at depth zero. -/
theorem cutPositions_cutTopLevelFrom (sep : Char) (r : Reader) (i : Nat) (piece text : List Char) :
    cutPositions i (cutTopLevelFrom sep r piece text) =
      ((scanFrom r (i + piece.length) text).filter fun m => m.depth == 0 && m.char == sep).map
        Mark.index := by
  induction text generalizing r i piece with
  | nil => rfl
  | cons c rest ih =>
    rw [scanFrom_cons, List.filter_append, List.map_append]
    simp only [cutTopLevelFrom]
    split
    · next hcut =>
      obtain ⟨hplace, rfl⟩ : (r.step c rest).2 = .code 0 ∧ c = sep := by simpa using hcut
      have hrest := ih (r.step c rest).1 (i + piece.length + 1) []
      obtain ⟨first, more, hmore⟩ :=
        List.exists_cons_of_ne_nil (cutTopLevelFrom_ne_nil c (r.step c rest).1 [] rest)
      rw [hmore] at hrest ⊢
      rw [cutPositions, List.length_reverse, hrest, hplace]
      simp [Place.marks]
    · next hcut =>
      have hnone : ((r.step c rest).2.marks (i + piece.length) c).filter
          (fun m => m.depth == 0 && m.char == sep) = [] := by
        refine List.filter_eq_nil_iff.2 fun m hm => ?_
        obtain ⟨hplace, -, hchar⟩ := Place.mem_marks.1 hm
        rw [hplace, ← hchar] at hcut
        simpa using hcut
      rw [hnone, ih, List.length_cons]
      rfl

/-! ## The pieces -/

/-- A separator is no bracket, no quotation mark and no blank. -/
theorem isPlain_separator {sep : Char} (h : sep ∈ [',', ';', ':']) :
    Rendering.isPlain sep = true ∧ isBlank sep = false := by
  simp only [List.mem_cons, List.not_mem_nil, or_false] at h
  obtain rfl | rfl | rfl := h <;> decide

/-- A piece is not cut again. -/
theorem cutTopLevel_of_mem {sep : Char} (hsep : Rendering.isPlain sep = true)
    (hblank : isBlank sep = false) {text p : List Char} (hp : p ∈ cutTopLevel sep text)
    (hne : p ≠ []) : cutTopLevel sep p = [p] := by
  rw [cutTopLevel] at hp
  split at hp
  · cases hp
  · obtain ⟨q, hq, rfl⟩ := List.mem_map.1 hp
    have hlacks : Reader.admits (lacks sep) {} (trim q) = true := by
      rw [Reader.admits_trim]
      · exact (of_mem_cutTopLevelFrom hsep hq).1
      · intro c hc place
        simp [lacks, Rendering.ne_of_isBlank hc hblank]
    have hvisible : ¬∀ c ∈ trim q, isBlank c = true := by
      rw [← trimEnd_eq_nil, ← trim_eq_nil, trim_trim]
      exact hne
    rw [cutTopLevel_eq_singleton hlacks hvisible, trim_trim]

/-- **A text is cut at its separators and nowhere else.** It is its pieces with the separators between
them, these are the ones that a scan reports at depth zero, and no piece is cut again. -/
theorem cutTopLevel_pieces {sep : Char} (hsep : sep ∈ [',', ';', ':']) {text : List Char}
    (hblank : ¬∀ c ∈ text, isBlank c = true) :
    (∃ pieces, text = [sep].intercalate pieces ∧ cutTopLevel sep text = pieces.map trim ∧
        cutPositions 0 pieces =
          ((scan text).filter fun m => m.depth == 0 && m.char == sep).map Mark.index) ∧
      ∀ p ∈ cutTopLevel sep text, p ≠ [] → cutTopLevel sep p = [p] := by
  obtain ⟨hplain, hvisible⟩ := isPlain_separator hsep
  refine ⟨⟨cutTopLevelFrom sep {} [] text, ?_, ?_, ?_⟩, fun p hp => ?_⟩
  · rw [intercalate_cutTopLevelFrom, List.reverse_nil, List.nil_append]
  · rw [cutTopLevel, if_neg (by simpa using hblank)]
  · exact cutPositions_cutTopLevelFrom sep {} 0 [] text
  · exact cutTopLevel_of_mem hplain hvisible hp

/-- Closing brackets that close nothing, a literal between triple marks and one without an end. -/
theorem cutTopLevel_pieces_uneven :
    let text := "]a, '''b', (c''' ,(d, e), \"f\\\", g ".toList
    ',' ∈ [',', ';', ':'] ∧ (¬∀ c ∈ text, isBlank c = true) ∧
      (∃ pieces, text = [','].intercalate pieces ∧ cutTopLevel ',' text = pieces.map trim ∧
        cutPositions 0 pieces = [2, 17, 24]) ∧
      cutTopLevel ',' "\"f\\\", g".toList = ["\"f\\\", g".toList] := by
  intro text
  have hsep : ',' ∈ [',', ';', ':'] := by decide
  have hblank : ¬∀ c ∈ text, isBlank c = true := fun h =>
    absurd (h ']' List.mem_cons_self) (by decide)
  obtain ⟨hpieces, hagain⟩ := cutTopLevel_pieces hsep hblank
  exact ⟨hsep, hblank, hpieces, hagain _ (by decide) (by decide)⟩

end SnippetGrader.Source
