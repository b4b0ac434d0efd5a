import SnippetGrader.Source.Scan

/-!
# Marks of a text

The marks of a scan stand in the order of their positions and carry the characters that stand there.
At each of them the scan can be taken up again: what follows is the scan of the rest of the text by
the reader that has come so far. A text that is cut off anywhere keeps the marks before the cut, also
if the cut goes through a quotation mark of three or through a literal.
-/

namespace SnippetGrader.Source

/-! ## Steps of the reader -/

/-- Inside a literal all is quoted. -/
theorem Reader.step_of_mode_ne {r : Reader} (h : r.mode ≠ .code) (c : Char) (rest : List Char) :
    (r.step c rest).2 = .quoted := by
  obtain ⟨mode, depth⟩ := r
  cases mode with
  | code => exact absurd rfl h
  | single q | escaped q | opening q left | triple q | closing left => rfl

/-- A character of code is read by a reader in code, which stays there. -/
theorem Reader.step_code {r r' : Reader} {c : Char} {rest : List Char} {d : Nat}
    (h : r.step c rest = (r', .code d)) : r.mode = .code ∧ r'.mode = .code := by
  have hmode : r.mode = .code := by
    by_cases hmode : r.mode = .code
    · exact hmode
    · have hquoted := Reader.step_of_mode_ne hmode c rest
      rw [h] at hquoted
      cases hquoted
  refine ⟨hmode, ?_⟩
  obtain ⟨mode, depth⟩ := r
  obtain rfl : mode = .code := hmode
  simp only [Reader.step] at h
  split at h
  · cases h
  · split at h
    · cases h; rfl
    · split at h
      · cases h; rfl
      · cases h; rfl

/-- An opening bracket has the depth of the reader, which counts it from there on. -/
theorem Reader.step_of_isOpener {c : Char} (h : isOpener c = true) (d : Nat) (rest : List Char) :
    Reader.step ⟨.code, d⟩ c rest = (⟨.code, d + 1⟩, .code d) := by
  simp only [isOpener, Bool.or_eq_true, beq_iff_eq] at h
  obtain (rfl | rfl) | rfl := h <;> rfl

/-- What follows a character makes no difference to how it is read, unless it is a quotation mark
that leaves the reader in a literal. -/
theorem Reader.step_eq_or_quoted (r : Reader) (c : Char) :
    (∀ a b, r.step c a = r.step c b) ∨
      ∀ a, (r.step c a).2 = .quoted ∧ (r.step c a).1.mode ≠ .code := by
  obtain ⟨mode, depth⟩ := r
  cases mode with
  | code =>
    by_cases hquote : isQuote c = true
    · refine .inr fun a => ?_
      simp only [Reader.step, hquote, if_true, true_and]
      split <;> simp
    · exact .inl fun a b => by simp [Reader.step, hquote]
  | triple q =>
    refine .inr fun a => ⟨rfl, ?_⟩
    simp only [Reader.step]
    split <;> simp
  | single q | escaped q | opening q left | closing left => exact .inl fun a b => rfl

theorem tripled_take {k : Nat} (hk : 2 ≤ k) (c : Char) (rest : List Char) :
    tripled c (rest.take k) = tripled c rest := by
  obtain ⟨k, rfl⟩ : ∃ n, k = n + 2 := ⟨k - 2, by omega⟩
  match rest with
  | [] | [a] | a :: b :: more => rfl

/-! ## Positions -/

/-- The mark of a character at position `i`, if it stands in code. -/
def Place.marks (place : Place) (i : Nat) (c : Char) : List Mark :=
  match place with
  | .quoted => []
  | .code d => [⟨i, c, d⟩]

theorem Place.mem_marks {place : Place} {i : Nat} {c : Char} {m : Mark} :
    m ∈ place.marks i c ↔ place = .code m.depth ∧ m.index = i ∧ m.char = c := by
  obtain ⟨index, char, depth⟩ := m
  cases place with
  | quoted => simp [Place.marks]
  | code d =>
    simp only [Place.marks, List.mem_singleton, Mark.mk.injEq, Place.code.injEq]
    exact ⟨fun ⟨hindex, hchar, hdepth⟩ => ⟨hdepth.symm, hindex, hchar⟩,
      fun ⟨hdepth, hindex, hchar⟩ => ⟨hindex, hchar, hdepth.symm⟩⟩

theorem scanFrom_cons (r : Reader) (i : Nat) (c : Char) (rest : List Char) :
    scanFrom r i (c :: rest) =
      (r.step c rest).2.marks i c ++ scanFrom (r.step c rest).1 (i + 1) rest := by
  rw [scanFrom]
  generalize r.step c rest = s
  obtain ⟨r', _ | d⟩ := s <;> rfl

theorem mem_scanFrom_cons {r : Reader} {i : Nat} {c : Char} {rest : List Char} {m : Mark} :
    m ∈ scanFrom r i (c :: rest) ↔
      ((r.step c rest).2 = .code m.depth ∧ m.index = i ∧ m.char = c) ∨
        m ∈ scanFrom (r.step c rest).1 (i + 1) rest := by
  rw [scanFrom_cons, List.mem_append, Place.mem_marks]

theorem index_of_mem_scanFrom {r : Reader} {i : Nat} {text : List Char} {m : Mark}
    (h : m ∈ scanFrom r i text) : i ≤ m.index ∧ m.index < i + text.length := by
  induction text generalizing r i with
  | nil => cases h
  | cons c rest ih =>
    rw [List.length_cons]
    obtain ⟨-, hindex, -⟩ | h := mem_scanFrom_cons.1 h
    · omega
    · have := ih h
      omega

/-- A reader in a literal passes over the next character. -/
theorem lt_index_of_mem_scanFrom {r : Reader} (hmode : r.mode ≠ .code) {i : Nat} {text : List Char}
    {m : Mark} (h : m ∈ scanFrom r i text) : i < m.index := by
  cases text with
  | nil => cases h
  | cons c rest =>
    rw [scanFrom_cons, Reader.step_of_mode_ne hmode] at h
    exact (index_of_mem_scanFrom h).1

/-- The marks stand in the order of their positions. -/
theorem pairwise_scanFrom (r : Reader) (i : Nat) (text : List Char) :
    (scanFrom r i text).Pairwise fun m n => m.index < n.index := by
  induction text generalizing r i with
  | nil => exact .nil
  | cons c rest ih =>
    rw [scanFrom_cons, List.pairwise_append]
    refine ⟨?_, ih _ _, fun m hm n hn => ?_⟩
    · generalize (r.step c rest).2 = place
      cases place with
      | quoted => exact .nil
      | code d => exact List.pairwise_singleton _ _
    · have := (index_of_mem_scanFrom hn).1
      have := (Place.mem_marks.1 hm).2.1
      omega

/-! ## A cut -/

/-- **The marks of a cut text** are those of the whole text before the cut. -/
theorem scanFrom_take (r : Reader) (i k : Nat) (text : List Char) :
    scanFrom r i (text.take k) = (scanFrom r i text).filter fun m => m.index < i + k := by
  induction text generalizing r i k with
  | nil => rw [List.take_nil]; rfl
  | cons c rest ih =>
    cases k with
    | zero =>
      refine (List.filter_eq_nil_iff.2 fun m hm => ?_).symm
      have := (index_of_mem_scanFrom hm).1
      simp only [decide_eq_true_eq]
      omega
    | succ k =>
      rw [List.take_succ_cons]
      by_cases hsame : r.step c (rest.take k) = r.step c rest
      · have hhere : ((r.step c rest).2.marks i c).filter (fun m => m.index < i + (k + 1)) =
            (r.step c rest).2.marks i c := by
          refine List.filter_eq_self.2 fun m hm => ?_
          have := (Place.mem_marks.1 hm).2.1
          simp only [decide_eq_true_eq]
          omega
        have hindex : i + 1 + k = i + (k + 1) := by omega
        rw [scanFrom_cons, scanFrom_cons, hsame, List.filter_append, hhere, ih, hindex]
      · -- the cut goes through a mark of three: neither reader has left the literal before it
        obtain hall | hquoted := r.step_eq_or_quoted c
        · exact absurd (hall _ _) hsame
        have hk : k < 2 := Nat.lt_of_not_le fun hk => hsame (by
          simp only [Reader.step, tripled_take hk])
        have hlate {tail : List Char} {m : Mark} (hm : m ∈ scanFrom r i (c :: tail)) :
            i + 1 < m.index := by
          rw [scanFrom_cons, (hquoted _).1] at hm
          exact lt_index_of_mem_scanFrom (hquoted _).2 hm
        have hcut : scanFrom r i (c :: rest.take k) = [] := by
          refine List.eq_nil_iff_forall_not_mem.2 fun m hm => ?_
          have hbound := (index_of_mem_scanFrom hm).2
          rw [List.length_cons, List.length_take] at hbound
          have := hlate hm
          omega
        rw [hcut]
        refine (List.filter_eq_nil_iff.2 fun m hm => ?_).symm
        have := hlate hm
        simp only [decide_eq_true_eq]
        omega

/-! ## The reader at a mark -/

/-- A scan is taken up again at each of its marks. -/
theorem exists_of_mem_scanFrom {r : Reader} {i : Nat} {text : List Char} {m : Mark}
    (h : m ∈ scanFrom r i text) :
    ∃ (front : List Mark) (a rest : List Char) (before after : Reader),
      text = a ++ m.char :: rest ∧ m.index = i + a.length ∧
        before.step m.char rest = (after, .code m.depth) ∧ (∀ n ∈ front, n.index < m.index) ∧
          scanFrom r i text = front ++ m :: scanFrom after (m.index + 1) rest := by
  induction text generalizing r i with
  | nil => cases h
  | cons c rest ih =>
    obtain ⟨hplace, hindex, hchar⟩ | hrest := mem_scanFrom_cons.1 h
    · subst hchar hindex
      refine ⟨[], [], rest, r, (r.step m.char rest).1, rfl, rfl, ?_, by simp, ?_⟩
      · rw [← hplace]
      · rw [scanFrom_cons, hplace]
        rfl
    · obtain ⟨front, a, tail, before, after, rfl, hindex, hstep, hfront, hscan⟩ := ih hrest
      refine ⟨(r.step c (a ++ m.char :: tail)).2.marks i c ++ front, c :: a, tail, before, after,
        rfl, ?_, hstep, fun n hn => ?_, ?_⟩
      · rw [List.length_cons, hindex]
        omega
      · obtain hn | hn := List.mem_append.1 hn
        · have := (Place.mem_marks.1 hn).2.1
          omega
        · exact hfront n hn
      · rw [scanFrom_cons, hscan, ← List.append_assoc]

/-- A mark carries the character at its position. -/
theorem getElem?_of_mem_scan {text : List Char} {m : Mark} (h : m ∈ scan text) :
    text[m.index]? = some m.char := by
  obtain ⟨-, a, rest, -, -, htext, hindex, -⟩ := exists_of_mem_scanFrom h
  rw [hindex, Nat.zero_add, htext, List.getElem?_append_right (Nat.le_refl _), Nat.sub_self,
    List.getElem?_cons_zero]

end SnippetGrader.Source
