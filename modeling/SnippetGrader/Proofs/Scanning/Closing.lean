import SnippetGrader.Proofs.Scanning.Marks

/-!
# Where a bracket closes

The search for the bracket that closes another one starts a scan of its own at the opening bracket,
with no bracket open. Up to the first closing bracket at that depth this scan and the scan of the
whole text go on side by side, a fixed number of brackets apart: neither of them comes to the depth
zero, at which a closing bracket would no longer count.
-/

namespace SnippetGrader.Source

/-! ## Inside a bracket -/

/-- Over `d` brackets with at least one more open, the reader stays that deep, or it reads the bracket
that closes the last one of them. The mode and the brackets above `d` do not depend on `d`. -/
theorem Reader.step_inside (mode : Mode) (e : Nat) (c : Char) (rest : List Char) :
    (∃ mode' e', ∀ d, (Reader.step ⟨mode, d + e + 1⟩ c rest).1 = ⟨mode', d + e' + 1⟩ ∧
        ∀ depth, (Reader.step ⟨mode, d + e + 1⟩ c rest).2 = .code depth → d < depth) ∨
      (isCloser c = true ∧ ∀ d, Reader.step ⟨mode, d + e + 1⟩ c rest = (⟨.code, d⟩, .code d)) := by
  have hquoted (mode' : Mode)
      (h : ∀ depth, Reader.step ⟨mode, depth⟩ c rest = (⟨mode', depth⟩, .quoted)) :
      ∃ mode' e', ∀ d, (Reader.step ⟨mode, d + e + 1⟩ c rest).1 = ⟨mode', d + e' + 1⟩ ∧
        ∀ depth, (Reader.step ⟨mode, d + e + 1⟩ c rest).2 = .code depth → d < depth := by
    refine ⟨mode', e, fun d => ?_⟩
    rw [h]
    exact ⟨rfl, by rintro depth ⟨⟩⟩
  cases mode with
  | code =>
    by_cases hquote : isQuote c = true
    · exact .inl (hquoted _ fun depth => by rw [Reader.step, if_pos hquote])
    by_cases hcloser : isCloser c = true
    · have hstep (d : Nat) : Reader.step ⟨.code, d + 1⟩ c rest = (⟨.code, d⟩, .code d) := by
        simp [Reader.step, hquote, hcloser]
      cases e with
      | zero => exact .inr ⟨hcloser, hstep⟩
      | succ e =>
        refine .inl ⟨.code, e, fun d => ?_⟩
        rw [hstep]
        exact ⟨rfl, by rintro depth ⟨⟩; omega⟩
    by_cases hopener : isOpener c = true
    · refine .inl ⟨.code, e + 1, fun d => ?_⟩
      rw [Reader.step_of_isOpener hopener]
      exact ⟨rfl, by rintro depth ⟨⟩; omega⟩
    · refine .inl ⟨.code, e, fun d => ?_⟩
      simp only [Reader.step, hquote, hcloser, hopener, Bool.false_eq_true, if_false]
      exact ⟨trivial, by rintro depth ⟨⟩; omega⟩
  | single q | escaped q | opening q left | triple q | closing left =>
    exact .inl (hquoted _ fun depth => rfl)

/-- The marks of a text that is read over `d` brackets with at least one more open: all are deeper
than `d`, up to the bracket that closes the last one of them. Where this is, does not depend on `d`. -/
theorem scanFrom_inside (mode : Mode) (e : Nat) (text : List Char) :
    (∀ d i, ∀ m ∈ scanFrom ⟨mode, d + e + 1⟩ i text, d < m.depth) ∨
      ∃ a c b, text = a ++ c :: b ∧ isCloser c = true ∧
        ∀ d i, ∃ inner : List Mark, (∀ m ∈ inner, d < m.depth) ∧
          scanFrom ⟨mode, d + e + 1⟩ i text =
            inner ++ ⟨i + a.length, c, d⟩ :: scanFrom ⟨.code, d⟩ (i + a.length + 1) b := by
  induction text generalizing mode e with
  | nil => exact .inl fun d i m hm => nomatch hm
  | cons c rest ih =>
    obtain ⟨mode', e', hstep⟩ | ⟨hcloser, hstep⟩ := Reader.step_inside mode e c rest
    · obtain hdeep | ⟨a, closer, b, rfl, hcloser, hsplit⟩ := ih mode' e'
      · refine .inl fun d i m hm => ?_
        obtain ⟨hplace, -, -⟩ | hm := mem_scanFrom_cons.1 hm
        · exact (hstep d).2 _ hplace
        · rw [(hstep d).1] at hm
          exact hdeep d (i + 1) m hm
      · refine .inr ⟨c :: a, closer, b, rfl, hcloser, fun d i => ?_⟩
        obtain ⟨inner, hinner, hscan⟩ := hsplit d (i + 1)
        have hindex : i + 1 + a.length = i + (c :: a).length := by rw [List.length_cons]; omega
        have hwhole := scanFrom_cons ⟨mode, d + e + 1⟩ i c (a ++ closer :: b)
        rw [(hstep d).1, hscan, hindex, ← List.append_assoc] at hwhole
        refine ⟨_, fun m hm => ?_, hwhole⟩
        obtain hm | hm := List.mem_append.1 hm
        · exact (hstep d).2 _ (Place.mem_marks.1 hm).1
        · exact hinner m hm
    · refine .inr ⟨[], c, rest, rfl, hcloser, fun d i => ⟨[], by simp, ?_⟩⟩
      rw [scanFrom_cons, hstep d]
      rfl

/-! ## The first closing bracket -/

/-- Among some marks, `close` is the first one after `m` that closes a bracket at the depth of
`m`. -/
structure IsFirstClose (marks : List Mark) (m close : Mark) : Prop where
  mem : close ∈ marks
  behind : m.index < close.index
  closes : isCloser close.char = true
  depth_eq : close.depth = m.depth
  first : ∀ n ∈ marks, m.index < n.index → isCloser n.char = true → n.depth = m.depth →
    close.index ≤ n.index

/-- The marks of a text on both sides of an opening bracket. -/
theorem scan_at_opener {text : List Char} {m : Mark} (hm : m ∈ scan text)
    (hopen : isOpener m.char = true) :
    ∃ front rest, text.drop m.index = m.char :: rest ∧ (∀ n ∈ front, n.index < m.index) ∧
      scan text = front ++ m :: scanFrom ⟨.code, m.depth + 1⟩ (m.index + 1) rest := by
  obtain ⟨front, a, rest, before, after, htext, hindex, hstep, hfront, hscan⟩ :=
    exists_of_mem_scanFrom hm
  have hbefore : before = ⟨.code, before.depth⟩ := by
    rw [← (Reader.step_code hstep).1]
  rw [hbefore, Reader.step_of_isOpener hopen] at hstep
  obtain ⟨rfl, hdepth⟩ := Prod.mk.inj hstep
  rw [Place.code.inj hdepth] at hscan
  refine ⟨front, rest, ?_, hfront, hscan⟩
  rw [hindex, Nat.zero_add, htext, List.drop_left]

/-- The search for the closing bracket is a scan of its own, which starts at the opening bracket. -/
theorem matchingClose_eq {text rest : List Char} {i : Nat} {c closer : Char}
    (hdrop : text.drop i = c :: rest) (hopen : isOpener c = true) (hpair : closerOf? c = some closer) :
    matchingClose text i =
      ((scanFrom ⟨.code, 1⟩ 1 rest).find? fun m => m.depth == 0 && isCloser m.char).bind fun m =>
        if m.char == closer then some (i + m.index) else none := by
  have hscan : scan (c :: rest) = ⟨0, c, 0⟩ :: scanFrom ⟨.code, 1⟩ 1 rest := by
    rw [scan, scanFrom_cons, Reader.step_of_isOpener hopen]
    rfl
  rw [matchingClose, hdrop]
  simp only [hpair, hscan, List.tail_cons]
  rfl

theorem find?_close_of_deep {marks : List Mark} (h : ∀ n ∈ marks, 0 < n.depth) :
    (marks.find? fun n => n.depth == 0 && isCloser n.char) = none := by
  refine List.find?_eq_none.2 fun n hn => ?_
  simp [Nat.ne_of_gt (h n hn)]

theorem exists_closerOf? {c : Char} (h : isOpener c = true) :
    ∃ closer, closerOf? c = some closer := by
  simp only [isOpener, Bool.or_eq_true, beq_iff_eq] at h
  obtain (rfl | rfl) | rfl := h <;> exact ⟨_, rfl⟩

section Sorted

variable {front inner more : List Mark} {m x : Mark}
  (hsorted : (front ++ m :: (inner ++ x :: more)).Pairwise fun a b => a.index < b.index)
include hsorted

theorem mem_behind {n : Mark} (hn : n ∈ front ++ m :: (inner ++ x :: more))
    (hbehind : m.index < n.index) : n ∈ inner ∨ n = x ∨ x.index < n.index := by
  obtain ⟨-, htail, hfront⟩ := List.pairwise_append.1 hsorted
  obtain ⟨-, hmore, -⟩ := List.pairwise_append.1 (List.pairwise_cons.1 htail).2
  obtain hn | hn := List.mem_append.1 hn
  · exact absurd hbehind (Nat.lt_asymm (hfront n hn m List.mem_cons_self))
  obtain rfl | hn := List.mem_cons.1 hn
  · exact absurd hbehind (Nat.lt_irrefl _)
  obtain hn | hn := List.mem_append.1 hn
  · exact .inl hn
  obtain rfl | hn := List.mem_cons.1 hn
  · exact .inr (.inl rfl)
  · exact .inr (.inr ((List.pairwise_cons.1 hmore).1 n hn))

/-- Among sorted marks the first closing bracket behind deeper marks is the first one of all. -/
theorem isFirstClose_iff {close : Mark} (hinner : ∀ n ∈ inner, m.depth < n.depth)
    (hdepth : x.depth = m.depth) (hcloser : isCloser x.char = true) :
    IsFirstClose (front ++ m :: (inner ++ x :: more)) m close ↔ close = x := by
  have hlater {n : Mark} (hn : n ∈ front ++ m :: (inner ++ x :: more))
      (hbehind : m.index < n.index) (hn' : n.depth = m.depth) : n = x ∨ x.index < n.index :=
    (mem_behind hsorted hn hbehind).resolve_left fun h => Nat.ne_of_gt (hinner n h) hn'
  have hx : x ∈ inner ++ x :: more := List.mem_append_right inner List.mem_cons_self
  have hmem : x ∈ front ++ m :: (inner ++ x :: more) :=
    List.mem_append_right front (List.mem_cons_of_mem m hx)
  have hbehind : m.index < x.index :=
    (List.pairwise_cons.1 (List.pairwise_append.1 hsorted).2.1).1 x hx
  constructor
  · intro h
    refine (hlater h.mem h.behind h.depth_eq).resolve_right (Nat.not_lt_of_le ?_)
    exact h.first x hmem hbehind hcloser hdepth
  · rintro rfl
    refine ⟨hmem, hbehind, hcloser, hdepth, fun n hn hbehind _ hn' => ?_⟩
    obtain rfl | hlt := hlater hn hbehind hn'
    · exact Nat.le_refl _
    · exact Nat.le_of_lt hlt

end Sorted

section Opener

variable {text rest : List Char} {front : List Mark} {m : Mark} {closer : Char}
  (hopen : isOpener m.char = true) (hpair : closerOf? m.char = some closer)
  (hdrop : text.drop m.index = m.char :: rest)
  (hscan : scan text = front ++ m :: scanFrom ⟨.code, m.depth + 1⟩ (m.index + 1) rest)
include hopen hpair hdrop hscan

/-- No bracket is found where none comes back to the depth of the opening one. -/
theorem matchingClose_of_unclosed (hfront : ∀ n ∈ front, n.index < m.index)
    (hdeep : ∀ d i, ∀ n ∈ scanFrom ⟨.code, d + 1⟩ i rest, d < n.depth) :
    matchingClose text m.index = none ∧ ∀ close, ¬ IsFirstClose (scan text) m close := by
  constructor
  · rw [matchingClose_eq hdrop hopen hpair, find?_close_of_deep (hdeep 0 1), Option.bind_none]
  · intro close hfirst
    have hmem := hfirst.mem
    rw [hscan] at hmem
    obtain hmem | hmem := List.mem_append.1 hmem
    · exact Nat.lt_asymm (hfront close hmem) hfirst.behind
    obtain rfl | hmem := List.mem_cons.1 hmem
    · exact Nat.lt_irrefl _ hfirst.behind
    · exact Nat.ne_of_gt (hdeep m.depth _ close hmem) hfirst.depth_eq

/-- The first bracket that comes back to the depth of the opening one is found if it is of the same
kind. -/
theorem matchingClose_of_closed {a b : List Char} {c : Char} (hcloser : isCloser c = true)
    (hsplit : ∀ d i, ∃ inner : List Mark, (∀ n ∈ inner, d < n.depth) ∧
      scanFrom ⟨.code, d + 1⟩ i rest =
        inner ++ ⟨i + a.length, c, d⟩ :: scanFrom ⟨.code, d⟩ (i + a.length + 1) b) :
    ∃ x : Mark, (∀ close, IsFirstClose (scan text) m close ↔ close = x) ∧
      matchingClose text m.index = (if x.char == closer then some x.index else none) ∧
        ∀ n ∈ scan text, m.index < n.index → n.index < x.index → m.depth < n.depth := by
  obtain ⟨inner₀, hinner₀, hlocal⟩ := hsplit 0 1
  obtain ⟨inner, hinner, hwhole⟩ := hsplit m.depth (m.index + 1)
  have hfind : ((scanFrom ⟨.code, 1⟩ 1 rest).find? fun n => n.depth == 0 && isCloser n.char) =
      some ⟨1 + a.length, c, 0⟩ := by
    have hlocal : scanFrom ⟨.code, 1⟩ 1 rest = _ := hlocal
    rw [hlocal, List.find?_append, find?_close_of_deep hinner₀, Option.none_or]
    simp [hcloser]
  have hindex : m.index + (1 + a.length) = m.index + 1 + a.length := by omega
  have hsorted : (scan text).Pairwise fun a b => a.index < b.index := pairwise_scanFrom {} 0 text
  rw [hwhole] at hscan
  rw [hscan] at hsorted ⊢
  refine ⟨⟨m.index + 1 + a.length, c, m.depth⟩, fun close => ?_, ?_, fun n hn hbehind hbefore => ?_⟩
  · exact isFirstClose_iff hsorted hinner rfl hcloser
  · rw [matchingClose_eq hdrop hopen hpair, hfind, Option.bind_some, hindex]
  · obtain hn | rfl | hn := mem_behind hsorted hn hbehind
    · exact hinner n hn
    · exact absurd hbefore (Nat.lt_irrefl _)
    · exact absurd hbefore (Nat.lt_asymm hn)

end Opener

/-- **The search for a closing bracket agrees with the scan of the whole text.** For an opening
bracket of code it finds a position if and only if the first closing bracket at the same depth stands
there and is of the same kind; all code between the two is deeper. -/
theorem matchingClose_iff_isFirstClose {text : List Char} {m : Mark} (hm : m ∈ scan text)
    (hopen : isOpener m.char = true) (j : Nat) :
    (matchingClose text m.index = some j ↔
        ∃ close, IsFirstClose (scan text) m close ∧ close.index = j ∧
          text[j]? = closerOf? m.char) ∧
      (matchingClose text m.index = some j →
        ∀ n ∈ scan text, m.index < n.index → n.index < j → m.depth < n.depth) := by
  obtain ⟨front, rest, hdrop, hfront, hscan⟩ := scan_at_opener hm hopen
  obtain ⟨closer, hpair⟩ := exists_closerOf? hopen
  obtain hdeep | ⟨a, c, b, -, hcloser, hsplit⟩ := scanFrom_inside .code 0 rest
  · obtain ⟨hnone, hfirst⟩ := matchingClose_of_unclosed hopen hpair hdrop hscan hfront hdeep
    rw [hnone]
    refine ⟨⟨fun h => ?_, ?_⟩, fun h => ?_⟩
    · cases h
    · rintro ⟨close, hclose, -, -⟩
      exact (hfirst close hclose).elim
    · cases h
  · obtain ⟨x, hfirst, hmatch, hbetween⟩ :=
      matchingClose_of_closed hopen hpair hdrop hscan hcloser hsplit
    have hx : text[x.index]? = some x.char := getElem?_of_mem_scan ((hfirst x).2 rfl).mem
    rw [hmatch, hpair]
    simp only [hfirst, exists_eq_left]
    by_cases hkind : x.char = closer
    · rw [if_pos (beq_iff_eq.2 hkind), Option.some.injEq]
      refine ⟨⟨fun h => ⟨h, ?_⟩, fun h => h.1⟩, ?_⟩
      · rw [← h, hx, hkind]
      · rintro rfl
        exact hbetween
    · rw [if_neg (by simpa using hkind)]
      refine ⟨⟨fun h => ?_, ?_⟩, fun h => ?_⟩
      · cases h
      · rintro ⟨rfl, hchar⟩
        rw [hx] at hchar
        exact (hkind (Option.some.inj hchar)).elim
      · cases h

/-- A bracket inside another one, behind a closing bracket that closes nothing. -/
theorem matchingClose_iff_isFirstClose_nested :
    let text := ")(['(', [0]], 1)".toList
    (⟨2, '[', 1⟩ : Mark) ∈ scan text ∧ isOpener '[' = true ∧ matchingClose text 2 = some 11 ∧
      (∃ close, IsFirstClose (scan text) ⟨2, '[', 1⟩ close ∧ close.index = 11 ∧
        text[11]? = closerOf? '[') ∧
      ∀ n ∈ scan text, 2 < n.index → n.index < 11 → 1 < n.depth := by
  intro text
  have hmem : (⟨2, '[', 1⟩ : Mark) ∈ scan text := by decide
  have hmatch : matchingClose text 2 = some 11 := by decide
  obtain ⟨hiff, hbetween⟩ := matchingClose_iff_isFirstClose hmem rfl 11
  exact ⟨hmem, rfl, hmatch, hiff.1 hmatch, hbetween hmatch⟩

end SnippetGrader.Source
