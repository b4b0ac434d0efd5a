import Mathlib.Data.List.TakeWhile
import SnippetGrader.Proofs.Output

/-!
# Physical lines

The text of one physical line and the way a source is cut into such lines. Trimming takes blanks
off one end at a time, in either order; expanding tabs goes through a line from the left and turns
blanks into blanks. A source is cut at its line feeds, and a carriage return in front of a line feed
belongs to the line end.
-/

namespace SnippetGrader.Layout

open Text Source

/-! ## Trimming -/

theorem trimEnd_cons (c : Char) (rest : List Char) :
    trimEnd (c :: rest) =
      if trimEnd rest = [] ∧ isBlank c = true then [] else c :: trimEnd rest := by
  unfold trimEnd dropEndWhile
  rw [List.reverse_cons, List.dropWhile_append]
  by_cases h : rest.reverse.dropWhile isBlank = []
  · by_cases hc : isBlank c = true <;> simp [h, hc]
  · simp [h]

theorem trimEnd_append_blank (a : List Char) {b : List Char} (hb : ∀ c ∈ b, isBlank c = true) :
    trimEnd (a ++ b) = trimEnd a := by
  have hreverse : ∀ c ∈ b.reverse, isBlank c = true := fun c hc => hb c (List.mem_reverse.1 hc)
  rw [trimEnd, dropEndWhile, List.reverse_append, List.dropWhile_append_of_pos hreverse]
  rfl

theorem trimEnd_blank {text : List Char} (h : ∀ c ∈ text, isBlank c = true) :
    trimEnd text = [] := by
  rw [← List.nil_append text, trimEnd_append_blank [] h]
  rfl

theorem exists_trimEnd (text : List Char) :
    ∃ blanks, (∀ c ∈ blanks, isBlank c = true) ∧ text = trimEnd text ++ blanks := by
  refine ⟨(text.reverse.takeWhile isBlank).reverse, fun c hc => ?_, ?_⟩
  · exact List.mem_takeWhile_imp (List.mem_reverse.1 hc)
  · rw [trimEnd, dropEndWhile, ← List.reverse_append, List.takeWhile_append_dropWhile,
      List.reverse_reverse]

theorem trimEnd_eq_nil {text : List Char} : trimEnd text = [] ↔ ∀ c ∈ text, isBlank c = true := by
  refine ⟨fun h => ?_, trimEnd_blank⟩
  obtain ⟨blanks, hblanks, htext⟩ := exists_trimEnd text
  rw [htext, h]
  exact hblanks

theorem trimEnd_append {c : Char} (hc : isBlank c = false) (a b : List Char) :
    trimEnd (a ++ c :: b) = a ++ c :: trimEnd b := by
  induction a with
  | nil =>
    have hnot : ¬ (trimEnd b = [] ∧ isBlank c = true) := fun h => by rw [hc] at h; cases h.2
    rw [List.nil_append, List.nil_append, trimEnd_cons, if_neg hnot]
  | cons d a ih =>
    have hnot : ¬ (trimEnd (a ++ c :: b) = [] ∧ isBlank d = true) := fun h => by
      rw [ih] at h
      exact absurd h.1 (by simp)
    rw [List.cons_append, trimEnd_cons, if_neg hnot, ih, List.cons_append]

theorem trimEnd_trimEnd (text : List Char) : trimEnd (trimEnd text) = trimEnd text := by
  obtain ⟨blanks, hblanks, htext⟩ := exists_trimEnd text
  conv_rhs => rw [htext, trimEnd_append_blank _ hblanks]

theorem isBlank_getLast?_trimEnd {text : List Char} {c : Char} (h : c ∈ (trimEnd text).getLast?) :
    isBlank c = false := by
  rw [trimEnd, dropEndWhile, List.getLast?_reverse] at h
  have hhead := List.head?_dropWhile_not isBlank text.reverse
  rwa [Option.mem_def.1 h] at hhead

theorem trimEnd_eq_self {text : List Char} (h : ∀ c ∈ text.getLast?, isBlank c = false) :
    trimEnd text = text := by
  rw [← List.head?_reverse] at h
  rw [trimEnd, dropEndWhile, List.reverse_eq_iff]
  cases hreverse : text.reverse with
  | nil => rfl
  | cons c rest => rw [List.dropWhile_cons, h c (by rw [hreverse]; rfl)]; rfl

/-- The two ends may be trimmed in either order. -/
theorem trim_eq (text : List Char) : trim text = trimStart (trimEnd text) := by
  induction text with
  | nil => rfl
  | cons c rest ih =>
    by_cases hc : isBlank c = true
    · have hstart (more : List Char) : trimStart (c :: more) = trimStart more :=
        List.dropWhile_cons_of_pos hc
      rw [trim, hstart, ← trim, ih, trimEnd_cons]
      by_cases hrest : trimEnd rest = []
      · rw [hrest, if_pos ⟨rfl, hc⟩]
      · rw [if_neg (fun h => hrest h.1), hstart]
    · have hstart (more : List Char) : trimStart (c :: more) = c :: more :=
        List.dropWhile_cons_of_neg hc
      rw [trim, hstart, trimEnd_cons, if_neg (fun h => hc h.2), hstart]

theorem trim_congr {a b : List Char} (h : trimEnd a = trimEnd b) : trim a = trim b := by
  rw [trim_eq, trim_eq, h]

theorem getLast?_trim (text : List Char) : (trim text).getLast? = (trimEnd text).getLast? := by
  have hsplit : (trimEnd text).takeWhile isBlank ++ trim text = trimEnd text := by
    rw [trim_eq]
    exact List.takeWhile_append_dropWhile
  by_cases hnil : trim text = []
  · -- all that is left at the end is blank, so nothing is left
    rw [hnil, List.append_nil, List.takeWhile_eq_self_iff] at hsplit
    rw [hnil, ← trimEnd_trimEnd, trimEnd_blank hsplit]
  · conv_rhs => rw [← hsplit, List.getLast?_append, List.getLast?_eq_some_getLast hnil]
    rw [List.getLast?_eq_some_getLast hnil, Option.some_or]

theorem trim_eq_nil {text : List Char} : trim text = [] ↔ trimEnd text = [] := by
  rw [← List.getLast?_eq_none_iff, getLast?_trim, List.getLast?_eq_none_iff]

theorem isBlank_head?_trim {text : List Char} {c : Char} (h : c ∈ (trim text).head?) :
    isBlank c = false := by
  rw [trim_eq, trimStart] at h
  have hhead := List.head?_dropWhile_not isBlank (trimEnd text)
  rwa [Option.mem_def.1 h] at hhead

theorem trim_eq_self_iff {text : List Char} :
    trim text = text ↔
      (∀ c ∈ text.head?, isBlank c = false) ∧ ∀ c ∈ text.getLast?, isBlank c = false := by
  constructor
  · intro h
    have hlast : text.getLast? = (trimEnd text).getLast? := by rw [← getLast?_trim, h]
    refine ⟨fun c hc => ?_, fun c hc => ?_⟩
    · rw [← h] at hc
      exact isBlank_head?_trim hc
    · rw [hlast] at hc
      exact isBlank_getLast?_trimEnd hc
  · rintro ⟨hhead, hlast⟩
    rw [trim_eq, trimEnd_eq_self hlast]
    cases text with
    | nil => rfl
    | cons c rest => rw [trimStart, List.dropWhile_cons, hhead c rfl]; rfl

theorem trim_trim (text : List Char) : trim (trim text) = trim text := by
  refine trim_eq_self_iff.2 ⟨fun c hc => isBlank_head?_trim hc, fun c hc => ?_⟩
  rw [getLast?_trim] at hc
  exact isBlank_getLast?_trimEnd hc

theorem trim_append_left {a : List Char} (ha : ∀ c ∈ a, isBlank c = true) (text : List Char) :
    trim (a ++ text) = trim text := by
  rw [trim, trimStart, List.dropWhile_append_of_pos ha]
  rfl

theorem exists_trim (text : List Char) :
    ∃ front back, (∀ c ∈ front, isBlank c = true) ∧ (∀ c ∈ back, isBlank c = true) ∧
      text = front ++ (trim text ++ back) := by
  obtain ⟨back, hback, htrim⟩ := exists_trimEnd (trimStart text)
  refine ⟨text.takeWhile isBlank, back, fun c hc => List.mem_takeWhile_imp hc, hback, ?_⟩
  rw [trim, ← htrim]
  exact List.takeWhile_append_dropWhile.symm

theorem mem_of_mem_trimEnd {text : List Char} {c : Char} (h : c ∈ trimEnd text) : c ∈ text := by
  obtain ⟨blanks, -, htext⟩ := exists_trimEnd text
  rw [htext]
  exact List.mem_append_left blanks h

theorem mem_of_mem_trim {text : List Char} {c : Char} (h : c ∈ trim text) : c ∈ text :=
  (List.dropWhile_suffix _).subset (mem_of_mem_trimEnd h)

theorem mem_trimEnd_of_mem {text : List Char} {c : Char} (h : c ∈ text) (hc : isBlank c = false) :
    c ∈ trimEnd text := by
  obtain ⟨blanks, hblanks, htext⟩ := exists_trimEnd text
  rw [htext, List.mem_append] at h
  refine h.resolve_right fun hmem => ?_
  rw [hblanks c hmem] at hc
  cases hc

theorem mem_trimStart_of_mem {text : List Char} {c : Char} (h : c ∈ text)
    (hc : isBlank c = false) : c ∈ trimStart text := by
  rw [← List.takeWhile_append_dropWhile (p := isBlank) (l := text), List.mem_append] at h
  refine h.resolve_left fun hmem => ?_
  rw [List.mem_takeWhile_imp hmem] at hc
  cases hc

theorem mem_trim_of_mem {text : List Char} {c : Char} (h : c ∈ text) (hc : isBlank c = false) :
    c ∈ trim text :=
  mem_trimEnd_of_mem (mem_trimStart_of_mem h hc) hc

theorem isBlank_of_mem_spaces {n : Nat} {c : Char} (h : c ∈ List.replicate n ' ') :
    isBlank c = true := by
  rw [List.eq_of_mem_replicate h]
  rfl

/-! ## Tabs -/

/-- A tab becomes spaces, at least one. -/
theorem expandTabsFrom_tab (column : Nat) :
    ∃ n after, ∀ rest, expandTabsFrom 4 column ('\t' :: rest) =
      List.replicate (n + 1) ' ' ++ expandTabsFrom 4 after rest := by
  refine ⟨3 - column % 4, column + (4 - column % 4), fun rest => ?_⟩
  have hpad : 3 - column % 4 + 1 = 4 - column % 4 := by omega
  rw [hpad]
  rfl

theorem expandTabsFrom_cons {c : Char} (h : c ≠ '\t') (column : Nat) :
    ∃ after, ∀ rest, expandTabsFrom 4 column (c :: rest) =
      c :: expandTabsFrom 4 after rest := by
  have htab : (c == '\t') = false := beq_false_of_ne h
  simp only [expandTabsFrom, htab, Bool.false_eq_true, if_false]
  split
  · exact ⟨0, fun rest => rfl⟩
  · exact ⟨column + 1, fun rest => rfl⟩

theorem expandTabsFrom_eq_self {text : List Char} (h : '\t' ∉ text) (column : Nat) :
    expandTabsFrom 4 column text = text := by
  induction text generalizing column with
  | nil => rfl
  | cons c rest ih =>
    rw [List.mem_cons, not_or] at h
    obtain ⟨after, hcons⟩ := expandTabsFrom_cons (Ne.symm h.1) column
    rw [hcons, ih h.2]

/-- A text starts with the same character after its tabs are expanded, unless that is a blank. -/
theorem head?_expandTabsFrom {c : Char} (hspace : c ≠ ' ') (htab : c ≠ '\t') (column : Nat)
    (text : List Char) :
    ((expandTabsFrom 4 column text).head? == some c) = (text.head? == some c) := by
  cases text with
  | nil => rfl
  | cons d rest =>
    by_cases hd : d = '\t'
    · subst hd
      obtain ⟨n, after, hcons⟩ := expandTabsFrom_tab column
      rw [hcons, List.replicate_succ, List.cons_append, List.head?_cons, List.head?_cons,
        beq_eq_false_iff_ne.2 fun heq => hspace (Option.some.inj heq).symm,
        beq_eq_false_iff_ne.2 fun heq => htab (Option.some.inj heq).symm]
    · obtain ⟨after, hcons⟩ := expandTabsFrom_cons hd column
      rw [hcons, List.head?_cons, List.head?_cons]

theorem trimStart_expandTabsFrom (column : Nat) (text : List Char) :
    ∃ after,
      trimStart (expandTabsFrom 4 column text) = expandTabsFrom 4 after (trimStart text) := by
  induction text generalizing column with
  | nil => exact ⟨column, rfl⟩
  | cons c rest ih =>
    by_cases htab : c = '\t'
    · subst htab
      obtain ⟨n, column', hcons⟩ := expandTabsFrom_tab column
      obtain ⟨after, hrest⟩ := ih column'
      refine ⟨after, ?_⟩
      rw [hcons, trimStart, List.dropWhile_append_of_pos fun d => isBlank_of_mem_spaces]
      exact hrest
    · obtain ⟨column', hcons⟩ := expandTabsFrom_cons htab column
      by_cases hblank : isBlank c = true
      · obtain ⟨after, hrest⟩ := ih column'
        refine ⟨after, ?_⟩
        rw [hcons, trimStart, List.dropWhile_cons_of_pos hblank, trimStart,
          List.dropWhile_cons_of_pos hblank]
        exact hrest
      · refine ⟨column, ?_⟩
        rw [hcons, trimStart, List.dropWhile_cons_of_neg hblank, trimStart,
          List.dropWhile_cons_of_neg hblank, hcons]

/-- The column after a text. -/
def columnAfter (column : Nat) : List Char → Nat
  | [] => column
  | c :: rest =>
    if c == '\t' then columnAfter (column + (4 - column % 4)) rest
    else if c == '\n' || c == '\r' then columnAfter 0 rest
    else columnAfter (column + 1) rest

/-- Tabs of a text are written as spaces from left to right. -/
theorem expandTabsFrom_append (column : Nat) (a b : List Char) :
    expandTabsFrom 4 column (a ++ b) =
      expandTabsFrom 4 column a ++ expandTabsFrom 4 (columnAfter column a) b := by
  induction a generalizing column with
  | nil => rfl
  | cons c rest ih =>
    simp only [List.cons_append, expandTabsFrom, columnAfter]
    split
    · simp [ih]
    · split <;> simp [ih]

theorem mem_expandTabsFrom {column : Nat} {text : List Char} {c : Char}
    (h : c ∈ expandTabsFrom 4 column text) : c = ' ' ∨ c ∈ text := by
  induction text generalizing column with
  | nil => cases h
  | cons d rest ih =>
    by_cases htab : d = '\t'
    · subst htab
      obtain ⟨n, after, hcons⟩ := expandTabsFrom_tab column
      rw [hcons] at h
      obtain h | h := List.mem_append.1 h
      · exact .inl (List.eq_of_mem_replicate h)
      · exact (ih h).imp_right (List.mem_cons_of_mem _)
    · obtain ⟨after, hcons⟩ := expandTabsFrom_cons htab column
      rw [hcons] at h
      obtain rfl | h := List.mem_cons.1 h
      · exact .inr List.mem_cons_self
      · exact (ih h).imp_right (List.mem_cons_of_mem d)

theorem tab_not_mem_expandTabsFrom (column : Nat) (text : List Char) :
    '\t' ∉ expandTabsFrom 4 column text := by
  induction text generalizing column with
  | nil => exact List.not_mem_nil
  | cons c rest ih =>
    by_cases htab : c = '\t'
    · subst htab
      obtain ⟨n, after, hcons⟩ := expandTabsFrom_tab column
      rw [hcons, List.mem_append, not_or]
      exact ⟨fun hspace => absurd (List.eq_of_mem_replicate hspace) (by decide), ih after⟩
    · obtain ⟨after, hcons⟩ := expandTabsFrom_cons htab column
      rw [hcons, List.mem_cons, not_or]
      exact ⟨Ne.symm htab, ih after⟩

theorem mem_expandTabsFrom_of_mem (column : Nat) {text : List Char} {c : Char} (h : c ∈ text)
    (hc : c ≠ '\t') : c ∈ expandTabsFrom 4 column text := by
  induction text generalizing column with
  | nil => cases h
  | cons d rest ih =>
    by_cases htab : d = '\t'
    · subst htab
      obtain ⟨n, after, hcons⟩ := expandTabsFrom_tab column
      rw [hcons]
      exact List.mem_append_right _ (ih after (List.mem_of_ne_of_mem hc h))
    · obtain ⟨after, hcons⟩ := expandTabsFrom_cons htab column
      rw [hcons, List.mem_cons]
      exact (List.mem_cons.1 h).imp_right (ih after)

theorem trimEnd_expandTabsFrom (column : Nat) (text : List Char) :
    trimEnd (expandTabsFrom 4 column text) =
      trimEnd (expandTabsFrom 4 column (trimEnd text)) := by
  obtain ⟨blanks, hblanks, htext⟩ := exists_trimEnd text
  have hwide : ∀ c ∈ expandTabsFrom 4 (columnAfter column (trimEnd text)) blanks,
      isBlank c = true := by
    intro c hc
    obtain rfl | hc := mem_expandTabsFrom hc
    · rfl
    · exact hblanks c hc
  conv_lhs => rw [htext, expandTabsFrom_append, trimEnd_append_blank _ hwide]

theorem getLast?_expandTabsFrom {text : List Char} {c : Char} (h : text.getLast? = some c)
    (htab : c ≠ '\t') (column : Nat) : (expandTabsFrom 4 column text).getLast? = some c := by
  obtain ⟨front, rfl⟩ := List.getLast?_eq_some_iff.1 h
  obtain ⟨after, hcons⟩ := expandTabsFrom_cons htab (columnAfter column front)
  rw [expandTabsFrom_append, hcons, expandTabsFrom, List.getLast?_concat]

theorem getLast?_trimEnd_expandTabsFrom (column : Nat) (text : List Char) :
    (trimEnd (expandTabsFrom 4 column text)).getLast? = (trimEnd text).getLast? := by
  rw [trimEnd_expandTabsFrom]
  cases hlast : (trimEnd text).getLast? with
  | none =>
    rw [List.getLast?_eq_none_iff] at hlast
    rw [hlast]
    rfl
  | some c =>
    have htab : c ≠ '\t' := by
      rintro rfl
      exact absurd (isBlank_getLast?_trimEnd hlast) (by decide)
    have hwide := getLast?_expandTabsFrom hlast htab column
    rw [trimEnd_eq_self (by rw [hwide]; rintro d ⟨⟩; exact isBlank_getLast?_trimEnd hlast), hwide]

theorem expandTabsFrom_spaces (column n : Nat) (text : List Char) :
    expandTabsFrom 4 column (List.replicate n ' ' ++ text) =
      List.replicate n ' ' ++ expandTabsFrom 4 (column + n) text := by
  induction n generalizing column with
  | zero => rfl
  | succ n ih =>
    have hcons (rest : List Char) : expandTabsFrom 4 column (' ' :: rest) =
        ' ' :: expandTabsFrom 4 (column + 1) rest := rfl
    rw [List.replicate_succ, List.cons_append, hcons, ih, Nat.add_assoc, Nat.add_comm 1,
      List.cons_append]

/-- A text without blanks at its ends has none there after its tabs are expanded. -/
theorem trim_expandTabsFrom {text : List Char} (h : trim text = text) (column : Nat) :
    trim (expandTabsFrom 4 column text) = expandTabsFrom 4 column text := by
  rw [trim_eq_self_iff] at h ⊢
  cases text with
  | nil => exact h
  | cons c rest =>
    have hc : isBlank c = false := h.1 c rfl
    have htab : c ≠ '\t' := by
      rintro rfl
      exact absurd hc (by decide)
    obtain ⟨after, hcons⟩ := expandTabsFrom_cons htab column
    have hlast := List.getLast?_eq_some_getLast (List.cons_ne_nil c rest)
    have hblank := h.2 _ hlast
    have hlastTab : (c :: rest).getLast (List.cons_ne_nil c rest) ≠ '\t' := fun heq => by
      rw [heq] at hblank
      cases hblank
    rw [getLast?_expandTabsFrom hlast hlastTab, hcons]
    exact ⟨by rintro d ⟨⟩; exact hc, by rintro d ⟨⟩; exact hblank⟩

/-! ## Cutting a source into lines -/

theorem mem_of_mem_cutAt {sep c : Char} {text piece : List Char} (hpiece : piece ∈ cutAt sep text)
    (hc : c ∈ piece) : c ∈ text := by
  induction text generalizing piece with
  | nil =>
    rw [cutAt, List.mem_singleton] at hpiece
    rwa [hpiece] at hc
  | cons d rest ih =>
    obtain ⟨first, more, hcut⟩ := List.exists_cons_of_ne_nil (cutAt_ne_nil sep rest)
    rw [hcut] at ih
    simp only [cutAt, hcut] at hpiece
    split at hpiece
    · obtain rfl | hpiece := List.mem_cons.1 hpiece
      · cases hc
      · exact List.mem_cons_of_mem d (ih hpiece hc)
    · obtain rfl | hpiece := List.mem_cons.1 hpiece
      · obtain rfl | hc := List.mem_cons.1 hc
        · exact List.mem_cons_self
        · exact List.mem_cons_of_mem d (ih List.mem_cons_self hc)
      · exact List.mem_cons_of_mem d (ih (List.mem_cons_of_mem first hpiece) hc)

/-- A text in which each line feed takes the carriage return in front of it with it. -/
def mergeReturns : List Char → List Char
  | '\r' :: '\n' :: rest => '\n' :: mergeReturns rest
  | c :: rest => c :: mergeReturns rest
  | [] => []

theorem cutAroundFrom_ne_nil (sep : List Char) (limit skip : Nat) (piece text : List Char) :
    cutAroundFrom sep limit skip piece text ≠ [] := by
  induction text generalizing limit skip piece with
  | nil => simp [cutAroundFrom]
  | cons c rest ih =>
    simp only [cutAroundFrom]
    split
    · exact ih limit (skip - 1) piece
    · split
      · simp
      · exact ih limit 0 (c :: piece)

theorem replaceAll_eq_mergeReturns (source : List Char) :
    replaceAll ['\r', '\n'] ['\n'] source = mergeReturns source := by
  have hcut (limit : Nat) (piece text : List Char) (hlimit : text.length < limit) :
      ['\n'].intercalate (cutAroundFrom ['\r', '\n'] limit 0 piece text) =
        piece.reverse ++ mergeReturns text := by
    induction text using mergeReturns.induct generalizing limit piece with
    | case1 rest ih =>
      have hrest := ih (limit - 1) [] (by simp only [List.length_cons] at hlimit; omega)
      have hne := cutAroundFrom_ne_nil ['\r', '\n'] (limit - 1) 0 [] rest
      have hpos : 0 < limit := by omega
      simp [cutAroundFrom, mergeReturns, hpos, List.intercalate_cons_of_ne_nil hne, hrest]
    | case2 c rest hc ih =>
      have hprefix : ['\r', '\n'].isPrefixOf (c :: rest) = false := by
        rw [Bool.eq_false_iff]
        intro hstart
        obtain ⟨more, hmore⟩ := List.isPrefixOf_iff_prefix.1 hstart
        cases hmore
        exact hc more rfl rfl
      have hrest := ih limit (c :: piece) (by simp only [List.length_cons] at hlimit; omega)
      rw [cutAroundFrom, hprefix, mergeReturns]
      · simp [hrest]
      · exact hc
    | case3 => simp [cutAroundFrom, mergeReturns]
  have hne : (['\r', '\n'] : List Char).isEmpty = false := rfl
  rw [replaceAll, replaceUpTo, hne, cutAround, hcut _ _ _ (Nat.lt_succ_self _)]
  simp

def dropReturn (line : List Char) : List Char :=
  if line.getLast? = some '\r' then line.dropLast else line

theorem exists_dropReturn (line : List Char) :
    ∃ blanks, (∀ c ∈ blanks, isBlank c = true) ∧ line = dropReturn line ++ blanks := by
  unfold dropReturn
  split
  · next hlast =>
    obtain ⟨front, rfl⟩ := List.getLast?_eq_some_iff.1 hlast
    exact ⟨['\r'], List.forall_mem_singleton.2 (by decide), by rw [List.dropLast_concat]⟩
  · exact ⟨[], by simp, by rw [List.append_nil]⟩

/-- Lines of which all but the last lose the carriage return at their end. -/
def dropReturns : List (List Char) → List (List Char)
  | line :: next :: more => dropReturn line :: dropReturns (next :: more)
  | lines => lines

/-- A line that starts with a line feed is empty. -/
theorem eq_newline_of_cutAt {rest next : List Char} {more : List (List Char)}
    (h : cutAt '\n' rest = [] :: next :: more) : ∃ tail, rest = '\n' :: tail := by
  cases rest with
  | nil => cases h
  | cons d tail =>
    obtain ⟨first, others, hcut⟩ := List.exists_cons_of_ne_nil (cutAt_ne_nil '\n' tail)
    by_cases hd : d = '\n'
    · exact ⟨tail, by rw [hd]⟩
    · simp [cutAt, hd, hcut] at h

theorem dropReturn_cons {c : Char} {line : List Char} (h : c = '\r' → line ≠ []) :
    dropReturn (c :: line) = c :: dropReturn line := by
  cases line with
  | nil =>
    have hc : c ≠ '\r' := fun hc => h hc rfl
    simp [dropReturn, hc]
  | cons d line =>
    simp only [dropReturn, List.getLast?_cons_cons, List.dropLast_cons_cons]
    split <;> rfl

/-- The physical lines of a source are what stands between its line feeds, less the carriage
returns in front of these. -/
theorem physicalLines_eq (source : List Char) :
    physicalLines source = dropReturns (cutAt '\n' source) := by
  rw [physicalLines, replaceAll_eq_mergeReturns]
  induction source using mergeReturns.induct with
  | case1 rest ih =>
    obtain ⟨piece, more, hcut⟩ := List.exists_cons_of_ne_nil (cutAt_ne_nil '\n' rest)
    simp [mergeReturns, cutAt, ih, hcut, dropReturns, dropReturn]
  | case2 c rest hc ih =>
    obtain ⟨piece, more, hcut⟩ := List.exists_cons_of_ne_nil (cutAt_ne_nil '\n' rest)
    rw [mergeReturns, cutAt, cutAt, ih, hcut]
    · by_cases hnl : c = '\n'
      · simp [hnl, dropReturns, dropReturn]
      · cases more with
        | nil => simp [hnl, dropReturns]
        | cons next more =>
          have hpiece : c = '\r' → piece ≠ [] := by
            rintro rfl rfl
            obtain ⟨tail, rfl⟩ := eq_newline_of_cutAt hcut
            exact hc tail rfl rfl
          simp [hnl, dropReturns, dropReturn_cons hpiece]
    · exact hc
  | case3 => rfl

/-- No line is joined to a complete statement. -/
theorem gather_of_complete {buffer : List Char} (h : isOpen buffer = false)
    (rest : List (List Char)) : gather buffer rest = (buffer, 0) := by
  cases rest with
  | nil => rfl
  | cons next rest => simp [gather, h]

end SnippetGrader.Layout
