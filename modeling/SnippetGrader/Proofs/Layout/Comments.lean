import Mathlib.Data.List.Forall2
import SnippetGrader.Proofs.Layout.Coverage

/-!
# Comments

What a comment does to the logical lines of a source without quotation marks. A comment that ends
its statement leaves no trace: the lines are those of the source without it. A comment inside an
open bracket does not end its statement; as it hides the bracket that would close the statement, all
that follows is joined to it and lost. So `splitLines_dropComments` and `splitLines_hidden` are two
results: what comments do that end their statements, and what the first one does in an open bracket.
-/

namespace SnippetGrader.Layout

open Text Source

/-- A source of which every line is cut just before its first `#`. -/
def dropComments (source : List Char) : List Char :=
  ['\n'].intercalate ((cutAt '\n' source).map codePart)

/-- Whether every comment ends its statement, where `depth` brackets are open before the lines and
`joined` says that a backslash joins them to the line before. A comment may also stand on a line of
its own between two statements. -/
def commentsEnd (depth : Nat) (joined : Bool) : List (List Char) → Bool
  | [] => true
  | line :: rest =>
    let code := codePart line
    let after := depthAfter depth code
    if line.contains '#' then
      (depth == 0 && !joined && code.all isBlank ||
        after == 0 && !continues code && !continues line) && commentsEnd after false rest
    else commentsEnd after (continues line) rest

/-! ## A line and its code -/

/-- A line without quotation marks and the same line without its comment, blanks at the end
apart. -/
structure SameCode (a b : List Char) : Prop where
  code : trimEnd (codePart a) = trimEnd b
  plain : '#' ∉ b
  left : ∀ c ∈ a, isQuote c = false
  right : ∀ c ∈ b, isQuote c = false

theorem sameCode_codePart {line : List Char} (h : ∀ c ∈ line, isQuote c = false) :
    SameCode line (codePart line) :=
  ⟨rfl, not_mem_codePart line, h, fun c hc => h c (mem_of_mem_codePart hc)⟩

theorem sameCode_dropReturn {line : List Char} (h : ∀ c ∈ line, isQuote c = false) :
    SameCode (dropReturn line) (dropReturn (codePart line)) := by
  obtain ⟨blanks, hblanks, hline⟩ := exists_dropReturn line
  obtain ⟨blanks', hblanks', hcode⟩ := exists_dropReturn (codePart line)
  have hmem {c : Char} (hc : c ∈ dropReturn (codePart line)) : c ∈ codePart line := by
    rw [hcode]
    exact List.mem_append_left _ hc
  refine ⟨?_, fun hc => not_mem_codePart line (hmem hc), fun c hc => h c ?_,
    fun c hc => h c (mem_of_mem_codePart (hmem hc))⟩
  · calc trimEnd (codePart (dropReturn line))
      _ = trimEnd (codePart line) := by conv_rhs => rw [hline, trimEnd_codePart_append _ hblanks]
      _ = trimEnd (dropReturn (codePart line)) := by
        conv_lhs => rw [hcode, trimEnd_append_blank _ hblanks']
  · rw [hline]
    exact List.mem_append_left _ hc

theorem forall₂_physicalLines {source : List Char} (h : ∀ c ∈ source, isQuote c = false) :
    List.Forall₂ SameCode (physicalLines source) (physicalLines (dropComments source)) := by
  have hpieces : cutAt '\n' (dropComments source) = (cutAt '\n' source).map codePart := by
    refine cutAt_intercalate (by simp [cutAt_ne_nil]) fun line hline hnl => ?_
    obtain ⟨piece, hpiece, rfl⟩ := List.mem_map.1 hline
    exact not_mem_cutAt hpiece (mem_of_mem_codePart hnl)
  have hlines : ∀ line ∈ cutAt '\n' source, ∀ c ∈ line, isQuote c = false :=
    fun line hline c hc => h c (mem_of_mem_cutAt hline hc)
  rw [physicalLines_eq, physicalLines_eq, hpieces]
  generalize cutAt '\n' source = lines at hlines
  induction lines using dropReturns.induct with
  | case1 line next more ih =>
    refine .cons (sameCode_dropReturn (hlines line List.mem_cons_self)) (ih ?_)
    exact fun l hl => hlines l (List.mem_cons_of_mem line hl)
  | case2 lines hshort =>
    obtain _ | ⟨line, _ | ⟨next, more⟩⟩ := lines
    · exact .nil
    · exact .cons (sameCode_codePart (hlines line List.mem_cons_self)) .nil
    · exact absurd rfl (hshort line next more)

namespace SameCode

variable {a b : List Char} (h : SameCode a b)
include h

theorem depthAfter (depth : Nat) :
    Layout.depthAfter depth b = Layout.depthAfter depth (codePart a) := by
  rw [← depthAfter_trimEnd, ← h.code, depthAfter_trimEnd]

theorem continues : Layout.continues b = Layout.continues (codePart a) := by
  rw [Layout.continues, Layout.continues, h.code]

theorem trim_eq_of_not_mem (hmem : '#' ∉ a) : trim a = trim b := by
  refine trim_congr ?_
  rw [← h.code, codePart_of_not_mem hmem]

end SameCode

theorem sameText_join {front : List Char} (hfront : ∀ c ∈ front, isQuote c = false)
    (hplain : '#' ∉ front) {a b : List Char} (h : SameCode a b) :
    SameText (front ++ ' ' :: trim a) (front ++ ' ' :: trim b) := by
  refine ⟨?_, unquoted_join hfront h.left, unquoted_join hfront h.right⟩
  have hcode : trimEnd (codePart (trim a)) = trimEnd (codePart (trim b)) := by
    rw [trimEnd_codePart_trim, trimEnd_codePart_trim, codePart_of_not_mem h.plain]
    exact trim_congr h.code
  refine trim_congr ?_
  rw [codePart_join hplain, codePart_join hplain]
  obtain ⟨blanks, hblanks, ha⟩ := exists_trimEnd (codePart (trim a))
  obtain ⟨blanks', hblanks', hb⟩ := exists_trimEnd (codePart (trim b))
  rw [ha, hb, hcode, ← List.cons_append, ← List.cons_append, ← List.append_assoc,
    ← List.append_assoc, trimEnd_append_blank _ hblanks, trimEnd_append_blank _ hblanks']


theorem commentsEnd_of_not_mem {line : List Char} (h : '#' ∉ line) (depth : Nat) (joined : Bool)
    (rest : List (List Char)) :
    commentsEnd depth joined (line :: rest) =
      commentsEnd (depthAfter depth line) (continues line) rest := by
  simp [commentsEnd, h, codePart_of_not_mem h]

/-- A comment after which its statement could go on is at the end of its statement. -/
theorem commentsEnd_of_mem {line : List Char} (h : '#' ∈ line) {depth : Nat} {joined : Bool}
    {rest : List (List Char)} (hend : commentsEnd depth joined (line :: rest) = true)
    (hgoes : depth ≠ 0 ∨ joined = true ∨ ¬∀ c ∈ codePart line, isBlank c = true) :
    depthAfter depth (codePart line) = 0 ∧ continues (codePart line) = false ∧
      continues line = false ∧ commentsEnd 0 false rest = true := by
  have hcontains : line.contains '#' = true := by simpa using h
  simp only [commentsEnd, hcontains, if_true, Bool.and_eq_true, Bool.or_eq_true, beq_iff_eq,
    Bool.not_eq_true', List.all_eq_true] at hend
  obtain ⟨⟨⟨hdepth, hjoined⟩, hblank⟩ | ⟨⟨hafter, hcode⟩, hline⟩, hrest⟩ := hend
  · obtain hgoes | hgoes | hgoes := hgoes
    · exact absurd hdepth hgoes
    · rw [hjoined] at hgoes
      cases hgoes
    · exact absurd hblank hgoes
  · rw [hafter] at hrest
    exact ⟨hafter, hcode, hline, hrest⟩

/-- A statement takes the same lines, whether their comments are there or not, if every comment
ends its statement. -/
theorem gather_sameCode {rest rest' : List (List Char)} (hrest : List.Forall₂ SameCode rest rest')
    {buffer : List Char} (hquote : ∀ c ∈ buffer, isQuote c = false) (hplain : '#' ∉ buffer)
    (hend : commentsEnd (depthAfter 0 buffer) (buffer.getLast? == some '\\') rest = true) :
    ∃ text text' used, gather buffer rest = (text, used) ∧ gather buffer rest' = (text', used) ∧
      SameText text text' ∧ commentsEnd 0 false (rest.drop used) = true := by
  induction hrest generalizing buffer with
  | nil => exact ⟨buffer, buffer, 0, rfl, rfl, ⟨rfl, hquote, hquote⟩, rfl⟩
  | @cons a b rest rest' hab hrest ih =>
    by_cases hopen : isOpen buffer = true
    · have hgoes := (isOpen_iff_of_plain hquote hplain).1 hopen
      rw [gather_of_open hquote hopen, gather_of_open hquote hopen]
      by_cases hmem : '#' ∈ a
      · obtain ⟨hdepth, hcode, hline, hend⟩ :=
          commentsEnd_of_mem hmem hend (hgoes.imp_right .inl)
        have ha := complete_join hquote hplain hab.left hdepth hline
        have hb := complete_join hquote hplain hab.right
          (by rw [codePart_of_not_mem hab.plain, hab.depthAfter, hdepth])
          (by rw [hab.continues, hcode])
        rw [gather_of_complete ha, gather_of_complete hb]
        exact ⟨_, _, 1, rfl, rfl,
          sameText_join (unquoted_stem hquote) (fun hc => hplain (mem_of_mem_stem hc)) hab, hend⟩
      · -- a line without a comment is the same on both sides, so the joined text is too
        rw [commentsEnd_of_not_mem hmem] at hend
        obtain ⟨text, text', used, ha, hb, htext, hend⟩ :=
          ih (unquoted_join (unquoted_stem hquote) hab.left) (plain_join hplain hmem)
            (by rwa [depthAfter_join_of_plain hplain hmem, getLast?_join])
        rw [← hab.trim_eq_of_not_mem hmem, ha, hb]
        exact ⟨text, text', used + 1, rfl, rfl, htext, hend⟩
    · rw [gather_of_complete (Bool.eq_false_iff.2 hopen),
        gather_of_complete (Bool.eq_false_iff.2 hopen)]
      rw [isOpen_iff_of_plain hquote hplain, not_or, not_not, Bool.not_eq_true] at hopen
      rw [hopen.1, hopen.2] at hend
      exact ⟨buffer, buffer, 0, rfl, rfl, ⟨rfl, hquote, hquote⟩, hend⟩

theorem takeWhile_space_append {code : List Char} (h : ¬∀ c ∈ code, isBlank c = true)
    (rest : List Char) : (code ++ rest).takeWhile (· == ' ') = code.takeWhile (· == ' ') := by
  rw [List.takeWhile_append, if_neg]
  intro hlength
  refine h fun c hc => ?_
  have hall := List.takeWhile_eq_self_iff.1
    ((List.takeWhile_prefix (l := code) (· == ' ')).eq_of_length hlength)
  rw [beq_iff_eq.1 (hall c hc)]
  rfl

namespace SameCode

variable {a b : List Char} (h : SameCode a b)
include h

theorem trimEnd_start : trimEnd (codePart (expandTabs 4 a)) = trimEnd (expandTabs 4 b) := by
  rw [expandTabs, expandTabs, codePart_expandTabsFrom, trimEnd_expandTabsFrom, h.code,
    ← trimEnd_expandTabsFrom]

theorem blank_iff : (∀ c ∈ codePart a, isBlank c = true) ↔ ∀ c ∈ codePart b, isBlank c = true := by
  rw [← trimEnd_eq_nil, ← trimEnd_eq_nil, h.code, codePart_of_not_mem h.plain]

theorem sameText_start : SameText (trim (expandTabs 4 a)) (trim (expandTabs 4 b)) := by
  refine ⟨trim_congr ?_, unquoted_start h.left, unquoted_start h.right⟩
  rw [codePart_of_not_mem (plain_start h.plain), trimEnd_codePart_trim,
    trim_congr h.trimEnd_start, trim, trimEnd_trimEnd]

theorem indent (hcode : ¬∀ c ∈ codePart a, isBlank c = true) :
    (expandTabs 4 a).takeWhile (· == ' ') = (expandTabs 4 b).takeWhile (· == ' ') := by
  have hwide : ¬∀ c ∈ trimEnd (codePart (expandTabs 4 a)), isBlank c = true := by
    rwa [← trimEnd_eq_nil, trimEnd_trimEnd, expandTabs, codePart_expandTabsFrom,
      ← List.getLast?_eq_none_iff, getLast?_trimEnd_expandTabsFrom, List.getLast?_eq_none_iff,
      trimEnd_eq_nil]
  obtain ⟨rest, hrest⟩ : ∃ rest, codePart (expandTabs 4 a) ++ rest = expandTabs 4 a :=
    List.takeWhile_prefix _
  obtain ⟨blanks, -, hblanks⟩ := exists_trimEnd (codePart (expandTabs 4 a))
  obtain ⟨blanks', -, hblanks'⟩ := exists_trimEnd (expandTabs 4 b)
  rw [← hrest, hblanks, List.append_assoc, takeWhile_space_append hwide, hblanks',
    ← h.trimEnd_start, takeWhile_space_append hwide]

end SameCode

/-! ## Transparency -/

/-- A statement that starts on a line takes the same lines, whether their comments are there or
not. -/
theorem SameCode.gather_start {a b : List Char} (hab : SameCode a b)
    {rest rest' : List (List Char)} (hrest : List.Forall₂ SameCode rest rest')
    (hcode : ¬∀ c ∈ codePart a, isBlank c = true)
    (hend : commentsEnd 0 false (a :: rest) = true) :
    ∃ text text' used, gather (trim (expandTabs 4 a)) rest = (text, used) ∧
      gather (trim (expandTabs 4 b)) rest' = (text', used) ∧ SameText text text' ∧
        commentsEnd 0 false (rest.drop used) = true := by
  by_cases hmem : '#' ∈ a
  · obtain ⟨hdepth, hslash, hline, hend⟩ := commentsEnd_of_mem hmem hend (.inr (.inr hcode))
    have ha := complete_start hab.left hdepth hline
    have hb := complete_start hab.right
      (by rw [codePart_of_not_mem hab.plain, hab.depthAfter, hdepth])
      (by rw [hab.continues, hslash])
    exact ⟨_, _, 0, gather_of_complete ha rest, gather_of_complete hb rest', hab.sameText_start,
      hend⟩
  · have hsame : trim (expandTabs 4 b) = trim (expandTabs 4 a) := by
      refine trim_congr ?_
      rw [← hab.trimEnd_start, expandTabs, codePart_expandTabsFrom, codePart_of_not_mem hmem]
    rw [hsame]
    refine gather_sameCode hrest (unquoted_start hab.left) (plain_start hmem) ?_
    rwa [depthAfter_start_of_plain hmem, getLast?_start, ← commentsEnd_of_not_mem hmem 0 false]

theorem commentsEnd_of_blank {line : List Char} (h : ∀ c ∈ codePart line, isBlank c = true)
    {rest : List (List Char)} (hend : commentsEnd 0 false (line :: rest) = true) :
    commentsEnd 0 false rest = true := by
  by_cases hmem : '#' ∈ line
  · have hcontains : line.contains '#' = true := by simpa using hmem
    simp only [commentsEnd, hcontains, if_true, Bool.and_eq_true, depthAfter_blank h] at hend
    exact hend.2
  · rw [codePart_of_not_mem hmem] at h
    rwa [commentsEnd_of_not_mem hmem, depthAfter_blank h, continues, trimEnd_blank h] at hend

/-- Lines and the same lines without their comments hold the same statements if every comment ends
its statement. -/
theorem splitLinesFrom_sameCode {lines lines' : List (List Char)}
    (h : List.Forall₂ SameCode lines lines') (number skip : Nat)
    (hend : commentsEnd 0 false (lines.drop skip) = true) :
    splitLinesFrom number skip lines' = splitLinesFrom number skip lines := by
  induction h generalizing number skip with
  | nil => rfl
  | @cons a b rest rest' hab hrest ih =>
    cases skip with
    | succ skip => exact ih (number + 1) skip hend
    | zero =>
      have hend : commentsEnd 0 false (a :: rest) = true := hend
      by_cases hblank : ∀ c ∈ codePart a, isBlank c = true
      · have ha := (passed_iff a).2 hblank
        have hb := (passed_iff b).2 (hab.blank_iff.1 hblank)
        simp only [splitLinesFrom, ha, hb, if_true, Nat.lt_irrefl, if_false]
        exact ih (number + 1) 0 (commentsEnd_of_blank hblank hend)
      · have ha := Bool.eq_false_iff.2 (mt (passed_iff a).1 hblank)
        have hb := Bool.eq_false_iff.2 (mt (passed_iff b).1 (mt hab.blank_iff.2 hblank))
        obtain ⟨text, text', used, hga, hgb, htext, hend⟩ := hab.gather_start hrest hblank hend
        simp only [splitLinesFrom, ha, hb, Nat.lt_irrefl, if_false, Bool.false_eq_true, hga, hgb,
          htext.statements, hab.indent hblank]
        rw [ih (number + 1) used hend]

/-- A source without quotation marks in which every comment ends its statement has the same logical
lines as the source without its comments. -/
theorem splitLines_dropComments {source : List Char} (hquote : ∀ c ∈ source, isQuote c = false)
    (hend : commentsEnd 0 false (physicalLines source) = true) :
    splitLines (dropComments source) = splitLines source :=
  splitLinesFrom_sameCode (forall₂_physicalLines hquote) 1 0 hend

/-- Comments after a closed bracket, on lines of their own and with a backslash at the end. -/
theorem splitLines_dropComments_closed :
    splitLines "x = [1,\n  2]  # c\n# d \\\ny = 3 # e".toList =
        [⟨"x = [1, 2]".toList, 0, 1⟩, ⟨"y = 3".toList, 0, 4⟩] ∧
      splitLines (dropComments "x = [1,\n  2]  # c\n# d \\\ny = 3 # e".toList) =
        splitLines "x = [1,\n  2]  # c\n# d \\\ny = 3 # e".toList :=
  ⟨by decide +kernel,
    splitLines_dropComments (unquoted_of_all (by decide +kernel)) (by decide +kernel)⟩

/-- A comment in an open bracket is not transparent: it takes the rest of the source with it. -/
theorem splitLines_dropComments_open :
    (∀ c ∈ "x = [1, # c\n 2]\ny = 3".toList, isQuote c = false) ∧
      splitLines "x = [1, # c\n 2]\ny = 3".toList = [⟨"x = [1,".toList, 0, 1⟩] ∧
      splitLines (dropComments "x = [1, # c\n 2]\ny = 3".toList) =
        [⟨"x = [1, 2]".toList, 0, 1⟩, ⟨"y = 3".toList, 0, 3⟩] :=
  ⟨unquoted_of_all (by decide +kernel), by decide +kernel, by decide +kernel⟩

/-! ## Comments in an open bracket

A result of its own, for sources that `commentsEnd` leaves out: where the first comment that does not
end its statement stands in an open bracket.
-/

theorem mem_stem_and_codePart_stem {buffer : List Char} (h : '#' ∈ buffer) :
    '#' ∈ stem buffer ∧ codePart (stem buffer) = codePart buffer := by
  unfold stem
  split
  · next hlast =>
    obtain ⟨front, rfl⟩ := List.getLast?_eq_some_iff.1 (beq_iff_eq.1 hlast)
    have hfront : '#' ∈ front := by simpa using h
    obtain ⟨blanks, hblanks, hsplit⟩ := exists_trimEnd front
    have hmem : '#' ∈ trimEnd front := by
      rw [hsplit, List.mem_append] at hfront
      exact hfront.resolve_right fun hc => absurd (hblanks _ hc) (by decide)
    rw [List.dropLast_concat, codePart_append_of_mem hfront]
    exact ⟨hmem, by conv_rhs => rw [hsplit, codePart_append_of_mem hmem]⟩
  · exact ⟨h, rfl⟩

/-- A statement with a comment in an open bracket takes all lines and none of their code. -/
theorem gather_of_hidden {buffer : List Char} (hquote : ∀ c ∈ buffer, isQuote c = false)
    (hmem : '#' ∈ buffer) (hdepth : 0 < depthAfter 0 (codePart buffer)) {rest : List (List Char)}
    (hrest : ∀ line ∈ rest, ∀ c ∈ line, isQuote c = false) :
    ∃ text, gather buffer rest = (text, rest.length) ∧ (∀ c ∈ text, isQuote c = false) ∧
      codePart text = codePart buffer := by
  induction rest generalizing buffer with
  | nil => exact ⟨buffer, rfl, hquote, rfl⟩
  | cons next rest ih =>
    obtain ⟨hstem, hcode⟩ := mem_stem_and_codePart_stem hmem
    have hopen : isOpen buffer = true := by
      rw [isOpen_of_unquoted hquote, decide_eq_true hdepth]
      rfl
    have hjoin : codePart (stem buffer ++ ' ' :: trim next) = codePart buffer := by
      rw [codePart_append_of_mem hstem, hcode]
    obtain ⟨text, htext, hunquoted, hsame⟩ :=
      ih (unquoted_join (fun c hc => hquote c (mem_of_mem_stem hc))
          (hrest next List.mem_cons_self))
        (List.mem_append_left _ hstem) (by rwa [hjoin])
        fun line hline => hrest line (List.mem_cons_of_mem next hline)
    refine ⟨text, ?_, hunquoted, hsame.trans hjoin⟩
    simp [gather, hopen, joinLine_of_unquoted hquote, htext]

theorem splitLinesFrom_of_length_le {skip : Nat} {lines : List (List Char)}
    (h : lines.length ≤ skip) (number : Nat) : splitLinesFrom number skip lines = [] := by
  induction lines generalizing number skip with
  | nil => rfl
  | cons line rest ih =>
    obtain ⟨skip, rfl⟩ := Nat.exists_eq_add_one_of_ne_zero (Nat.ne_zero_of_lt h)
    exact ih (Nat.le_of_succ_le_succ h) (number + 1)

section Hidden

variable {line : List Char}

/-- Whether a bracket is open at the end of the code on a line that follows other lines, where
every comment before it ends its statement. -/
structure Hides (depth : Nat) (joined : Bool) (before : List (List Char)) (line : List Char) :
    Prop where
  ends : commentsEnd depth joined before = true
  opens : 0 < depthAfter depth (before.flatMap codePart ++ codePart line)

theorem Hides.of_plain {depth : Nat} {joined : Bool} {a : List Char} {before : List (List Char)}
    (h : Hides depth joined (a :: before) line) (ha : '#' ∉ a) :
    Hides (depthAfter depth a) (continues a) before line := by
  obtain ⟨hend, hopens⟩ := h
  rw [commentsEnd_of_not_mem ha] at hend
  rw [List.flatMap_cons, List.append_assoc, depthAfter_append, codePart_of_not_mem ha] at hopens
  exact ⟨hend, hopens⟩

theorem Hides.tail {a : List Char} {depth : Nat} {joined : Bool} {before : List (List Char)}
    (h : Hides depth joined (a :: before) line) (hdepth : depthAfter depth (codePart a) = 0)
    (hend : commentsEnd 0 false before = true) : Hides 0 false before line := by
  have hopens := h.opens
  rw [List.flatMap_cons, List.append_assoc, depthAfter_append, hdepth] at hopens
  exact ⟨hend, hopens⟩

variable (hmem : '#' ∈ line) (hline : ∀ c ∈ line, isQuote c = false)
include hmem hline

/-- A statement either ends before a comment in an open bracket, or it takes that comment and all
lines that follow. -/
theorem gather_hidden {before : List (List Char)}
    (hbefore : ∀ l ∈ before, ∀ c ∈ l, isQuote c = false) {buffer : List Char}
    (hquote : ∀ c ∈ buffer, isQuote c = false) (hplain : '#' ∉ buffer)
    (h : Hides (depthAfter 0 buffer) (buffer.getLast? == some '\\') before line) :
    (∃ text used, used ≤ before.length ∧
      (∀ rest, gather buffer (before ++ line :: rest) = (text, used)) ∧
        Hides 0 false (before.drop used) line) ∨
      ∃ code, ∀ rest, (∀ l ∈ rest, ∀ c ∈ l, isQuote c = false) →
        ∃ text, gather buffer (before ++ line :: rest) = (text, (before ++ line :: rest).length) ∧
          (∀ c ∈ text, isQuote c = false) ∧ codePart text = code := by
  by_cases hopen : isOpen buffer = true
  · have hgoes := (isOpen_iff_of_plain hquote hplain).1 hopen
    match before, hbefore, h with
    | [], _, h =>
      -- the comment is joined to a statement with an open bracket
      refine .inr ⟨codePart (stem buffer ++ ' ' :: trim line), fun rest hrest => ?_⟩
      have hhash : '#' ∈ stem buffer ++ ' ' :: trim line :=
        List.mem_append_right _ (List.mem_cons_of_mem _ (mem_trim_of_mem hmem (by decide)))
      have hdepth : 0 < depthAfter 0 (codePart (stem buffer ++ ' ' :: trim line)) := by
        rw [depthAfter_join hplain]
        exact h.opens
      obtain ⟨text, htext, hunquoted, hcode⟩ :=
        gather_of_hidden (unquoted_join (unquoted_stem hquote) hline) hhash hdepth hrest
      refine ⟨text, ?_, hunquoted, hcode⟩
      rw [List.nil_append, gather_of_open hquote hopen, htext]
      rfl
    | a :: before, hbefore, h =>
      have ha := hbefore a List.mem_cons_self
      have hbefore' : ∀ l ∈ before, ∀ c ∈ l, isQuote c = false :=
        fun l hl => hbefore l (List.mem_cons_of_mem a hl)
      simp only [List.cons_append, gather_of_open hquote hopen]
      by_cases hmem' : '#' ∈ a
      · obtain ⟨hdepth, -, hslash, hend⟩ := commentsEnd_of_mem hmem' h.ends (hgoes.imp_right .inl)
        have hcomplete := complete_join hquote hplain ha hdepth hslash
        -- the statement ends with an earlier comment
        refine .inl ⟨stem buffer ++ ' ' :: trim a, 1, by simp, fun rest => ?_, h.tail hdepth hend⟩
        rw [gather_of_complete hcomplete]
      · have hrest := gather_hidden hbefore' (unquoted_join (unquoted_stem hquote) ha)
          (plain_join hplain hmem')
          (by rw [depthAfter_join_of_plain hplain hmem', getLast?_join]; exact h.of_plain hmem')
        obtain ⟨text, used, hused, htext, hhides⟩ | ⟨code, hcode⟩ := hrest
        · exact .inl ⟨text, used + 1, Nat.succ_le_succ hused, fun rest => by rw [htext], hhides⟩
        · refine .inr ⟨code, fun rest hrest => ?_⟩
          obtain ⟨text, htext, hunquoted, hsame⟩ := hcode rest hrest
          exact ⟨text, by rw [htext]; rfl, hunquoted, hsame⟩
  · have hclosed := hopen
    rw [isOpen_iff_of_plain hquote hplain, not_or, not_not, Bool.not_eq_true] at hclosed
    rw [hclosed.1, hclosed.2] at h
    exact .inl ⟨buffer, 0, Nat.zero_le _,
      fun rest => gather_of_complete (Bool.eq_false_iff.2 hopen) _, h⟩
termination_by before.length

theorem splitLinesFrom_cons_hidden {rest : List (List Char)}
    (hrest : ∀ l ∈ rest, ∀ c ∈ l, isQuote c = false) (hopens : 0 < depthAfter 0 (codePart line))
    (number : Nat) : splitLinesFrom number 0 (line :: rest) = splitLinesFrom number 0 [line] := by
  have hstarts : ¬∀ c ∈ codePart line, isBlank c = true := by
    intro hblank
    rw [depthAfter_blank hblank] at hopens
    exact Nat.lt_irrefl 0 hopens
  have hhash : '#' ∈ trim (expandTabs 4 line) :=
    mem_trim_of_mem (mem_expandTabsFrom_of_mem 0 hmem (by decide)) (by decide)
  obtain ⟨text, htext, hunquoted, hcode⟩ :=
    gather_of_hidden (unquoted_start hline) hhash (by rwa [depthAfter_start]) hrest
  have hsame : SameText text (trim (expandTabs 4 line)) :=
    ⟨by rw [hcode], hunquoted, unquoted_start hline⟩
  have hpassed := Bool.eq_false_iff.2 (mt (passed_iff line).1 hstarts)
  have hnone := splitLinesFrom_of_length_le (Nat.le_refl rest.length) (number + 1)
  simp only [splitLinesFrom, hpassed, Nat.lt_irrefl, if_false, Bool.false_eq_true, htext, gather,
    hsame.statements, hnone]

/-- What follows a comment in an open bracket makes no difference, from any line on. -/
theorem splitLinesFrom_hidden {before rest : List (List Char)}
    (hbefore : ∀ l ∈ before, ∀ c ∈ l, isQuote c = false)
    (hrest : ∀ l ∈ rest, ∀ c ∈ l, isQuote c = false) (number : Nat) {skip : Nat}
    (hskip : skip ≤ before.length) (h : Hides 0 false (before.drop skip) line) :
    splitLinesFrom number skip (before ++ line :: rest) =
      splitLinesFrom number skip (before ++ [line]) := by
  have hnone : ∀ l ∈ ([] : List (List Char)), ∀ c ∈ l, isQuote c = false := by simp
  induction before generalizing number skip with
  | nil =>
    obtain rfl := Nat.le_zero.1 hskip
    exact splitLinesFrom_cons_hidden hmem hline hrest h.opens number
  | cons a before ih =>
    have ha := hbefore a List.mem_cons_self
    have hbefore' : ∀ l ∈ before, ∀ c ∈ l, isQuote c = false :=
      fun l hl => hbefore l (List.mem_cons_of_mem a hl)
    cases skip with
    | succ skip => exact ih hbefore' (number + 1) (Nat.le_of_succ_le_succ hskip) h
    | zero =>
      have h : Hides 0 false (a :: before) line := h
      by_cases hblank : ∀ c ∈ codePart a, isBlank c = true
      · have hpassed := (passed_iff a).2 hblank
        simp only [List.cons_append, splitLinesFrom, hpassed, if_true, Nat.lt_irrefl, if_false]
        exact ih hbefore' (number + 1) (Nat.zero_le _)
          (h.tail (depthAfter_blank hblank 0) (commentsEnd_of_blank hblank h.ends))
      · have hstarts := Bool.eq_false_iff.2 (mt (passed_iff a).1 hblank)
        simp only [List.cons_append, splitLinesFrom, hstarts, Nat.lt_irrefl, if_false,
          Bool.false_eq_true]
        by_cases hmem' : '#' ∈ a
        · obtain ⟨hdepth, -, hslash, hend⟩ := commentsEnd_of_mem hmem' h.ends (.inr (.inr hblank))
          simp only [gather_of_complete (complete_start ha hdepth hslash)]
          rw [ih hbefore' (number + 1) (Nat.zero_le _) (h.tail hdepth hend)]
        · have hgather := gather_hidden hmem hline hbefore' (unquoted_start ha) (plain_start hmem')
            (by rw [depthAfter_start_of_plain hmem', getLast?_start]; exact h.of_plain hmem')
          obtain ⟨text, used, hused, htext, hhides⟩ | ⟨code, hcode⟩ := hgather
          · simp only [htext]
            rw [ih hbefore' (number + 1) hused hhides]
          · obtain ⟨text, htext, hunquoted, hcode'⟩ := hcode rest hrest
            obtain ⟨text', htext', hunquoted', hcode''⟩ := hcode [] hnone
            have hsame : SameText text text' := ⟨by rw [hcode', hcode''], hunquoted, hunquoted'⟩
            simp only [htext, htext', hsame.statements,
              splitLinesFrom_of_length_le (Nat.le_refl (List.length _))]

end Hidden

/-- **What follows a comment in an open bracket is lost.** If every comment before a line of a source
without quotation marks ends its statement, and a bracket is open before the comment on this line,
then the source has the logical lines of its lines up to this one. -/
theorem splitLines_hidden {source line : List Char} {before rest : List (List Char)}
    (hquote : ∀ c ∈ source, isQuote c = false)
    (hlines : physicalLines source = before ++ line :: rest) (hmem : '#' ∈ line)
    (h : Hides 0 false before line) :
    splitLines source = splitLinesFrom 1 0 (before ++ [line]) := by
  have hall : ∀ l ∈ before ++ line :: rest, ∀ c ∈ l, isQuote c = false := fun l hl c hc =>
    hquote c (mem_of_mem_physicalLines (hlines ▸ hl) hc)
  rw [List.forall_mem_append, List.forall_mem_cons] at hall
  obtain ⟨hbefore, hline, hrest⟩ := hall
  rw [splitLines, hlines]
  exact splitLinesFrom_hidden hmem hline hbefore hrest 1 (Nat.zero_le _) h

example : splitLines "x = 1 # a\ny = [1, # b\n 2]\nz = 3".toList =
    [⟨"x = 1".toList, 0, 1⟩, ⟨"y = [1,".toList, 0, 2⟩] := by
  have hlines : physicalLines "x = 1 # a\ny = [1, # b\n 2]\nz = 3".toList =
      ["x = 1 # a".toList] ++ "y = [1, # b".toList :: [" 2]".toList, "z = 3".toList] := by
    decide +kernel
  rw [splitLines_hidden (unquoted_of_all (by decide +kernel)) hlines (by decide)
    ⟨by decide +kernel, by decide +kernel⟩]
  decide +kernel

end SnippetGrader.Layout
