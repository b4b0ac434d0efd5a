import SnippetGrader.Proofs.Extent
import SnippetGrader.Proofs.Layout.Cutting
import SnippetGrader.Proofs.Layout.Separation
import SnippetGrader.Proofs.Rendering.Lexeme
import SnippetGrader.Proofs.Scanning.Symbols

/-!
# Where a logical line starts

A logical line starts on one physical line and may go on over more of them, after a backslash, in a
bracket or in a literal. What the physical line itself brings is the opening of the logical line: it
stays in front of all that is joined. A line with a header colon is never one of several that share a
physical line, so that it reads like the opening as far as the opening goes.
-/

namespace SnippetGrader.Source

open Text Layout

/-! ## Symbols and words where they are found -/

theorem headerColon?_split {text : List Char} {k : Nat} (h : headerColon? text = some k) :
    ∃ b, text = text.take k ++ ':' :: b := by
  simp only [headerColon?, Option.map_eq_some_iff] at h
  obtain ⟨t, ht, rfl⟩ := h
  obtain ⟨b, hb⟩ := (isLongest_of_mem_tokens (List.mem_of_find?_eq_some ht)).stands
  have hcolon : t.symbol = .colon := by simpa using List.find?_some ht
  rw [hcolon] at hb
  have htext : text.take t.pos ++ (Symbol.colon.chars ++ b) = text := by
    rw [hb, List.take_append_drop]
  exact ⟨b, htext.symm⟩

theorem phraseAt?_word {word : String} {i : Nat} {before : Option Char} {text : List Char} {s : Span}
    (h : phraseAt? [word] i before text = some s) :
    s.start = i ∧ ∃ b, text = word.toList ++ b ∧ s.stop = i + word.toList.length := by
  unfold phraseAt? at h
  split at h
  · cases h
  · split at h
    · cases h
    · next rest hrest =>
      split at h
      · cases h
      · cases h
        have htext := Rendering.dropFront?_eq_some.1 hrest
        refine ⟨rfl, rest, htext, ?_⟩
        dsimp only
        rw [htext, List.length_append]
        omega

theorem mem_findKeywordFrom {word : String} {r : Reader} {i : Nat} {before : Option Char}
    {text : List Char} {s : Span} (h : s ∈ findKeywordFrom [word] r i before text) :
    ∃ a b, text = a ++ (word.toList ++ b) ∧ s.start = i + a.length ∧
      s.stop = s.start + word.toList.length := by
  induction text generalizing r i before with
  | nil => cases h
  | cons c rest ih =>
    have later {r' : Reader} (h : s ∈ findKeywordFrom [word] r' (i + 1) (some c) rest) :
        ∃ a b, c :: rest = a ++ (word.toList ++ b) ∧ s.start = i + a.length ∧
          s.stop = s.start + word.toList.length := by
      obtain ⟨a, b, hrest, hstart, hstop⟩ := ih h
      refine ⟨c :: a, b, by rw [hrest, List.cons_append], ?_, hstop⟩
      rw [hstart, List.length_cons]
      omega
    simp only [findKeywordFrom] at h
    split at h
    · split at h
      · next span hspan =>
        obtain rfl | h := List.mem_cons.1 h
        · obtain ⟨hstart, b, htext, hstop⟩ := phraseAt?_word hspan
          exact ⟨[], b, htext, hstart, by rw [hstop, hstart]⟩
        · exact later h
      · exact later h
    · exact later h

/-- A word in a text, and the text in front of it and behind it. -/
theorem findKeyword_split {word : String} {text : List Char} {s : Span}
    (h : s ∈ findKeyword [word] text) :
    text = text.take s.start ++ (word.toList ++ text.drop s.stop) := by
  obtain ⟨a, b, htext, hstart, hstop⟩ := mem_findKeywordFrom h
  rw [Nat.zero_add] at hstart
  have hfront : text.take s.start = a := by rw [htext, hstart, List.take_left]
  have hback : text.drop s.stop = b := by
    rw [htext, hstop, hstart, ← List.length_append, ← List.append_assoc, List.drop_left]
  rw [hfront, hback]
  exact htext

/-! ## Colons and semicolons -/

/-- A colon in front stays one, whatever follows. -/
theorem Reader.Fits.meetsColon_left {r : Reader} {a b : List Char} (hfits : r.Fits a)
    (hquote : ∀ c ∈ b.head?, isQuote c = false) (hequals : b.head? ≠ some '=')
    (h : r.meetsColon (a ++ b) = false) : r.meetsColon a = false := by
  induction a generalizing r with
  | nil => rfl
  | cons c rest ih =>
    have hstep : r.step c (rest ++ b) = r.step c rest :=
      hfits.step_congr fun hc => tripled_append hquote hc rest
    have hhead : ((rest ++ b).head? != some '=') = (rest.head? != some '=') := by
      cases rest with
      | nil => exact bne_iff_ne.2 hequals
      | cons d rest => rfl
    rw [List.cons_append, Reader.meetsColon, Bool.or_eq_false_iff, hstep, hhead] at h
    rw [Reader.meetsColon, Bool.or_eq_false_iff]
    exact ⟨h.1, ih hfits.step h.2⟩

/-- What is behind has no colon where the reader gets to it, if the whole has none. -/
theorem Reader.Fits.meetsColon_right {r : Reader} {a b : List Char} (hfits : r.Fits a)
    (hquote : ∀ c ∈ b.head?, isQuote c = false) (h : r.meetsColon (a ++ b) = false) :
    (r.after a).meetsColon b = false := by
  induction a generalizing r with
  | nil => exact h
  | cons c rest ih =>
    have hstep : r.step c (rest ++ b) = r.step c rest :=
      hfits.step_congr fun hc => tripled_append hquote hc rest
    rw [List.cons_append, Reader.meetsColon, Bool.or_eq_false_iff, hstep] at h
    exact ih hfits.step h.2

theorem Reader.meetsColon_trim {text : List Char} (h : Reader.meetsColon {} text = false) :
    Reader.meetsColon {} (trim text) = false := by
  have hstart : Reader.meetsColon {} (trimStart text) = false := by
    induction text with
    | nil => rfl
    | cons c rest ih =>
      by_cases hc : isBlank c = true
      · rw [Reader.meetsColon, Bool.or_eq_false_iff,
          Rendering.step_plain (Rendering.isPlain_of_isBlank hc)] at h
        rw [trimStart, List.dropWhile_cons_of_pos hc]
        exact ih h.2
      · rwa [trimStart, List.dropWhile_cons_of_neg hc]
  obtain ⟨blanks, hblanks, htext⟩ := exists_trimEnd (trimStart text)
  rw [htext] at hstart
  refine (Reader.fits_code 0 _).meetsColon_left (isQuote_head?_blanks hblanks) (fun hequals => ?_)
    hstart
  exact absurd (hblanks _ (List.mem_of_mem_head? hequals)) (by decide)

/-- Where a text without a colon is cut at its semicolons, no piece has one. -/
theorem Reader.meetsColon_of_mem_cutTopLevelFrom {text p : List Char}
    (h : Reader.meetsColon {} text = false) (hp : p ∈ cutTopLevelFrom ';' {} [] text) :
    Reader.meetsColon {} p = false := by
  have hplain : Rendering.isPlain ';' = true := by decide
  generalize hpieces : cutTopLevelFrom ';' {} [] text = pieces at hp
  induction pieces generalizing text with
  | nil => cases hp
  | cons first more ih =>
    obtain ⟨-, hcut⟩ | ⟨a, b, rfl, -, hafter, hcut⟩ := cutTopLevelFrom_first hplain text []
    · obtain ⟨rfl, rfl⟩ := List.cons_eq_cons.1 (hpieces.symm.trans hcut)
      rw [List.mem_singleton] at hp
      rwa [hp]
    · obtain ⟨rfl, hmore⟩ := List.cons_eq_cons.1 (hcut.symm.trans hpieces)
      have hstart := Reader.fits_code 0 a
      have hquote := isQuote_head?_sep hplain b
      have hfront := hstart.meetsColon_left hquote (by simp) h
      have hback := hstart.meetsColon_right hquote h
      rw [hafter, Reader.meetsColon, Bool.or_eq_false_iff, Rendering.step_plain hplain] at hback
      obtain rfl | hp := List.mem_cons.1 hp
      · exact hfront
      · exact ih hback.2 hmore hp

theorem headerColon?_cutTopLevel {text piece : List Char} (h : headerColon? text = none)
    (hpiece : piece ∈ cutTopLevel ';' text) : headerColon? piece = none := by
  have hnone (text : List Char) : headerColon? text = none ↔ Reader.meetsColon {} text = false := by
    rw [← headerColon?_isSome, Option.isSome_eq_false_iff, Option.isNone_iff_eq_none]
  rw [hnone] at h ⊢
  rw [cutTopLevel] at hpiece
  split at hpiece
  · cases hpiece
  · obtain ⟨p, hp, rfl⟩ := List.mem_map.1 hpiece
    exact Reader.meetsColon_trim (Reader.meetsColon_of_mem_cutTopLevelFrom h hp)

end SnippetGrader.Source

namespace SnippetGrader.Layout

open Text Source

/-! ## What a physical line brings -/

/-- A text without the backslash at its end. -/
def withoutSlash (text : List Char) : List Char :=
  if text.getLast? == some '\\' then trimEnd text.dropLast else text

/-- What a physical line brings to the logical line that starts on it. -/
def opening (raw : List Char) : List Char := withoutSlash (trim (expandTabs 4 raw))

/-- The physical line on which a logical line starts. -/
def physicalLine (source : List Char) (l : Line) : List Char :=
  (physicalLines source)[l.number - 1]?.getD []

theorem isPrefix_trimEnd (text : List Char) : trimEnd text <+: text := by
  obtain ⟨blanks, -, htext⟩ := exists_trimEnd text
  exact ⟨blanks, htext.symm⟩

theorem isPrefix_withoutSlash (text : List Char) : withoutSlash text <+: text := by
  rw [withoutSlash]
  split
  · exact (isPrefix_trimEnd _).trans (List.dropLast_prefix text)
  · exact List.prefix_rfl

theorem prefix_trimEnd {front text : List Char} (h : front <+: text) (hfront : trimEnd front = front) :
    front <+: trimEnd text := by
  obtain hopens | ⟨more, hmore⟩ := List.prefix_or_prefix_of_prefix h (isPrefix_trimEnd text)
  · exact hopens
  · -- what goes beyond is blank
    obtain ⟨blanks, hblanks, htext⟩ := exists_trimEnd text
    obtain ⟨rest, hrest⟩ := h
    have hmoreBlank : ∀ c ∈ more, isBlank c = true := by
      rw [← hmore, htext, List.append_assoc, trimEnd_append_blank _ hblanks, trimEnd_trimEnd,
        List.append_cancel_left_eq] at hrest
      exact fun c hc => hblanks c (hrest ▸ List.mem_append_left rest hc)
    have hsame : trimEnd front = trimEnd text := by
      rw [← hmore, trimEnd_append_blank _ hmoreBlank, trimEnd_trimEnd]
    exact ⟨[], (List.append_nil front).trans (hfront.symm.trans hsame)⟩

/-- A text that stays in front of what is appended stays there without a backslash at the end, too. -/
theorem prefix_withoutSlash {front text : List Char} (h : front <+: text)
    (hfront : trimEnd front = front) (c : Char) (rest : List Char) :
    front <+: withoutSlash (text ++ c :: rest) := by
  rw [withoutSlash]
  split
  · refine prefix_trimEnd ?_ hfront
    rw [List.dropLast_append_of_ne_nil (List.cons_ne_nil c rest)]
    exact h.trans (List.prefix_append text _)
  · exact h.trans (List.prefix_append text _)

theorem prefix_joinLine {front buffer : List Char} (h : front <+: withoutSlash buffer)
    (hfront : trimEnd front = front) (next : List Char) :
    front <+: withoutSlash (joinLine buffer next) := by
  have hbuffer : front <+: buffer := h.trans (isPrefix_withoutSlash buffer)
  rw [joinLine]
  split
  · exact prefix_withoutSlash hbuffer hfront _ _
  · split
    · next hslash =>
      rw [withoutSlash, if_pos hslash] at h
      exact prefix_withoutSlash h hfront _ _
    · exact prefix_withoutSlash hbuffer hfront _ _

/-- What is in front stays there, whatever is joined. -/
theorem prefix_gather {front buffer : List Char} (h : front <+: withoutSlash buffer)
    (hfront : trimEnd front = front) (rest : List (List Char)) :
    front <+: (gather buffer rest).1 := by
  induction rest generalizing buffer with
  | nil => exact h.trans (isPrefix_withoutSlash buffer)
  | cons next rest ih =>
    rw [gather]
    split
    · exact ih (prefix_joinLine h hfront next)
    · exact h.trans (isPrefix_withoutSlash buffer)

theorem trimEnd_opening (raw : List Char) : trimEnd (opening raw) = opening raw := by
  rw [opening, withoutSlash]
  split
  · exact trimEnd_trimEnd _
  · exact trimEnd_trimEnd _

theorem isBlank_head?_opening {raw : List Char} {c : Char} (h : c ∈ (opening raw).head?) :
    isBlank c = false := by
  obtain ⟨rest, hrest⟩ := isPrefix_withoutSlash (trim (expandTabs 4 raw))
  have hhead : c ∈ (trim (expandTabs 4 raw)).head? := by
    rw [opening, Option.mem_def] at h
    rw [← hrest, List.head?_append, Option.mem_def, h, Option.some_or]
  exact isBlank_head?_trim hhead

/-! ## The lines of a source -/

theorem isPrefix_stripComment (text : List Char) : stripComment text <+: text := by
  rw [stripComment]
  split
  · exact (isPrefix_trimEnd _).trans (List.take_prefix _ text)
  · exact List.prefix_rfl

theorem number_of_mem_statements {buffer : List Char} {indent number : Nat} {l : Line}
    (h : l ∈ statements buffer indent number) : l.number = number := by
  simp only [statements] at h
  split at h
  · cases h
  · split at h
    · obtain ⟨part, -, rfl⟩ := List.mem_map.1 h
      rfl
    · obtain rfl := List.mem_singleton.1 h
      rfl

/-- Each logical line is a statement of what is gathered from the physical line it starts on. -/
theorem exists_of_mem_splitLinesFrom {number skip : Nat} {lines : List (List Char)} {l : Line}
    (h : l ∈ splitLinesFrom number skip lines) :
    ∃ i raw rest, lines.drop i = raw :: rest ∧ l.number = number + i ∧ ∃ indent,
      l ∈ statements (gather (trim (expandTabs 4 raw)) rest).1 indent l.number := by
  induction lines generalizing number skip with
  | nil => cases h
  | cons raw rest ih =>
    have later {skip' : Nat} (h : l ∈ splitLinesFrom (number + 1) skip' rest) :
        ∃ i raw' rest', (raw :: rest).drop i = raw' :: rest' ∧ l.number = number + i ∧ ∃ indent,
          l ∈ statements (gather (trim (expandTabs 4 raw')) rest').1 indent l.number := by
      obtain ⟨i, raw', rest', hdrop, hnumber, hline⟩ := ih h
      exact ⟨i + 1, raw', rest', hdrop, by omega, hline⟩
    simp only [splitLinesFrom] at h
    split at h
    · exact later h
    · split at h
      · exact later h
      · obtain h | h := List.mem_append.1 h
        · have hnumber := number_of_mem_statements h
          exact ⟨0, raw, rest, rfl, hnumber, _, hnumber.symm ▸ h⟩
        · exact later h

/-- A line with a header colon is all that is gathered, but for a comment. -/
theorem eq_of_mem_statements {buffer : List Char} {indent number k : Nat} {l : Line}
    (h : l ∈ statements buffer indent number) (hcolon : headerColon? l.text = some k) :
    l.text = trim (stripComment buffer) := by
  simp only [statements] at h
  split at h
  · cases h
  · split at h
    · next hcut =>
      -- no piece of a text without header colon has one
      rw [Bool.and_eq_true, Option.isNone_iff_eq_none] at hcut
      obtain ⟨part, hpart, rfl⟩ := List.mem_map.1 h
      rw [headerColon?_cutTopLevel hcut.1 (List.mem_filter.1 hpart |>.1)] at hcolon
      cases hcolon
    · obtain rfl := List.mem_singleton.1 h
      rfl

/-- A text and one from which a comment and blanks are taken off agree as far as both go. -/
theorem take_trim_stripComment {front buffer : List Char} {n : Nat} (h : front <+: buffer)
    (hblank : ∀ c ∈ front.head?, isBlank c = false) (hfront : n ≤ front.length)
    (htext : n ≤ (trim (stripComment buffer)).length) :
    (trim (stripComment buffer)).take n = front.take n := by
  cases n with
  | zero => rfl
  | succ n =>
    obtain ⟨c, rest, rfl⟩ : ∃ c rest, front = c :: rest :=
      List.exists_cons_of_length_pos (Nat.lt_of_lt_of_le (Nat.succ_pos n) hfront)
    obtain ⟨back, rfl⟩ := h
    have hstart : trimStart (stripComment (c :: rest ++ back)) = stripComment (c :: rest ++ back) := by
      obtain ⟨more, hmore⟩ := isPrefix_stripComment (c :: rest ++ back)
      cases hstrip : stripComment (c :: rest ++ back) with
      | nil => rfl
      | cons d tail =>
        rw [hstrip] at hmore
        obtain ⟨rfl, -⟩ := List.cons.inj hmore
        rw [trimStart, List.dropWhile_cons, hblank d rfl]
        rfl
    rw [trim, hstart] at htext ⊢
    have hopens := (isPrefix_trimEnd (stripComment (c :: rest ++ back))).trans (isPrefix_stripComment _)
    rw [List.prefix_iff_eq_take.1 hopens, List.take_take, Nat.min_eq_left htext,
      List.take_append_of_le_length hfront]

/-- **A logical line with a header colon starts its physical line.** Up to a position that is still
on that line, the two read the same. -/
theorem take_opening {source : List Char} {l : Line} (hl : l ∈ splitLines source) {k : Nat}
    (hcolon : headerColon? l.text = some k) (hk : k < (opening (physicalLine source l)).length) :
    l.text.take (k + 1) = (opening (physicalLine source l)).take (k + 1) := by
  obtain ⟨i, raw, rest, hdrop, hnumber, indent, hline⟩ := exists_of_mem_splitLinesFrom hl
  have hraw : physicalLine source l = raw := by
    have hget : (physicalLines source)[i]? = some raw := by
      rw [← List.head?_drop, hdrop]
      rfl
    rw [physicalLine, hnumber, Nat.add_sub_cancel_left, hget]
    rfl
  have htext := eq_of_mem_statements hline hcolon
  have hlength := headerColon?_lt hcolon
  rw [hraw] at hk ⊢
  rw [htext] at hlength ⊢
  exact take_trim_stripComment (prefix_gather List.prefix_rfl (trimEnd_opening raw) rest)
    (fun c => isBlank_head?_opening) hk hlength

end SnippetGrader.Layout
