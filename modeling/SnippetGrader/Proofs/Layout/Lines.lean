import SnippetGrader.Proofs.Layout.Tree

/-!
# The logical lines of a written tree

Every row of a well-formed tree is a complete statement of its own, with tabs expanded where they
stand. So splitting the source of a tree gives one logical line for each row, in their order.
-/

namespace SnippetGrader.Layout

open Text Source

/-- A text that is one logical line as it stands. -/
structure IsLine (text : List Char) : Prop where
  nonempty : text ≠ []
  trimmed : trim text = text
  plain : text.head? ≠ some '#'
  complete : isOpen text = false
  alone : ∀ indent number, statements text indent number = [⟨text, indent, number⟩]

theorem IsLine.of_admits {text : List Char} (hne : text ≠ []) (htrim : trim text = text)
    (hplain : text.head? ≠ some '#') (hslash : text.getLast? ≠ some '\\')
    (hclosed : Reader.after {} text = {}) (hcomment : Reader.admits noComment {} text = true)
    (hsemicolon : Reader.admits (lacks ';') {} text = true) : IsLine text := by
  refine ⟨hne, htrim, hplain, isOpen_eq_false hcomment hclosed hslash, fun indent number => ?_⟩
  have hblank : ¬∀ c ∈ text, isBlank c = true := by
    rw [← trimEnd_eq_nil, ← trim_eq_nil, htrim]
    exact hne
  have hcut := cutTopLevel_eq_singleton hsemicolon hblank
  simp [statements, stripComment_eq_self hcomment, htrim, hne, hcut]

theorem expandTabsFrom_ne_nil {text : List Char} (h : text ≠ []) (column : Nat) :
    expandTabsFrom 4 column text ≠ [] := by
  obtain ⟨c, rest, rfl⟩ := List.exists_cons_of_ne_nil h
  by_cases htab : c = '\t'
  · subst htab
    obtain ⟨n, after, hcons⟩ := expandTabsFrom_tab column
    simp [hcons, List.replicate_succ]
  · obtain ⟨after, hcons⟩ := expandTabsFrom_cons htab column
    simp [hcons]

/-! ## Simple statements -/

/-- The text of one statement. It stands on one line, closes the brackets that it opens, and has
neither literals nor comments nor a separator at depth zero. -/
structure IsSingle (text : List Char) : Prop where
  nonempty : text ≠ []
  trimmed : trim text = text
  chars : ∀ c ∈ text, isQuote c = false ∧ c ∉ ['\n', '#', '\\']
  closed : Reader.after {} text = {}
  semicolon : Reader.admits (lacks ';') {} text = true

instance (text : List Char) : Decidable (IsSingle text) :=
  decidable_of_iff
    (text ≠ [] ∧ trim text = text ∧
      (text.all fun c => decide (isQuote c = false ∧ c ∉ ['\n', '#', '\\'])) = true ∧
      Reader.after {} text = {} ∧ Reader.admits (lacks ';') {} text = true)
    ⟨fun ⟨h₁, h₂, h₃, h₄, h₅⟩ => ⟨h₁, h₂, Rendering.forall_of_all h₃, h₄, h₅⟩,
      fun h => ⟨h.1, h.2, List.all_eq_true.2 fun c hc => decide_eq_true (h.3 c hc), h.4, h.5⟩⟩

theorem IsSimple.isSingle {text : List Char} (h : IsSimple text) : IsSingle text :=
  ⟨h.nonempty, h.trimmed, h.chars, h.closed, h.semicolon⟩

section Single

variable {text : List Char} (h : IsSingle text)
include h

theorem IsSingle.noComment : Reader.admits noComment {} text = true := by
  refine Reader.admits_of_forall fun c hc place => ?_
  have hchar := (h.chars c hc).2
  simp only [List.mem_cons, not_or] at hchar
  simp [Source.noComment, hchar.2.1]

theorem IsSingle.isLine : IsLine text := by
  have hchar {c : Char} (hc : c ∈ text) : c ≠ '#' ∧ c ≠ '\\' := by
    have hmem := (h.chars c hc).2
    simp only [List.mem_cons, not_or] at hmem
    exact ⟨hmem.2.1, hmem.2.2.1⟩
  exact .of_admits h.nonempty h.trimmed (fun hhead => (hchar (List.mem_of_mem_head? hhead)).1 rfl)
    (fun hlast => (hchar (List.mem_of_getLast? hlast)).2 rfl) h.closed h.noComment h.semicolon

theorem IsSingle.expandTabsFrom (column : Nat) : IsSingle (expandTabsFrom 4 column text) := by
  have hfits := Reader.fits_code 0 text
  refine ⟨expandTabsFrom_ne_nil h.nonempty column, trim_expandTabsFrom h.trimmed column,
    fun c hc => ?_, (Reader.after_expandTabsFrom hfits column).trans h.closed,
    Reader.admits_expandTabsFrom (by simp [lacks]) hfits h.semicolon column⟩
  obtain rfl | hc := mem_expandTabsFrom hc
  · decide
  · exact h.chars c hc

end Single

/-! ## Headers -/

theorem Word.exists_eq_cons (w : Word) :
    ∃ c rest, w.text.toList = c :: rest ∧ isNameStart c = true := by
  cases w <;> exact ⟨_, _, rfl, by decide⟩

theorem Word.isWord_of_mem (w : Word) : ∀ c ∈ w.text.toList, isWord c = true :=
  List.all_eq_true.1 (by cases w <;> decide)

/-- What stands between the word of a header and its colon, tabs expanded. -/
def Part.wideHead (n : Nat) (p : Part) : List Char :=
  expandTabsFrom 4 (n + p.word.text.toList.length) p.head

theorem expandTabsFrom_word (w : Word) (column : Nat) (text : List Char) :
    expandTabsFrom 4 column (w.text.toList ++ text) =
      w.text.toList ++ expandTabsFrom 4 (column + w.text.toList.length) text := by
  have hword : ∀ letters : List Char, (∀ c ∈ letters, isWord c = true) → ∀ column,
      expandTabsFrom 4 column (letters ++ text) =
        letters ++ expandTabsFrom 4 (column + letters.length) text := by
    intro letters hletters
    induction letters with
    | nil => exact fun column => rfl
    | cons c rest ih =>
      intro column
      have hc := hletters c List.mem_cons_self
      have htab : c ≠ '\t' := Rendering.ne_of_isWord hc (by decide)
      have hnewline : c ≠ '\n' := Rendering.ne_of_isWord hc (by decide)
      have hreturn : c ≠ '\r' := Rendering.ne_of_isWord hc (by decide)
      have hrest := ih fun d hd => hletters d (List.mem_cons_of_mem c hd)
      simp [expandTabsFrom, htab, hnewline, hreturn, hrest, Nat.add_assoc, Nat.add_comm 1]
  exact hword _ w.isWord_of_mem column

theorem Part.expandTabsFrom_headline (p : Part) (n : Nat) :
    expandTabsFrom 4 n p.headline = p.word.text.toList ++ p.wideHead n ++ [':'] := by
  obtain ⟨after, hcons⟩ := expandTabsFrom_cons (c := ':') (by decide)
    (columnAfter (n + p.word.text.toList.length) p.head)
  rw [Part.headline, List.append_assoc, expandTabsFrom_word, expandTabsFrom_append, hcons,
    List.append_assoc]
  rfl

theorem Part.admits_front (p : Part) (n : Nat) {q : Char → Place → Bool}
    (hword : ∀ c place, isWord c = true → q c place = true) (hspace : ∀ place, q ' ' place = true)
    (hhead : Reader.admits q {} p.head = true) :
    Reader.admits q {} (p.word.text.toList ++ p.wideHead n) = true := by
  have hplain : ∀ c ∈ p.word.text.toList,
      Rendering.isPlain c = true ∧ ∀ place, q c place = true := fun c hc =>
    ⟨Rendering.isPlain_of_isWord (p.word.isWord_of_mem c hc),
      fun place => hword c place (p.word.isWord_of_mem c hc)⟩
  rw [Reader.admits_plain hplain]
  exact Reader.admits_expandTabsFrom hspace (Reader.fits_code 0 p.head) hhead _

section Header

variable {p : Part} (h : IsHead p.head) (n : Nat)
include h

theorem IsHead.closed_front : Reader.after {} (p.word.text.toList ++ p.wideHead n) = {} := by
  have hplain : ∀ c ∈ p.word.text.toList, Rendering.isPlain c = true :=
    fun c hc => Rendering.isPlain_of_isWord (p.word.isWord_of_mem c hc)
  rw [Reader.after_plain hplain]
  exact (Reader.after_expandTabsFrom (Reader.fits_code 0 p.head) _).trans h.closed

theorem IsHead.headerColon? :
    headerColon? (expandTabsFrom 4 n p.headline) =
      some (p.word.text.toList ++ p.wideHead n).length := by
  rw [Part.expandTabsFrom_headline]
  refine headerColon?_append (p.admits_front n ?_ (by simp [lacks]) h.colon) (h.closed_front n)
  intro c place hc
  simp [lacks, Rendering.ne_of_isWord hc (d := ':') (by decide)]

theorem IsHead.isLine : IsLine (expandTabsFrom 4 n p.headline) := by
  have hcolon := h.headerColon? n
  have hclosed := h.closed_front n
  have hcomment : Reader.admits noComment {} (p.word.text.toList ++ p.wideHead n) = true := by
    refine p.admits_front n (fun c place hc => ?_) (by simp [noComment]) h.comment
    simp [noComment, Rendering.ne_of_isWord hc (d := '#') (by decide)]
  obtain ⟨c, rest, hfront, hc⟩ : ∃ c rest, p.word.text.toList ++ p.wideHead n = c :: rest ∧
      isWord c = true := by
    obtain ⟨c, letters, hletters, hstart⟩ := p.word.exists_eq_cons
    exact ⟨c, letters ++ p.wideHead n, by rw [hletters, List.cons_append],
      Rendering.isWord_of_isNameStart hstart⟩
  rw [Part.expandTabsFrom_headline] at hcolon ⊢
  generalize p.word.text.toList ++ p.wideHead n = front at hcolon hclosed hcomment hfront ⊢
  have hquote : ∀ c ∈ [':'].head?, isQuote c = false := by
    rintro c ⟨⟩
    decide
  have hcomment' : Reader.admits noComment {} (front ++ [':']) = true := by
    rw [Reader.admits_append hquote (Reader.fits_code 0 front), hcomment, hclosed]
    rfl
  have hclosed' : Reader.after {} (front ++ [':']) = {} := by
    rw [Reader.after_append hquote (Reader.fits_code 0 front), hclosed]
    rfl
  have htrim : trim (front ++ [':']) = front ++ [':'] := by
    rw [trim_eq_self_iff, List.getLast?_concat, hfront]
    constructor
    · rintro d ⟨⟩
      exact Rendering.isBlank_eq_false_of_isWord hc
    · rintro d ⟨⟩
      decide
  refine ⟨by simp, htrim, ?_, isOpen_eq_false hcomment' hclosed' (by simp), fun indent number => ?_⟩
  · rw [hfront]
    rintro ⟨⟩
    exact absurd hc (by decide)
  · simp [statements, stripComment_eq_self hcomment', htrim, hcolon]

end Header

/-! ## Rows -/

/-- A row that is one logical line as it stands. -/
structure Row.Stands (r : Row) : Prop where
  isLine : IsLine (expandTabsFrom 4 r.indent r.text)
  oneLine : '\n' ∉ r.text

theorem Row.Sound.stands {r : Row} (h : r.Sound) : r.Stands := by
  cases h with
  | simple h => exact ⟨(h.isSingle.expandTabsFrom _).isLine, fun hc => (h.chars _ hc).2 (by decide)⟩
  | @header n p h =>
    have hword : '\n' ∉ p.word.text.toList :=
      fun hc => absurd (p.word.isWord_of_mem _ hc) (by decide)
    exact ⟨h.isLine _, by simpa [Part.headline, hword] using h.oneLine⟩

/-! ## Splitting -/

theorem splitLinesFrom_rows {rows : List Row} (h : ∀ r ∈ rows, r.Stands) (k : Nat) :
    splitLinesFrom k 0 (rows.map Row.source) = numbered k rows := by
  induction rows generalizing k with
  | nil => rfl
  | cons r rest ih =>
    have hline := (h r List.mem_cons_self).isLine
    have hrest := ih (fun r' hr' => h r' (List.mem_cons_of_mem r hr')) (k + 1)
    have hwide : expandTabs 4 r.source =
        List.replicate r.indent ' ' ++ expandTabsFrom 4 r.indent r.text := by
      rw [expandTabs, Row.source, expandTabsFrom_spaces, Nat.zero_add]
    have htrim : trim (expandTabs 4 r.source) = expandTabsFrom 4 r.indent r.text := by
      rw [hwide, trim_append_left fun c => isBlank_of_mem_spaces, hline.trimmed]
    have hindent : ((expandTabs 4 r.source).takeWhile (· == ' ')).length = r.indent := by
      have hhead := (trim_eq_self_iff.1 hline.trimmed).1
      obtain ⟨c, more, htext⟩ := List.exists_cons_of_ne_nil hline.nonempty
      have hc : (c == ' ') = false := by
        rw [beq_eq_false_iff_ne]
        rintro rfl
        exact absurd (hhead ' ' (by rw [htext]; rfl)) (by decide)
      rw [hwide, htext, List.takeWhile_append_of_pos (by simp), List.takeWhile_cons, hc]
      simp
    have hstarts : ((expandTabsFrom 4 r.indent r.text).isEmpty ||
        (expandTabsFrom 4 r.indent r.text).head? == some '#') = false := by
      simp [hline.nonempty, hline.plain]
    rw [List.map_cons, splitLinesFrom, if_neg (Nat.lt_irrefl 0)]
    simp only [htrim, hstarts, hindent, gather_of_complete hline.complete, hline.alone, hrest]
    rfl

theorem Row.Stands.not_mem_newline {r : Row} (h : r.Stands) : '\n' ∉ r.source := by
  have hspaces : '\n' ∉ List.replicate r.indent ' ' :=
    fun hc => absurd (List.eq_of_mem_replicate hc) (by decide)
  rw [Row.source, List.mem_append, not_or]
  exact ⟨hspaces, h.oneLine⟩

theorem Row.Stands.dropReturn_source {r : Row} (h : r.Stands) : dropReturn r.source = r.source := by
  rw [dropReturn, if_neg]
  have hne : r.text ≠ [] := by
    intro hnil
    have hnonempty := h.isLine.nonempty
    rw [hnil] at hnonempty
    exact hnonempty rfl
  rw [Row.source, List.getLast?_append, List.getLast?_eq_some_getLast hne, Option.some_or]
  intro hreturn
  have hwide := getLast?_expandTabsFrom
    ((List.getLast?_eq_some_getLast hne).trans hreturn) (by decide) r.indent
  have hblank := (trim_eq_self_iff.1 h.isLine.trimmed).2 _ hwide
  cases hblank

theorem physicalLines_rows {rows : List Row} (hne : rows ≠ []) (h : ∀ r ∈ rows, r.Stands) :
    physicalLines (['\n'].intercalate (rows.map Row.source)) = rows.map Row.source := by
  have hlines : ∀ line ∈ rows.map Row.source, '\n' ∉ line ∧ dropReturn line = line := by
    intro line hline
    obtain ⟨r, hr, rfl⟩ := List.mem_map.1 hline
    exact ⟨(h r hr).not_mem_newline, (h r hr).dropReturn_source⟩
  rw [physicalLines_eq,
    cutAt_intercalate (by simpa using hne) fun line hline => (hlines line hline).1]
  generalize rows.map Row.source = lines at hlines
  induction lines using dropReturns.induct with
  | case1 line next more ih =>
    rw [dropReturns, (hlines line List.mem_cons_self).2,
      ih fun l hl => hlines l (List.mem_cons_of_mem line hl)]
  | case2 lines hshort =>
    obtain _ | ⟨line, _ | ⟨next, more⟩⟩ := lines
    · rfl
    · rfl
    · exact absurd rfl (hshort line next more)

theorem splitLines_rows {rows : List Row} (h : ∀ r ∈ rows, r.Stands) :
    splitLines (['\n'].intercalate (rows.map Row.source)) = numbered 1 rows := by
  by_cases hne : rows = []
  · rw [hne]
    rfl
  · rw [splitLines, physicalLines_rows hne h, splitLinesFrom_rows h]

/-- The logical lines of a written tree are its rows. -/
theorem splitLines_source {ts : List Node} (h : Node.allWellFormed ts = true) :
    splitLines (source ts) = numbered 1 (Node.rowsAll 0 ts) :=
  splitLines_rows fun r hr => (Node.rowsAll_sound h 0 r hr).2.stands

end SnippetGrader.Layout
