import SnippetGrader.Proofs.Layout.Lines

/-!
# Statements that share a line

A line is cut at its semicolons unless it has a header colon, and a header colon is any colon at
depth zero that no `=` follows, wherever it stands. So whether two statements with a semicolon
between them are two logical lines depends on both of them: neither may hold such a colon. On lines
of their own they always are.
-/

namespace SnippetGrader.Source

open Text Layout

/-! ## Colons -/

/-- Whether a text has a colon in code at depth zero that no `=` follows. -/
def Reader.meetsColon (r : Reader) : List Char → Bool
  | [] => false
  | c :: rest =>
    ((r.step c rest).2 == .code 0 && c == ':' && rest.head? != some '=') ||
      Reader.meetsColon (r.step c rest).1 rest

theorem Symbol.at?_colon (rest : List Char) :
    Symbol.at? (':' :: rest) = some (if rest.head? = some '=' then .walrus else .colon) := by
  cases rest with
  | nil => decide
  | cons c rest =>
    by_cases hc : c = '='
    · simp [Symbol.at?, Symbol.all, Symbol.chars, startsWith, Symbol.isSymbolChar, hc]
    · simp [Symbol.at?, Symbol.all, Symbol.chars, startsWith, Symbol.isSymbolChar, hc, Ne.symm hc]

/-- A symbol is a colon where its first character is one that no `=` follows. -/
theorem Symbol.at?_eq_colon {c : Char} {rest : List Char} {s : Symbol}
    (h : Symbol.at? (c :: rest) = some s) :
    (s == .colon) = (c == ':' && rest.head? != some '=') := by
  by_cases hc : c = ':'
  · rw [hc, Symbol.at?_colon] at h
    cases h
    by_cases heq : rest.head? = some '='
    · simp [hc, heq]
    · simp [hc, heq]
  · have hs : s ≠ .colon := by
      rintro rfl
      exact hc (List.cons_prefix_cons.1 (Symbol.at?_prefix h)).1.symm
    rw [beq_eq_false_iff_ne.2 hs, beq_eq_false_iff_ne.2 hc, Bool.false_and]

/-- A colon among the symbols of a text; none is among the characters that belong to the symbol
in front of it. -/
theorem any_colon_tokensFrom {r : Reader} {skip : Nat} {text : List Char}
    (hskip : ':' ∉ text.take skip) (i : Nat) :
    (tokensFrom r i skip text).any (fun t => t.symbol == .colon) = Reader.meetsColon r text := by
  induction text generalizing r skip i with
  | nil => rfl
  | cons c rest ih =>
    cases skip with
    | succ skip =>
      rw [List.take_succ_cons, List.mem_cons, not_or] at hskip
      have hc : (c == ':') = false := beq_false_of_ne (Ne.symm hskip.1)
      have hrest := ih (r := (r.step c rest).1) hskip.2 (i + 1)
      simpa [tokensFrom, Reader.meetsColon, hc] using hrest
    | zero =>
      simp only [tokensFrom, Reader.meetsColon, Nat.lt_irrefl, gt_iff_lt, if_false]
      by_cases hplace : (r.step c rest).2 = .code 0
      · cases hat : Symbol.at? (c :: rest) with
        | none =>
          have hc : (c == ':') = false := by
            rw [beq_eq_false_iff_ne]
            rintro rfl
            rw [Symbol.at?_colon] at hat
            cases hat
          simp [hplace, hc, ih]
        | some s =>
          have htail : ':' ∉ rest.take (s.length - 1) := by
            intro hmem
            obtain ⟨more, hmore⟩ := Symbol.at?_prefix hat
            have hlength : s.length - 1 = s.chars.tail.length := List.length_tail.symm
            obtain ⟨d, tail, hchars⟩ : ∃ d tail, s.chars = d :: tail := by
              cases s <;> exact ⟨_, _, rfl⟩
            rw [hchars, List.cons_append, List.cons.injEq] at hmore
            rw [hlength, hchars, List.tail_cons, ← hmore.2, List.take_left] at hmem
            exact s.colon_not_mem_tail (by rw [hchars]; exact hmem)
          simp [hplace, ih htail, Symbol.at?_eq_colon hat]
      · simp [hplace, ih]

theorem headerColon?_isSome (text : List Char) :
    (headerColon? text).isSome = Reader.meetsColon {} text := by
  have hskip : ':' ∉ text.take 0 := by simp
  rw [← any_colon_tokensFrom hskip 0, headerColon?, Option.isSome_map, List.isSome_find?, tokens]

/-! ## Texts without literals -/

section Unquoted

variable {d : Nat}

theorem Reader.meetsColon_append {a b : List Char} (ha : ∀ c ∈ a, isQuote c = false)
    (hb : b.head? ≠ some '=') :
    Reader.meetsColon ⟨.code, d⟩ (a ++ b) = (Reader.meetsColon ⟨.code, d⟩ a ||
      Reader.meetsColon (Reader.after ⟨.code, d⟩ a) b) := by
  induction a generalizing d with
  | nil => rfl
  | cons c rest ih =>
    obtain ⟨d', place, hstep⟩ := Reader.step_unquoted (ha c List.mem_cons_self) d
    have hhead : ((rest ++ b).head? != some '=') = (rest.head? != some '=') := by
      cases rest with
      | nil => exact bne_iff_ne.2 hb
      | cons e rest => rfl
    simp only [List.cons_append, Reader.meetsColon, Reader.after, hstep, hhead, Bool.or_assoc,
      ih fun e he => ha e (List.mem_cons_of_mem c he)]

theorem Reader.meetsColon_spaces (n : Nat) (text : List Char) :
    Reader.meetsColon ⟨.code, d⟩ (List.replicate n ' ' ++ text) =
      Reader.meetsColon ⟨.code, d⟩ text := by
  induction n with
  | zero => rfl
  | succ n ih =>
    have hstep (rest : List Char) : Reader.step ⟨.code, d⟩ ' ' rest = (⟨.code, d⟩, .code d) :=
      Rendering.step_plain (by decide) d rest
    simp only [List.replicate_succ, List.cons_append, Reader.meetsColon, hstep, ih]
    simp

/-- Expanding tabs neither adds nor hides a colon. -/
theorem Reader.meetsColon_expandTabsFrom {text : List Char} (h : ∀ c ∈ text, isQuote c = false)
    (column : Nat) :
    Reader.meetsColon ⟨.code, d⟩ (expandTabsFrom 4 column text) =
      Reader.meetsColon ⟨.code, d⟩ text := by
  induction text generalizing d column with
  | nil => rfl
  | cons c rest ih =>
    have hrest := fun d' column' =>
      ih (d := d') (fun e he => h e (List.mem_cons_of_mem c he)) column'
    by_cases htab : c = '\t'
    · subst htab
      obtain ⟨n, after, hcons⟩ := expandTabsFrom_tab column
      have hstep : Reader.step ⟨.code, d⟩ '\t' rest = (⟨.code, d⟩, .code d) :=
        Rendering.step_plain (by decide) d rest
      rw [hcons, Reader.meetsColon_spaces, hrest]
      simp [Reader.meetsColon, hstep]
    · obtain ⟨after, hcons⟩ := expandTabsFrom_cons htab column
      obtain ⟨d', place, hstep⟩ := Reader.step_unquoted (h c List.mem_cons_self) d
      have hhead : ((expandTabsFrom 4 after rest).head? != some '=') = (rest.head? != some '=') := by
        rw [bne, bne, head?_expandTabsFrom (by decide) (by decide)]
      simp only [hcons, Reader.meetsColon, hstep, hhead, hrest]

end Unquoted

end SnippetGrader.Source

namespace SnippetGrader.Layout

open Text Source

/-! ## One line for two statements -/

/-- Two statements with a semicolon between them. -/
def separated (a b : List Char) : List Char := a ++ ';' :: ' ' :: b

theorem meetsColon_separated {a : List Char} (ha : IsSingle a) (b : List Char) :
    Reader.meetsColon {} (separated a b) =
      (Reader.meetsColon {} a || Reader.meetsColon {} b) := by
  have happend := Reader.meetsColon_append (d := 0) (b := ';' :: ' ' :: b)
    (fun c hc => (ha.chars c hc).1) (by simp)
  have hrest : Reader.meetsColon {} (';' :: ' ' :: b) = Reader.meetsColon {} b := rfl
  rw [separated, happend, ha.closed, hrest]

section Separated

variable {a b : List Char} (ha : IsSingle a) (hb : IsSingle b)
include ha hb

theorem unquoted_separated : ∀ c ∈ separated a b, isQuote c = false ∧ c ∉ ['\n', '#', '\\'] := by
  intro c hc
  simp only [separated, List.mem_append, List.mem_cons] at hc
  obtain hc | rfl | rfl | hc := hc
  · exact ha.chars c hc
  · decide
  · decide
  · exact hb.chars c hc

theorem after_separated : Reader.after {} (separated a b) = {} := by
  have hquote : ∀ c ∈ (';' :: ' ' :: b).head?, isQuote c = false := by
    rintro c ⟨⟩
    decide
  rw [separated, Reader.after_append hquote (Reader.fits_code 0 a), ha.closed]
  exact hb.closed

theorem admits_noComment_separated : Reader.admits noComment {} (separated a b) = true := by
  refine Reader.admits_of_forall fun c hc place => ?_
  have hchar := (unquoted_separated ha hb c hc).2
  simp only [List.mem_cons, not_or] at hchar
  simp [Source.noComment, hchar.2.1]

theorem trim_separated : trim (separated a b) = separated a b := by
  have hlast : (separated a b).getLast? = b.getLast? := by
    obtain ⟨c, rest, rfl⟩ := List.exists_cons_of_ne_nil hb.nonempty
    rw [separated, List.getLast?_append, List.getLast?_cons_cons, List.getLast?_cons_cons,
      List.getLast?_eq_some_getLast (List.cons_ne_nil c rest), Option.some_or]
  have hhead : (separated a b).head? = a.head? := by
    obtain ⟨c, rest, rfl⟩ := List.exists_cons_of_ne_nil ha.nonempty
    rfl
  rw [trim_eq_self_iff, hlast, hhead]
  exact ⟨(trim_eq_self_iff.1 ha.trimmed).1, (trim_eq_self_iff.1 hb.trimmed).2⟩

/-- The semicolon cuts the line into the two statements. -/
theorem cutTopLevel_separated : cutTopLevel ';' (separated a b) = [a, b] := by
  have hblank : (separated a b).all isBlank = false := by
    rw [Bool.eq_false_iff, ne_eq, List.all_eq_true, ← trimEnd_eq_nil, ← trim_eq_nil,
      trim_separated ha hb]
    simp [separated]
  have hfirst := cutTopLevelFrom_append (b := ';' :: ' ' :: b) (by rintro c ⟨⟩; decide)
    (Reader.fits_code 0 a) ha.semicolon []
  have hsecond := cutTopLevelFrom_append (b := []) (by simp) (Reader.fits_code 0 b) hb.semicolon
    [' ']
  rw [List.append_nil] at hsecond
  have hcut : cutTopLevelFrom ';' {} [] (separated a b) = [a, ' ' :: b] := by
    have hstep : cutTopLevelFrom ';' {} (a.reverse ++ []) (';' :: ' ' :: b) =
        (a.reverse ++ []).reverse :: cutTopLevelFrom ';' {} [' '] b := rfl
    rw [separated, hfirst, ha.closed, hstep, hsecond]
    simp [cutTopLevelFrom]
  have hspace : trim (' ' :: b) = trim b := trim_append_left Rendering.isBlank_space b
  simp [cutTopLevel, hblank, hcut, ha.trimmed, hb.trimmed, hspace]

theorem statements_separated (indent number : Nat) :
    statements (separated a b) indent number =
      if Reader.meetsColon {} a || Reader.meetsColon {} b then [⟨separated a b, indent, number⟩]
      else [⟨a, indent, number⟩, ⟨b, indent, number⟩] := by
  have hsemicolon : (separated a b).contains ';' = true := by simp [separated]
  have hne : (separated a b).isEmpty = false := by simp [separated]
  have hcolon : (headerColon? (separated a b)).isNone =
      !(Reader.meetsColon {} a || Reader.meetsColon {} b) := by
    rw [← meetsColon_separated ha, ← headerColon?_isSome, Option.not_isSome]
  simp only [statements, stripComment_eq_self (admits_noComment_separated ha hb),
    trim_separated ha hb, hne, hcolon, hsemicolon, cutTopLevel_separated ha hb, Bool.and_true]
  cases Reader.meetsColon {} a || Reader.meetsColon {} b <;> simp [ha.nonempty, hb.nonempty]

end Separated

/-- The logical lines of a source that is one complete physical line. -/
theorem splitLines_of_complete {text : List Char} (hnewline : '\n' ∉ text) (hne : text ≠ [])
    (htrim : trim (expandTabs 4 text) = expandTabs 4 text)
    (hplain : (expandTabs 4 text).head? ≠ some '#') (hcomplete : isOpen (expandTabs 4 text) = false) :
    splitLines text = statements (expandTabs 4 text) 0 1 := by
  have hlines : physicalLines text = [text] := by
    have hcut := cutAt_intercalate (List.cons_ne_nil text []) (by simpa using hnewline)
    rw [List.intercalate_singleton] at hcut
    rw [physicalLines_eq, hcut]
    rfl
  have hwide : expandTabs 4 text ≠ [] := expandTabsFrom_ne_nil hne 0
  have hindent : ((expandTabs 4 text).takeWhile (· == ' ')).length = 0 := by
    obtain ⟨c, rest, hcons⟩ := List.exists_cons_of_ne_nil hwide
    have hc : (c == ' ') = false := by
      rw [beq_eq_false_iff_ne]
      rintro rfl
      exact absurd ((trim_eq_self_iff.1 htrim).1 ' ' (by rw [hcons]; rfl)) (by decide)
    rw [hcons, List.takeWhile_cons, hc]
    rfl
  rw [splitLines, hlines, splitLinesFrom, if_neg (Nat.lt_irrefl 0)]
  simp [htrim, hwide, hplain, hindent, gather_of_complete hcomplete, splitLinesFrom]

/-- **Two statements on one line and on two.** With a semicolon between them they are two logical
lines if neither has a header colon, and one line otherwise; with a line end between them they
always are two. Tabs are written as spaces up to the columns of the line they stand on. -/
theorem texts_separated {a b : List Char} (ha : IsSingle a) (hb : IsSingle b) :
    ((splitLines (separated a b)).map Line.text =
      if Reader.meetsColon {} a || Reader.meetsColon {} b then
        [separated (expandTabs 4 a) (expandTabsFrom 4 (columnAfter 0 a + 2) b)]
      else [expandTabs 4 a, expandTabsFrom 4 (columnAfter 0 a + 2) b]) ∧
    (splitLines (a ++ '\n' :: b)).map Line.text = [expandTabs 4 a, expandTabs 4 b] := by
  constructor
  · have hwideA := ha.expandTabsFrom 0
    have hwideB := hb.expandTabsFrom (columnAfter 0 a + 2)
    have hwide : expandTabs 4 (separated a b) =
        separated (expandTabs 4 a) (expandTabsFrom 4 (columnAfter 0 a + 2) b) := by
      rw [expandTabs, separated, expandTabsFrom_append]
      rfl
    have hchars := unquoted_separated hwideA hwideB
    have hcomplete : isOpen (expandTabs 4 (separated a b)) = false := by
      rw [hwide]
      refine isOpen_eq_false (admits_noComment_separated hwideA hwideB)
        (after_separated hwideA hwideB) fun hlast => ?_
      exact (hchars _ (List.mem_of_getLast? hlast)).2 (by decide)
    rw [splitLines_of_complete
      (fun hc => (unquoted_separated ha hb _ hc).2 (by decide))
      (by simp [separated]) (by rw [hwide]; exact trim_separated hwideA hwideB)
      (by rw [hwide]; exact fun hhead => (hchars _ (List.mem_of_mem_head? hhead)).2 (by decide))
      hcomplete]
    have hcolonA : Reader.meetsColon {} (expandTabsFrom 4 0 a) = Reader.meetsColon {} a :=
      Reader.meetsColon_expandTabsFrom (fun c hc => (ha.chars c hc).1) 0
    have hcolonB : Reader.meetsColon {} (expandTabsFrom 4 (columnAfter 0 a + 2) b) =
        Reader.meetsColon {} b :=
      Reader.meetsColon_expandTabsFrom (fun c hc => (hb.chars c hc).1) _
    rw [hwide, expandTabs, statements_separated hwideA hwideB, hcolonA, hcolonB]
    split <;> rfl
  · have hstands {text : List Char} (h : IsSingle text) : Row.Stands ⟨0, text⟩ :=
      ⟨(h.expandTabsFrom 0).isLine, fun hc => (h.chars _ hc).2 (by decide)⟩
    have hlines := splitLines_rows
      (List.forall_mem_cons.2 ⟨hstands ha, List.forall_mem_singleton.2 (hstands hb)⟩)
    have hsource : ['\n'].intercalate (List.map Row.source [⟨0, a⟩, ⟨0, b⟩]) = a ++ '\n' :: b := by
      simp [Row.source, List.intercalate, List.intersperse]
    rw [← hsource, hlines]
    rfl

theorem texts_separated_assignments :
    (splitLines (separated "x = [1, 2]".toList "y\t= 3".toList)).map Line.text =
      ["x = [1, 2]".toList, "y   = 3".toList] := by
  have ha : IsSingle "x = [1, 2]".toList := by decide
  have hb : IsSingle "y\t= 3".toList := by decide
  rw [(texts_separated ha hb).1]
  decide

/-- The colon of an annotation is taken for that of a header: the second statement becomes part of
the first. -/
theorem texts_separated_annotated :
    (IsSingle "x: int = 5".toList ∧ firstName "x: int = 5".toList ∉ compoundWords) ∧
      (IsSingle "y = 2".toList ∧ firstName "y = 2".toList ∉ compoundWords) ∧
      (splitLines (separated "x: int = 5".toList "y = 2".toList)).map Line.text =
        ["x: int = 5; y = 2".toList] :=
  ⟨⟨by decide, by decide⟩, ⟨by decide, by decide⟩, by decide +kernel⟩

end SnippetGrader.Layout
