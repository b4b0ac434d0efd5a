import SnippetGrader.Proofs.Layout.Lines
import SnippetGrader.Proofs.Rendering.Operand
import SnippetGrader.Statement.Execute

/-!
# Blocks and clauses of a written tree

The suite under a header is found again from the indentation alone, whatever its width, and so are
the clauses that follow it: a compound statement is read as the header, suites and clauses of its
node, and takes the lines of the node and no more.
-/

namespace SnippetGrader.Layout

open Text Source Statement

/-! ## First words -/

theorem isWord_head?_expandTabsFrom {text : List Char} (h : ∀ c ∈ text.head?, isWord c = false)
    (column : Nat) : ∀ c ∈ (expandTabsFrom 4 column text).head?, isWord c = false := by
  cases text with
  | nil => exact h
  | cons d rest =>
    by_cases htab : d = '\t'
    · subst htab
      obtain ⟨n, after, hcons⟩ := expandTabsFrom_tab column
      rw [hcons, List.replicate_succ, List.cons_append]
      rintro c ⟨⟩
      decide
    · obtain ⟨after, hcons⟩ := expandTabsFrom_cons htab column
      rw [hcons]
      exact h

theorem IsHead.firstName_headline {p : Part} (h : IsHead p.head) (n : Nat) :
    firstName (expandTabsFrom 4 n p.headline) = p.word.text := by
  obtain ⟨c, letters, hletters, hstart⟩ := p.word.exists_eq_cons
  have hword := p.word.isWord_of_mem
  rw [hletters] at hword
  have hrest : ∀ d ∈ (p.wideHead n ++ [':']).head?, isWord d = false := by
    have hhead := isWord_head?_expandTabsFrom h.apart (n + p.word.text.toList.length)
    rw [← Part.wideHead] at hhead
    cases hwide : p.wideHead n with
    | nil =>
      rintro d ⟨⟩
      decide
    | cons d rest =>
      rw [hwide] at hhead
      exact hhead
  rw [Part.expandTabsFrom_headline, List.append_assoc, firstName, hletters, List.cons_append,
    Rendering.splitName_word hword hstart hrest, ← hletters, String.ofList_toList]

theorem takeWhile_expandTabsFrom (column : Nat) (text : List Char) :
    (expandTabsFrom 4 column text).takeWhile isWord = text.takeWhile isWord := by
  induction text generalizing column with
  | nil => rfl
  | cons c rest ih =>
    by_cases htab : c = '\t'
    · subst htab
      obtain ⟨n, after, hcons⟩ := expandTabsFrom_tab column
      rw [hcons, List.replicate_succ, List.cons_append, List.takeWhile_cons_of_neg (by decide),
        List.takeWhile_cons_of_neg (by decide)]
    · obtain ⟨after, hcons⟩ := expandTabsFrom_cons htab column
      rw [hcons, List.takeWhile_cons, List.takeWhile_cons, ih]

theorem firstName_eq (text : List Char) :
    firstName text =
      String.ofList (if text.head?.any isNameStart then text.takeWhile isWord else []) := by
  cases text with
  | nil => rfl
  | cons c rest =>
    by_cases hc : isNameStart c = true
    · simp [firstName, splitName, List.span_eq_takeWhile_dropWhile, hc]
    · simp [firstName, splitName, hc]

theorem firstName_expandTabsFrom (column : Nat) (text : List Char) :
    firstName (expandTabsFrom 4 column text) = firstName text := by
  have hhead : (expandTabsFrom 4 column text).head?.any isNameStart =
      text.head?.any isNameStart := by
    cases text with
    | nil => rfl
    | cons c rest =>
      by_cases htab : c = '\t'
      · subst htab
        obtain ⟨n, after, hcons⟩ := expandTabsFrom_tab column
        rw [hcons, List.replicate_succ]
        rfl
      · obtain ⟨after, hcons⟩ := expandTabsFrom_cons htab column
        rw [hcons]
        rfl
  rw [firstName_eq, firstName_eq, hhead, takeWhile_expandTabsFrom]

/-! ## Headers -/

theorem IsHead.header_headline {p : Part} (h : IsHead p.head) (n k : Nat) :
    header p.word.text (Row.line k ⟨n, p.headline⟩) = .ok ⟨trim (p.wideHead n), []⟩ := by
  have hcolon := h.headerColon? n
  have hlength : p.word.text.length = p.word.text.toList.length := String.length_toList.symm
  have hend : (p.word.text.toList ++ p.wideHead n ++ [':']).drop
      ((p.word.text.toList ++ p.wideHead n).length + 1) = [] := by
    rw [List.drop_eq_nil_iff]
    exact Nat.le_of_eq List.length_append
  simp only [header, Row.line, hcolon, hlength]
  rw [p.expandTabsFrom_headline n, List.take_left, List.drop_left, hend]
  rfl

/-! ## Lines of rows -/

theorem numbered_append (k : Nat) (a b : List Row) :
    numbered k (a ++ b) = numbered k a ++ numbered (k + a.length) b := by
  induction a generalizing k with
  | nil => rfl
  | cons r rest ih =>
    rw [List.cons_append, numbered, ih, numbered, List.length_cons, List.cons_append,
      Nat.add_assoc, Nat.add_comm 1]

@[simp] theorem length_numbered (k : Nat) (rows : List Row) :
    (numbered k rows).length = rows.length := by
  induction rows generalizing k with
  | nil => rfl
  | cons r rest ih => rw [numbered, List.length_cons, ih, List.length_cons]

theorem exists_of_mem_numbered {k : Nat} {rows : List Row} {l : Line} (h : l ∈ numbered k rows) :
    ∃ r ∈ rows, l.indent = r.indent := by
  induction rows generalizing k with
  | nil => cases h
  | cons r rest ih =>
    obtain rfl | h := List.mem_cons.1 h
    · exact ⟨r, List.mem_cons_self, rfl⟩
    · obtain ⟨r', hr', hindent⟩ := ih h
      exact ⟨r', List.mem_cons_of_mem r hr', hindent⟩

/-! ## Suites -/

/-- The text of the row that a node starts with. -/
def Node.headline : Node → List Char
  | .simple text => text
  | .compound first _ => first.headline

/-- The rows of a node after its first one. -/
def Node.ownRows (n : Nat) : Node → List Row
  | .simple _ => []
  | .compound first more =>
    Node.rowsAll (n + first.extra) first.suite ++ Part.rowsAll n more

theorem Node.rows_eq (t : Node) (n : Nat) : t.rows n = ⟨n, t.headline⟩ :: t.ownRows n := by
  cases t with
  | simple text => rfl
  | compound first more => rw [Node.rows, Part.rows_eq]; rfl

/-- The lines of the suite under a header on line `k`. -/
def Part.lines (n k : Nat) (p : Part) : List Line :=
  numbered (k + 1) (Node.rowsAll (n + p.extra) p.suite)

section Suite

variable {p : Part} (h : p.wellFormed = true) (n k : Nat)
include h

/-- The block under a header is its suite. -/
theorem Part.blockLength_lines {rest : List Line} (hrest : ∀ l ∈ rest.head?, l.indent ≤ n) :
    blockLength n (p.lines n k ++ rest) = (p.lines n k).length := by
  obtain ⟨-, -, hextra, hsuite, hnodes⟩ := (Part.wellFormed_iff p).1 h
  have hlines : ∀ l ∈ p.lines n k, n + p.extra ≤ l.indent := by
    intro l hl
    obtain ⟨r, hr, hindent⟩ := exists_of_mem_numbered hl
    rw [hindent]
    exact (Node.rowsAll_sound hnodes _ r hr).1
  obtain ⟨first, more, hfirst, hindent⟩ : ∃ first more, p.lines n k = first :: more ∧
      first.indent = n + p.extra := by
    obtain ⟨t, ts, hts⟩ := List.exists_cons_of_ne_nil hsuite
    rw [Part.lines, hts, Node.rowsAll, Node.rows_eq]
    exact ⟨_, _, rfl, rfl⟩
  have hblock : (p.lines n k ++ rest).takeWhile (fun l => first.indent ≤ l.indent) =
      p.lines n k := by
    -- a dedent over several levels is no case of its own: what follows starts at `n` or before
    rw [List.takeWhile_append_of_pos (by simpa [hindent] using hlines)]
    cases rest with
    | nil => simp
    | cons l rest =>
      have hl := hrest l rfl
      rw [List.takeWhile_cons_of_neg (by simp; omega), List.append_nil]
  rw [hfirst, List.cons_append] at hblock ⊢
  rw [blockLength, if_neg (by omega), hblock]

theorem Part.body_lines {rest : List Line} (hrest : ∀ l ∈ rest.head?, l.indent ≤ n) :
    body (Row.line k ⟨n, p.headline⟩) [] (p.lines n k ++ rest) =
      ⟨p.lines n k, (p.lines n k).length⟩ := by
  simp only [body, List.isEmpty_nil, if_true, Row.line, p.blockLength_lines h n k hrest,
    List.take_left]

end Suite

/-! ## Clauses -/

/-- The clause that a header on line `k` is read as. -/
def Part.clause (n k : Nat) (p : Part) : Clause :=
  ⟨p.word.text, trim (p.wideHead n), p.lines n k⟩

/-- The clauses that headers are read as, the first of which stands on line `k`. -/
def Part.clauses (n k : Nat) : List Part → List Clause
  | [] => []
  | p :: rest => p.clause n k :: Part.clauses n (k + (p.rows n).length) rest

theorem Word.contains_text (words : List Word) (w : Word) :
    (words.map Word.text).contains w.text = words.contains w := by
  have hinj : Function.Injective Word.text := by
    intro a b
    cases a <;> cases b <;> decide
  rw [Bool.eq_iff_iff, List.contains_iff_mem, List.contains_iff_mem]
  exact List.mem_map_of_injective hinj

theorem clausesFrom_skip (indent : Nat) (words last : List String) (lines rest : List Line) :
    clausesFrom indent words last lines.length (lines ++ rest) =
      clausesFrom indent words last 0 rest := by
  induction lines with
  | nil => rfl
  | cons l lines ih =>
    rw [List.length_cons, List.cons_append, clausesFrom, if_pos (Nat.succ_pos _)]
    exact ih

/-- A line after which no clause of the given words goes on. -/
def Ends (n : Nat) (words : List String) (later : List Line) : Prop :=
  ∀ l ∈ later.head?, l.indent ≤ n ∧ words.contains (firstName l.text) = false

theorem numbered_part (p : Part) (n k : Nat) (rows : List Row) :
    numbered k (p.rows n ++ rows) =
      Row.line k ⟨n, p.headline⟩ :: (p.lines n k ++ numbered (k + (p.rows n).length) rows) := by
  rw [numbered_append, Part.rows_eq, numbered]
  rfl

theorem indent_head?_clauses {n : Nat} {words : List String} {later : List Line}
    (hlater : Ends n words later) (ps : List Part) (k : Nat) :
    ∀ l ∈ (numbered k (Part.rowsAll n ps) ++ later).head?, l.indent ≤ n := by
  cases ps with
  | nil => exact fun l hl => (hlater l hl).1
  | cons p ps =>
    rw [Part.rowsAll, numbered_part]
    rintro l ⟨⟩
    exact Nat.le_refl n

/-- The clauses of a node are read one after the other, up to what follows the node. -/
theorem clausesFrom_parts {words closers : List Word} {ps : List Part}
    (h : Part.allWellFormed ps = true) (hwords : areClauses words closers (ps.map Part.word) = true)
    {n : Nat} {later : List Line} (hlater : Ends n (words.map Word.text) later) (k : Nat) :
    clausesFrom n (words.map Word.text) (closers.map Word.text) 0
        (numbered k (Part.rowsAll n ps) ++ later) =
      .ok (Part.clauses n k ps, (Part.rowsAll n ps).length) := by
  induction ps generalizing k with
  | nil =>
    cases later with
    | nil => rfl
    | cons l later =>
      have hl := (hlater l rfl).2
      simp only [Part.rowsAll, numbered, List.nil_append, clausesFrom, Nat.lt_irrefl, if_false, hl,
        Bool.and_false]
      rfl
  | cons p ps ih =>
    rw [Part.allWellFormed, Bool.and_eq_true] at h
    rw [List.map_cons, areClauses, Bool.and_eq_true] at hwords
    obtain ⟨hhead, -⟩ := (Part.wellFormed_iff p).1 h.1
    have hrest := indent_head?_clauses hlater ps (k + (p.rows n).length)
    have hbody := p.body_lines h.1 n k hrest
    have hword : firstName (Row.line k ⟨n, p.headline⟩).text = p.word.text :=
      hhead.firstName_headline n
    have hlength : (p.rows n).length = (p.lines n k).length + 1 := by
      rw [Part.rows_eq, Part.lines, length_numbered, List.length_cons]
    rw [Part.rowsAll, numbered_part, List.cons_append, List.append_assoc, clausesFrom]
    have hindent : ((Row.line k ⟨n, p.headline⟩).indent == n) = true := beq_self_eq_true n
    simp only [gt_iff_lt, Nat.lt_irrefl, if_false, hword, hindent, Word.contains_text, hwords.1,
      Bool.and_self, if_true, hhead.header_headline n k, bind, Except.bind, hbody]
    -- a closing word ends the chain, so the clauses after it need not be read
    by_cases hclose : closers.contains p.word = true
    · rw [if_pos hclose, List.isEmpty_iff, List.map_eq_nil_iff] at hwords
      rw [if_pos hclose, hwords.2, Part.rowsAll, List.append_nil, hlength, Nat.add_comm]
      rfl
    · rw [if_neg hclose] at hwords
      rw [if_neg hclose, clausesFrom_skip, ih h.2 hwords.2, List.length_append, hlength,
        Nat.add_comm 1]
      rw [Part.clauses, hlength]
      rfl

/-! ## Compound statements -/

/-- The compound statement that a node is read as, where its header stands on line `k`. -/
def reading (n k : Nat) (first : Part) (more : List Part) : Compound where
  head := trim (first.wideHead n)
  lines := first.lines n k
  clauses := Part.clauses n (k + (first.rows n).length) more
  used := (first.lines n k).length + (Part.rowsAll n more).length

/-- A compound statement is read as its node, whatever lines follow that do not go on with it. -/
theorem compound_reading {first : Part} {more : List Part}
    (h : (Node.compound first more).wellFormed = true) {n : Nat} {later : List Line}
    (hlater : Ends n (first.word.followers.map Word.text) later) (k : Nat) :
    compound first.word.text (first.word.followers.map Word.text)
        (first.word.closers.map Word.text) (Row.line k ⟨n, first.headline⟩)
        (numbered (k + 1) ((Node.compound first more).ownRows n) ++ later) =
      .ok (reading n k first more) := by
  obtain ⟨-, hwords, -, hfirst, hmore⟩ := (Node.wellFormed_compound_iff first more).1 h
  obtain ⟨hhead, -⟩ := (Part.wellFormed_iff first).1 hfirst
  have hown : numbered (k + 1) ((Node.compound first more).ownRows n) =
      first.lines n k ++ numbered (k + (first.rows n).length) (Part.rowsAll n more) := by
    rw [Node.ownRows, numbered_append, Part.rows_eq, List.length_cons, Nat.add_assoc,
      Nat.add_comm 1]
    rfl
  have hrest := indent_head?_clauses hlater more (k + (first.rows n).length)
  have hbody := first.body_lines hfirst n k hrest
  have hclauses := clausesFrom_parts hmore hwords hlater (k + (first.rows n).length)
  have hindent : (Row.line k ⟨n, first.headline⟩).indent = n := rfl
  rw [hown, List.append_assoc]
  simp only [compound, hhead.header_headline n k, bind, Except.bind, hbody, hindent,
    clausesFrom_skip, hclauses]
  rfl

theorem Word.followers_clause (w : Word) : ∀ v ∈ w.followers, v.kind = .clause := by
  cases w <;> decide

theorem Word.text_mem_compoundWords (w : Word) : w.text ∈ compoundWords := by
  cases w <;> decide

/-- The node after another one does not go on with it. -/
theorem ends_nodes {ts : List Node} (h : Node.allWellFormed ts = true) (w : Word) (n k : Nat) :
    Ends n (w.followers.map Word.text) (numbered k (Node.rowsAll n ts)) := by
  cases ts with
  | nil => exact fun l hl => absurd hl (by simp [Node.rowsAll, numbered])
  | cons t ts =>
    rw [Node.allWellFormed, Bool.and_eq_true] at h
    rw [Node.rowsAll, Node.rows_eq, List.cons_append, numbered]
    rintro l ⟨⟩
    refine ⟨Nat.le_refl n, ?_⟩
    cases t with
    | simple text =>
      have hsimple : IsSimple text := of_decide_eq_true h.1
      have hword : firstName (Row.line k ⟨n, text⟩).text ∉ compoundWords := by
        rw [Row.line, firstName_expandTabsFrom]
        exact hsimple.word
      rw [Bool.eq_false_iff, ne_eq, List.contains_iff_mem]
      intro hmem
      obtain ⟨v, -, hv⟩ := List.mem_map.1 hmem
      exact hword (hv ▸ v.text_mem_compoundWords)
    | compound first more =>
      obtain ⟨hkind, -, -, hfirst, -⟩ := (Node.wellFormed_compound_iff first more).1 h.1
      obtain ⟨hhead, -⟩ := (Part.wellFormed_iff first).1 hfirst
      have hword : firstName (Row.line k ⟨n, first.headline⟩).text = first.word.text :=
        hhead.firstName_headline n
      rw [Node.headline, hword, Word.contains_text, Bool.eq_false_iff, ne_eq, List.contains_iff_mem]
      exact fun hmem => hkind (w.followers_clause _ hmem)

end SnippetGrader.Layout
