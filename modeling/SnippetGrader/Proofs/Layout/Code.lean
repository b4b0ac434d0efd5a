import SnippetGrader.Proofs.Layout.Physical

/-!
# Code on lines without quotation marks

On a line without quotation marks the code ends at the first `#`, and the open brackets are counted
along the code. What a statement holds and whether it goes on are read off so, for the line that it
starts on and for the lines that are joined to it.
-/

namespace SnippetGrader.Layout

open Text Source

/-! ## Code -/

/-- The part of a line in front of its comment. -/
def codePart (line : List Char) : List Char := line.takeWhile (· != '#')

/-- The number of open brackets after a character outside string literals. -/
def depthStep (depth : Nat) (c : Char) : Nat :=
  if isCloser c then depth - 1 else if isOpener c then depth + 1 else depth

/-- The number of open brackets after a text without quotation marks. -/
def depthAfter (depth : Nat) (text : List Char) : Nat := text.foldl depthStep depth

/-- Whether a line ends in a backslash, blanks apart. -/
def continues (line : List Char) : Bool := (trimEnd line).getLast? == some '\\'

theorem codePart_of_not_mem {line : List Char} (h : '#' ∉ line) : codePart line = line := by
  rw [codePart, List.takeWhile_eq_self_iff]
  intro c hc
  simpa using fun heq : c = '#' => h (heq ▸ hc)

theorem not_mem_codePart (line : List Char) : '#' ∉ codePart line := by
  intro h
  simpa using List.mem_takeWhile_imp h

theorem mem_of_mem_codePart {c : Char} {line : List Char} (h : c ∈ codePart line) : c ∈ line :=
  (List.takeWhile_prefix _).subset h

theorem codePart_append {a : List Char} (h : '#' ∉ a) (b : List Char) :
    codePart (a ++ b) = a ++ codePart b :=
  List.takeWhile_append_of_pos fun c hc => by simpa using fun heq : c = '#' => h (heq ▸ hc)

theorem codePart_append_of_mem {a : List Char} (h : '#' ∈ a) (b : List Char) :
    codePart (a ++ b) = codePart a := by
  obtain ⟨x, y, rfl, hx⟩ := List.eq_append_cons_of_mem h
  rw [List.append_assoc, codePart_append hx, codePart_append hx]
  simp [codePart]

theorem codePart_trimStart (line : List Char) :
    codePart (trimStart line) = trimStart (codePart line) := by
  induction line with
  | nil => rfl
  | cons c rest ih =>
    by_cases hc : isBlank c = true
    · have hne : c ≠ '#' := by
        rintro rfl
        exact absurd hc (by decide)
      simpa [codePart, trimStart, hc, hne] using ih
    · by_cases hne : c = '#'
      · subst hne
        rfl
      · simp [codePart, trimStart, hc, hne]

theorem trimEnd_codePart_append (line : List Char) {blanks : List Char}
    (h : ∀ c ∈ blanks, isBlank c = true) :
    trimEnd (codePart (line ++ blanks)) = trimEnd (codePart line) := by
  by_cases hmem : '#' ∈ line
  · rw [codePart_append_of_mem hmem]
  · rw [codePart_append hmem, codePart_of_not_mem hmem,
      trimEnd_append_blank _ fun c hc => h c (mem_of_mem_codePart hc)]

theorem trimEnd_codePart_trim (line : List Char) :
    trimEnd (codePart (trim line)) = trim (codePart line) := by
  obtain ⟨blanks, hblanks, hline⟩ := exists_trimEnd line
  rw [trim_eq line, codePart_trimStart, ← trim]
  refine trim_congr ?_
  conv_rhs => rw [hline, trimEnd_codePart_append _ hblanks]

theorem codePart_expandTabsFrom (column : Nat) (line : List Char) :
    codePart (expandTabsFrom 4 column line) = expandTabsFrom 4 column (codePart line) := by
  induction line generalizing column with
  | nil => rfl
  | cons c rest ih =>
    by_cases htab : c = '\t'
    · subst htab
      have hspaces (n : Nat) : '#' ∉ List.replicate n ' ' :=
        fun h => absurd (List.eq_of_mem_replicate h) (by decide)
      obtain ⟨n, after, hcons⟩ := expandTabsFrom_tab column
      have hcode : codePart ('\t' :: rest) = '\t' :: codePart rest := rfl
      rw [hcons, hcode, hcons, codePart_append (hspaces (n + 1)), ih]
    · obtain ⟨after, hcons⟩ := expandTabsFrom_cons htab column
      by_cases hc : c = '#'
      · subst hc
        rw [hcons]
        rfl
      · have hcode (more : List Char) : codePart (c :: more) = c :: codePart more := by
          simp [codePart, hc]
        rw [hcons, hcode, hcode, hcons, ih]

/-! ## Open brackets -/

theorem depthStep_of_isBlank {c : Char} (h : isBlank c = true) (depth : Nat) :
    depthStep depth c = depth := by
  have hne (d : Char) (hd : isBlank d = false) : (c == d) = false := by
    rw [beq_eq_false_iff_ne]
    rintro rfl
    rw [h] at hd
    cases hd
  simp [depthStep, isCloser, isOpener, hne '(' (by decide), hne ')' (by decide),
    hne '[' (by decide), hne ']' (by decide), hne '{' (by decide), hne '}' (by decide)]

theorem depthAfter_append (depth : Nat) (a b : List Char) :
    depthAfter depth (a ++ b) = depthAfter (depthAfter depth a) b :=
  List.foldl_append

theorem depthAfter_blank {text : List Char} (h : ∀ c ∈ text, isBlank c = true) (depth : Nat) :
    depthAfter depth text = depth := by
  induction text with
  | nil => rfl
  | cons c rest ih =>
    rw [depthAfter, List.foldl_cons, depthStep_of_isBlank (h c List.mem_cons_self)]
    exact ih fun d hd => h d (List.mem_cons_of_mem c hd)

theorem depthAfter_trimEnd (depth : Nat) (text : List Char) :
    depthAfter depth (trimEnd text) = depthAfter depth text := by
  obtain ⟨blanks, hblanks, htext⟩ := exists_trimEnd text
  conv_rhs => rw [htext, depthAfter_append, depthAfter_blank hblanks]

theorem depthAfter_trim (depth : Nat) (text : List Char) :
    depthAfter depth (trim text) = depthAfter depth text := by
  have hblanks : ∀ c ∈ text.takeWhile isBlank, isBlank c = true :=
    fun c hc => List.mem_takeWhile_imp hc
  have hstart : depthAfter depth (trimStart text) = depthAfter depth text := by
    conv_rhs => rw [← List.takeWhile_append_dropWhile (p := isBlank) (l := text),
      depthAfter_append, depthAfter_blank hblanks]
    rfl
  rw [trim, depthAfter_trimEnd, hstart]

theorem depthAfter_expandTabsFrom (column depth : Nat) (text : List Char) :
    depthAfter depth (expandTabsFrom 4 column text) = depthAfter depth text := by
  induction text generalizing column depth with
  | nil => rfl
  | cons c rest ih =>
    by_cases htab : c = '\t'
    · subst htab
      obtain ⟨n, after, hcons⟩ := expandTabsFrom_tab column
      rw [hcons, depthAfter_append, depthAfter_blank fun d => isBlank_of_mem_spaces, ih]
      rfl
    · obtain ⟨after, hcons⟩ := expandTabsFrom_cons htab column
      rw [hcons]
      exact ih after _

/-! ## Text without quotation marks -/

theorem step_of_unquoted {c : Char} (h : isQuote c = false) (depth : Nat) (rest : List Char) :
    ∃ place, Reader.step ⟨.code, depth⟩ c rest = (⟨.code, depthStep depth c⟩, .code place) := by
  simp only [Reader.step, h, depthStep]
  cases isCloser c <;> cases isOpener c <;> exact ⟨_, rfl⟩

theorem unquoted_of_all {text : List Char} (h : (text.all fun c => !isQuote c) = true) :
    ∀ c ∈ text, isQuote c = false := by
  simpa using h

section Unquoted

variable {text : List Char} (h : ∀ c ∈ text, isQuote c = false)
include h

theorem balanceFrom_of_unquoted (depth : Nat) :
    balanceFrom ⟨.code, depth⟩ text = ⟨depthAfter depth (codePart text), false⟩ := by
  induction text generalizing depth with
  | nil => rfl
  | cons c rest ih =>
    by_cases hc : c = '#'
    · subst hc
      rfl
    · obtain ⟨place, hstep⟩ := step_of_unquoted (h c List.mem_cons_self) depth rest
      have hrest := ih (fun d hd => h d (List.mem_cons_of_mem c hd)) (depthStep depth c)
      simp [balanceFrom, hstep, hrest, codePart, hc, depthAfter]

theorem isOpen_of_unquoted :
    isOpen text =
      (decide (0 < depthAfter 0 (codePart text)) || text.getLast? == some '\\') := by
  simp [isOpen, balance, balanceFrom_of_unquoted h]

theorem find?_comment_of_unquoted (depth i : Nat) :
    ((scanFrom ⟨.code, depth⟩ i text).find? fun m => m.char == '#').map (·.index) =
      if '#' ∈ text then some (i + (codePart text).length) else none := by
  induction text generalizing depth i with
  | nil => rfl
  | cons c rest ih =>
    obtain ⟨place, hstep⟩ := step_of_unquoted (h c List.mem_cons_self) depth rest
    by_cases hc : c = '#'
    · subst hc
      simp [scanFrom, hstep, codePart]
    · have hrest := ih (fun d hd => h d (List.mem_cons_of_mem c hd)) (depthStep depth c) (i + 1)
      have hcode : codePart (c :: rest) = c :: codePart rest := by simp [codePart, hc]
      have hmem : '#' ∈ c :: rest ↔ '#' ∈ rest := by simp [Ne.symm hc]
      simp only [scanFrom, hstep, List.find?_cons, beq_false_of_ne hc, hrest, hmem, hcode,
        List.length_cons, Nat.add_assoc, Nat.add_comm 1]

theorem trim_stripComment_of_unquoted : trim (stripComment text) = trim (codePart text) := by
  have hfind := find?_comment_of_unquoted h 0 0
  unfold stripComment scan
  split
  · next m hm =>
    rw [hm, Option.map_some, Nat.zero_add] at hfind
    split at hfind
    · have hindex : m.index = (codePart text).length := Option.some.inj hfind
      have htake : text.take m.index = codePart text := by
        rw [hindex]
        exact (List.prefix_iff_eq_take.1 (List.takeWhile_prefix _)).symm
      rw [htake]
      exact trim_congr (trimEnd_trimEnd _)
    · cases hfind
  · next hm =>
    rw [hm] at hfind
    split at hfind
    · cases hfind
    · next hmem => rw [codePart_of_not_mem hmem]

end Unquoted

/-- Two statement texts without quotation marks that differ in comments only. -/
structure SameText (a b : List Char) : Prop where
  code : trim (codePart a) = trim (codePart b)
  left : ∀ c ∈ a, isQuote c = false
  right : ∀ c ∈ b, isQuote c = false

/-- The logical lines of a statement depend on its code only. -/
theorem SameText.statements {a b : List Char} (h : SameText a b) (indent number : Nat) :
    statements a indent number = statements b indent number := by
  simp only [Source.statements, trim_stripComment_of_unquoted h.left,
    trim_stripComment_of_unquoted h.right, h.code]

/-! ## Joining lines -/

/-- What is kept of an unfinished statement when a line is joined to it. -/
def stem (buffer : List Char) : List Char :=
  if buffer.getLast? == some '\\' then trimEnd buffer.dropLast else buffer

theorem mem_of_mem_stem {buffer : List Char} {c : Char} (h : c ∈ stem buffer) : c ∈ buffer := by
  unfold stem at h
  split at h
  · exact (List.dropLast_sublist buffer).subset (mem_of_mem_trimEnd h)
  · exact h

theorem depthAfter_stem (depth : Nat) (buffer : List Char) :
    depthAfter depth (stem buffer) = depthAfter depth buffer := by
  unfold stem
  split
  · next hlast =>
    obtain ⟨front, rfl⟩ := List.getLast?_eq_some_iff.1 (beq_iff_eq.1 hlast)
    rw [List.dropLast_concat, depthAfter_trimEnd, depthAfter_append]
    rfl
  · rfl

theorem joinLine_of_unquoted {buffer : List Char} (h : ∀ c ∈ buffer, isQuote c = false)
    (next : List Char) : joinLine buffer next = stem buffer ++ ' ' :: trim next := by
  have hbalance : (balance buffer).inTriple = false := by rw [balance, balanceFrom_of_unquoted h]
  simp only [joinLine, hbalance, Bool.false_eq_true, if_false, stem]
  split <;> rfl

theorem getLast?_join (front next : List Char) :
    ((front ++ ' ' :: trim next).getLast? == some '\\') = continues next := by
  rw [continues, ← getLast?_trim, List.getLast?_append, List.getLast?_cons]
  cases (trim next).getLast? with
  | none => rfl
  | some c => rfl

theorem depthAfter_codePart_trim (depth : Nat) (line : List Char) :
    depthAfter depth (codePart (trim line)) = depthAfter depth (codePart line) := by
  rw [← depthAfter_trimEnd, trimEnd_codePart_trim, depthAfter_trim]

theorem unquoted_join {front next : List Char} (hfront : ∀ c ∈ front, isQuote c = false)
    (h : ∀ c ∈ next, isQuote c = false) :
    ∀ c ∈ front ++ ' ' :: trim next, isQuote c = false := by
  intro c hc
  obtain hc | rfl | hc := (List.mem_append.trans (or_congr_right List.mem_cons)).1 hc
  · exact hfront c hc
  · rfl
  · exact h c (mem_of_mem_trim hc)

theorem codePart_join {front : List Char} (hplain : '#' ∉ front) (next : List Char) :
    codePart (front ++ ' ' :: trim next) = front ++ ' ' :: codePart (trim next) :=
  codePart_append hplain _

theorem depthAfter_codePart_join {front : List Char} (hplain : '#' ∉ front) (next : List Char) :
    depthAfter 0 (codePart (front ++ ' ' :: trim next)) =
      depthAfter (depthAfter 0 front) (codePart next) := by
  rw [codePart_join hplain, depthAfter_append]
  exact depthAfter_codePart_trim _ next

section Gather

variable {buffer : List Char} (hquote : ∀ c ∈ buffer, isQuote c = false)
include hquote

theorem unquoted_stem : ∀ c ∈ stem buffer, isQuote c = false :=
  fun c hc => hquote c (mem_of_mem_stem hc)

theorem gather_of_open (hopen : isOpen buffer = true) (next : List Char)
    (rest : List (List Char)) :
    gather buffer (next :: rest) =
      ((gather (stem buffer ++ ' ' :: trim next) rest).1,
        (gather (stem buffer ++ ' ' :: trim next) rest).2 + 1) := by
  simp only [gather, hopen, if_true, joinLine_of_unquoted hquote]

variable (hplain : '#' ∉ buffer)
include hplain

theorem isOpen_iff_of_plain :
    isOpen buffer = true ↔ depthAfter 0 buffer ≠ 0 ∨ (buffer.getLast? == some '\\') = true := by
  rw [isOpen_of_unquoted hquote, codePart_of_not_mem hplain, Bool.or_eq_true, decide_eq_true_eq,
    Nat.pos_iff_ne_zero]

omit hquote in
theorem plain_join {next : List Char} (h : '#' ∉ next) : '#' ∉ stem buffer ++ ' ' :: trim next := by
  simp only [List.mem_append, List.mem_cons, not_or]
  exact ⟨fun hc => hplain (mem_of_mem_stem hc), by decide, fun hc => h (mem_of_mem_trim hc)⟩

omit hquote in
theorem depthAfter_join (next : List Char) :
    depthAfter 0 (codePart (stem buffer ++ ' ' :: trim next)) =
      depthAfter (depthAfter 0 buffer) (codePart next) := by
  rw [depthAfter_codePart_join (fun hc => hplain (mem_of_mem_stem hc)), depthAfter_stem]

omit hquote in
theorem depthAfter_join_of_plain {next : List Char} (h : '#' ∉ next) :
    depthAfter 0 (stem buffer ++ ' ' :: trim next) = depthAfter (depthAfter 0 buffer) next := by
  have hjoin := depthAfter_join hplain next
  rwa [codePart_of_not_mem (plain_join hplain h), codePart_of_not_mem h] at hjoin

/-- A line whose comment ends the statement completes it. -/
theorem complete_join {next : List Char} (h : ∀ c ∈ next, isQuote c = false)
    (hdepth : depthAfter (depthAfter 0 buffer) (codePart next) = 0)
    (hslash : continues next = false) : isOpen (stem buffer ++ ' ' :: trim next) = false := by
  rw [isOpen_of_unquoted (unquoted_join (unquoted_stem hquote) h), depthAfter_join hplain, hdepth,
    getLast?_join, hslash]
  rfl

end Gather

/-! ## The start of a statement -/

theorem mem_of_mem_start {line : List Char} {c : Char} (h : c ∈ trim (expandTabs 4 line)) :
    c = ' ' ∨ c ∈ line :=
  mem_expandTabsFrom (mem_of_mem_trim h)

theorem unquoted_start {line : List Char} (h : ∀ c ∈ line, isQuote c = false) :
    ∀ c ∈ trim (expandTabs 4 line), isQuote c = false := by
  intro c hc
  obtain rfl | hc := mem_of_mem_start hc
  · rfl
  · exact h c hc

theorem depthAfter_start (line : List Char) :
    depthAfter 0 (codePart (trim (expandTabs 4 line))) = depthAfter 0 (codePart line) := by
  rw [depthAfter_codePart_trim, expandTabs, codePart_expandTabsFrom, depthAfter_expandTabsFrom]

theorem getLast?_start (line : List Char) :
    ((trim (expandTabs 4 line)).getLast? == some '\\') = continues line := by
  rw [getLast?_trim, expandTabs, getLast?_trimEnd_expandTabsFrom, continues]

theorem plain_start {line : List Char} (h : '#' ∉ line) : '#' ∉ trim (expandTabs 4 line) :=
  fun hc => (mem_of_mem_start hc).elim (by decide) h

theorem depthAfter_start_of_plain {line : List Char} (h : '#' ∉ line) :
    depthAfter 0 (trim (expandTabs 4 line)) = depthAfter 0 line := by
  have hstart := depthAfter_start line
  rwa [codePart_of_not_mem (plain_start h), codePart_of_not_mem h] at hstart

theorem isOpen_start {line : List Char} (h : ∀ c ∈ line, isQuote c = false) :
    isOpen (trim (expandTabs 4 line)) =
      (decide (0 < depthAfter 0 (codePart line)) || continues line) := by
  rw [isOpen_of_unquoted (unquoted_start h), depthAfter_start, getLast?_start]

theorem complete_start {line : List Char} (h : ∀ c ∈ line, isQuote c = false)
    (hdepth : depthAfter 0 (codePart line) = 0) (hslash : continues line = false) :
    isOpen (trim (expandTabs 4 line)) = false := by
  rw [isOpen_start h, hdepth, hslash]
  rfl

/-- A line is passed over between two statements if there is no code on it. -/
theorem passed_iff (line : List Char) :
    ((trim (expandTabs 4 line)).isEmpty || (trim (expandTabs 4 line)).head? == some '#') = true ↔
      ∀ c ∈ codePart line, isBlank c = true := by
  have hcode : codePart (trim (expandTabs 4 line)) = [] ↔
      trimEnd (codePart (trim (expandTabs 4 line))) = [] := by
    refine ⟨fun h => by rw [h]; rfl, fun h => ?_⟩
    rw [trimEnd_eq_nil] at h
    refine List.eq_nil_iff_forall_not_mem.2 fun c hc => ?_
    obtain ⟨first, more, hfirst⟩ := List.exists_cons_of_ne_nil (List.ne_nil_of_mem hc)
    have hhead : first ∈ (trim (expandTabs 4 line)).head? := by
      obtain ⟨rest, hrest⟩ := List.takeWhile_prefix (l := trim (expandTabs 4 line)) (· != '#')
      rw [codePart] at hfirst
      rw [← hrest, hfirst]
      rfl
    have hblank := h first (by rw [hfirst]; exact List.mem_cons_self)
    rw [isBlank_head?_trim hhead] at hblank
    cases hblank
  have hstart : ((trim (expandTabs 4 line)).isEmpty ||
      (trim (expandTabs 4 line)).head? == some '#') = true ↔
        codePart (trim (expandTabs 4 line)) = [] := by
    cases trim (expandTabs 4 line) with
    | nil => simp [codePart]
    | cons c rest => by_cases hc : c = '#' <;> simp [codePart, hc]
  have hwide : trimEnd (codePart (expandTabs 4 line)) = [] ↔ trimEnd (codePart line) = [] := by
    rw [expandTabs, codePart_expandTabsFrom, ← List.getLast?_eq_none_iff,
      getLast?_trimEnd_expandTabsFrom, List.getLast?_eq_none_iff]
  rw [hstart, hcode, trimEnd_codePart_trim, trim_eq_nil, hwide, trimEnd_eq_nil]

end SnippetGrader.Layout
