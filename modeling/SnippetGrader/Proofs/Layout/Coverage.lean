import SnippetGrader.Proofs.Layout.Code
import SnippetGrader.Proofs.Layout.Cutting
import SnippetGrader.Proofs.Layout.Opening

/-!
# Logical lines cover their source

The physical lines of a source fall into groups, each of which is one blank line or what is gathered
to a statement. The logical lines are those of the groups, so of a source without comments and
continuation marks they keep every character but blanks and semicolons, in its place. A group that
is followed by another one ends where nothing is open, and so does each of its logical lines.
-/

namespace SnippetGrader.Layout

open Text Source

/-! ## What splitting keeps -/

/-- A character that is neither blank nor a semicolon. -/
def isKept (c : Char) : Bool := !isBlank c && c != ';'

/-- A text without its blanks and semicolons. -/
def kept (text : List Char) : List Char := text.filter isKept

@[simp] theorem kept_nil : kept [] = [] := rfl

@[simp] theorem kept_append (a b : List Char) : kept (a ++ b) = kept a ++ kept b :=
  List.filter_append a b

theorem kept_cons_of_not {c : Char} (h : isKept c = false) (rest : List Char) :
    kept (c :: rest) = kept rest :=
  List.filter_cons_of_neg (by simp [h])

theorem kept_cons (c : Char) (rest : List Char) : kept (c :: rest) = kept [c] ++ kept rest :=
  kept_append [c] rest

theorem kept_blanks {text : List Char} (h : ∀ c ∈ text, isBlank c = true) : kept text = [] :=
  List.filter_eq_nil_iff.2 fun c hc => by simp [isKept, h c hc]

theorem kept_trim (text : List Char) : kept (trim text) = kept text := by
  obtain ⟨front, back, hfront, hback, htext⟩ := exists_trim text
  conv_rhs => rw [htext, kept_append, kept_append, kept_blanks hfront, kept_blanks hback,
    List.append_nil, List.nil_append]

theorem kept_expandTabsFrom (column : Nat) (text : List Char) :
    kept (expandTabsFrom 4 column text) = kept text := by
  induction text generalizing column with
  | nil => rfl
  | cons c rest ih =>
    by_cases htab : c = '\t'
    · subst htab
      obtain ⟨n, after, hcons⟩ := expandTabsFrom_tab column
      rw [hcons, kept_append, kept_blanks fun d hd => isBlank_of_mem_spaces hd, ih,
        kept_cons_of_not (by decide), List.nil_append]
    · obtain ⟨after, hcons⟩ := expandTabsFrom_cons htab column
      rw [hcons, kept_cons, ih, ← kept_cons]

theorem kept_cutTopLevelFrom (r : Reader) (piece text : List Char) :
    kept (cutTopLevelFrom ';' r piece text).flatten = kept piece.reverse ++ kept text := by
  induction text generalizing r piece with
  | nil => simp [cutTopLevelFrom]
  | cons c rest ih =>
    simp only [cutTopLevelFrom]
    split
    · next hcut =>
      obtain ⟨-, rfl⟩ : _ ∧ c = ';' := by simpa using hcut
      rw [List.flatten_cons, kept_append, ih, kept_cons_of_not (by decide)]
      rfl
    · rw [ih, List.reverse_cons, kept_append, List.append_assoc, ← kept_cons]

theorem kept_flatten_map_trim (parts : List (List Char)) :
    kept (parts.map trim).flatten = kept parts.flatten := by
  induction parts with
  | nil => rfl
  | cons p parts ih =>
    rw [List.map_cons, List.flatten_cons, List.flatten_cons, kept_append, kept_append, kept_trim, ih]

/-! ## Physical lines -/

theorem kept_cutAt (text : List Char) : kept (cutAt '\n' text).flatten = kept text := by
  induction text with
  | nil => rfl
  | cons c rest ih =>
    obtain ⟨piece, more, hcut⟩ := List.exists_cons_of_ne_nil (cutAt_ne_nil '\n' rest)
    rw [cutAt]
    split
    · next hc =>
      rw [beq_iff_eq.1 hc, List.flatten_cons, List.nil_append, ih, kept_cons_of_not (by decide)]
    · rw [hcut] at ih ⊢
      rw [List.flatten_cons, List.cons_append, ← List.flatten_cons, kept_cons, ih, ← kept_cons]

theorem kept_dropReturns (lines : List (List Char)) :
    kept (dropReturns lines).flatten = kept lines.flatten := by
  induction lines using dropReturns.induct with
  | case1 line next more ih =>
    obtain ⟨blanks, hblanks, hline⟩ := exists_dropReturn line
    have hkept : kept (dropReturn line) = kept line := by
      conv_rhs => rw [hline, kept_append, kept_blanks hblanks, List.append_nil]
    rw [dropReturns, List.flatten_cons, kept_append, ih, hkept, List.flatten_cons (l := line),
      kept_append]
  | case2 lines hshort =>
    obtain _ | ⟨line, _ | ⟨next, more⟩⟩ := lines
    · rfl
    · rfl
    · exact (hshort line next more rfl).elim

theorem kept_physicalLines (source : List Char) :
    kept (physicalLines source).flatten = kept source := by
  rw [physicalLines_eq, kept_dropReturns, kept_cutAt]

theorem mem_of_mem_dropReturns {lines : List (List Char)} {line : List Char} {c : Char}
    (hline : line ∈ dropReturns lines) (hc : c ∈ line) : ∃ whole ∈ lines, c ∈ whole := by
  induction lines using dropReturns.induct with
  | case1 first next more ih =>
    rw [dropReturns] at hline
    obtain rfl | hline := List.mem_cons.1 hline
    · obtain ⟨blanks, -, hfirst⟩ := exists_dropReturn first
      refine ⟨first, List.mem_cons_self, ?_⟩
      rw [hfirst]
      exact List.mem_append_left blanks hc
    · obtain ⟨whole, hwhole, hmem⟩ := ih hline
      exact ⟨whole, List.mem_cons_of_mem first hwhole, hmem⟩
  | case2 lines hshort =>
    obtain _ | ⟨first, _ | ⟨next, more⟩⟩ := lines
    · cases hline
    · exact ⟨line, hline, hc⟩
    · exact (hshort first next more rfl).elim

theorem mem_of_mem_physicalLines {source line : List Char} {c : Char}
    (hline : line ∈ physicalLines source) (hc : c ∈ line) : c ∈ source := by
  rw [physicalLines_eq] at hline
  obtain ⟨whole, hwhole, hmem⟩ := mem_of_mem_dropReturns hline hc
  exact mem_of_mem_cutAt hwhole hmem

/-! ## Gathering -/

theorem mem_of_mem_joinLine {buffer next : List Char} {c : Char} (h : c ∈ joinLine buffer next) :
    c ∈ buffer ∨ isBlank c = true ∨ c ∈ next := by
  rw [joinLine] at h
  split at h
  · obtain h | rfl | h := (List.mem_append.trans (or_congr_right List.mem_cons)).1 h
    · exact .inl h
    · exact .inr (.inl rfl)
    · exact .inr (.inr h)
  · split at h <;> obtain h | rfl | h := (List.mem_append.trans (or_congr_right List.mem_cons)).1 h
    · exact .inl ((List.dropLast_sublist buffer).subset (mem_of_mem_trimEnd h))
    · exact .inr (.inl rfl)
    · exact .inr (.inr (mem_of_mem_trim h))
    · exact .inl h
    · exact .inr (.inl rfl)
    · exact .inr (.inr (mem_of_mem_trim h))

theorem not_mem_joinLine {c : Char} (hc : isBlank c = false) {buffer next : List Char}
    (hbuffer : c ∉ buffer) (hnext : c ∉ next) : c ∉ joinLine buffer next := by
  intro hmem
  obtain h | h | h := mem_of_mem_joinLine hmem
  · exact hbuffer h
  · rw [hc] at h
    cases h
  · exact hnext h

theorem not_mem_gather {c : Char} (hc : isBlank c = false) {buffer : List Char}
    {rest : List (List Char)} (hbuffer : c ∉ buffer) (hrest : ∀ line ∈ rest, c ∉ line) :
    c ∉ (gather buffer rest).1 := by
  induction rest generalizing buffer with
  | nil => exact hbuffer
  | cons next rest ih =>
    rw [List.forall_mem_cons] at hrest
    rw [gather]
    split
    · exact ih (not_mem_joinLine hc hbuffer hrest.1) hrest.2
    · exact hbuffer

theorem kept_joinLine {buffer : List Char} (h : '\\' ∉ buffer) (next : List Char) :
    kept (joinLine buffer next) = kept buffer ++ kept next := by
  have hlast : (buffer.getLast? == some '\\') = false :=
    beq_false_of_ne fun heq => h (List.mem_of_getLast? heq)
  rw [joinLine, hlast]
  split
  · rw [kept_append, kept_cons_of_not (by decide)]
  · rw [if_neg Bool.false_ne_true, kept_append, kept_cons_of_not (by decide), kept_trim]

theorem kept_gather {buffer : List Char} {rest : List (List Char)} (hbuffer : '\\' ∉ buffer)
    (hrest : ∀ line ∈ rest, '\\' ∉ line) :
    kept (gather buffer rest).1 =
      kept buffer ++ kept (rest.take (gather buffer rest).2).flatten := by
  induction rest generalizing buffer with
  | nil => simp [gather]
  | cons next rest ih =>
    rw [List.forall_mem_cons] at hrest
    rw [gather]
    split
    · have hjoin := not_mem_joinLine (by decide) hbuffer hrest.1
      simp only [ih hjoin hrest.2, kept_joinLine hbuffer, List.take_succ_cons, List.flatten_cons,
        kept_append, List.append_assoc]
    · simp

/-- The lines behind those that are joined do not matter. -/
theorem gather_take (buffer : List Char) (rest : List (List Char)) :
    gather buffer (rest.take (gather buffer rest).2) = gather buffer rest := by
  induction rest generalizing buffer with
  | nil => rfl
  | cons next rest ih =>
    by_cases hopen : isOpen buffer = true
    · simp only [gather, hopen, if_true, List.take_succ_cons, ih]
    · simp [gather, hopen]

theorem gather_le (buffer : List Char) (rest : List (List Char)) :
    (gather buffer rest).2 ≤ rest.length := by
  induction rest generalizing buffer with
  | nil => exact Nat.le_refl 0
  | cons next rest ih =>
    rw [gather]
    split
    · exact Nat.succ_le_succ (ih _)
    · exact Nat.zero_le _

/-- Gathering stops before the last line only where nothing is open. -/
theorem isOpen_gather {buffer : List Char} {rest : List (List Char)}
    (h : (gather buffer rest).2 < rest.length) : isOpen (gather buffer rest).1 = false := by
  induction rest generalizing buffer with
  | nil => cases h
  | cons next rest ih =>
    by_cases hopen : isOpen buffer = true
    · simp only [gather, hopen, if_true, List.length_cons, Nat.add_lt_add_iff_right] at h ⊢
      exact ih h
    · simp [gather, hopen]

/-! ## Statements -/

section Statements

variable {buffer : List Char} {indent number : Nat}

/-- A logical line has the indentation and the number of its statement, and its text is not empty
and trimmed. -/
theorem of_mem_statements {l : Line} (h : l ∈ statements buffer indent number) :
    l.text ≠ [] ∧ trim l.text = l.text ∧ l.indent = indent ∧ l.number = number := by
  simp only [statements] at h
  split at h
  · cases h
  · next hne =>
    split at h
    · obtain ⟨part, hpart, rfl⟩ := List.mem_map.1 h
      obtain ⟨hpart, hnonempty⟩ := List.mem_filter.1 hpart
      refine ⟨by simpa using hnonempty, ?_, rfl, rfl⟩
      rw [cutTopLevel] at hpart
      split at hpart
      · cases hpart
      · obtain ⟨p, -, rfl⟩ := List.mem_map.1 hpart
        exact trim_trim p
    · obtain rfl := List.mem_singleton.1 h
      exact ⟨by simpa using hne, trim_trim _, rfl, rfl⟩

variable (hcomment : '#' ∉ buffer)
include hcomment

theorem stripComment_of_not_mem : stripComment buffer = buffer :=
  stripComment_eq_self (Reader.admits_of_forall fun c hc _ => by
    have hne : c ≠ '#' := fun heq => hcomment (heq ▸ hc)
    simp [noComment, hne])

theorem kept_statements :
    kept ((statements buffer indent number).flatMap Line.text) = kept buffer := by
  have htrim := kept_trim buffer
  simp only [statements, stripComment_of_not_mem hcomment]
  split
  · next hempty =>
    rw [List.isEmpty_iff.1 hempty] at htrim
    exact htrim
  · next hempty =>
    split
    · have hblank : (trim buffer).all isBlank = false := by
        rw [Bool.eq_false_iff, ne_eq, List.all_eq_true, ← trimEnd_eq_nil, ← trim_eq_nil, trim_trim]
        simpa using hempty
      rw [List.flatMap_map, List.flatMap_id', List.flatten_filter_not_isEmpty, cutTopLevel, hblank,
        if_neg Bool.false_ne_true, kept_flatten_map_trim, kept_cutTopLevelFrom]
      exact htrim
    · rw [List.flatMap_singleton]
      exact htrim

/-- The logical lines of a statement that leaves nothing open leave nothing open. -/
theorem balance_of_mem_statements (hopen : isOpen buffer = false) {l : Line}
    (h : l ∈ statements buffer indent number) : balance l.text = ⟨0, false⟩ := by
  have hmem : '#' ∉ trim buffer := fun hc => hcomment (mem_of_mem_trim hc)
  have hbuffer : balance (trim buffer) = ⟨0, false⟩ := by
    rw [balance_trim hcomment]
    simp only [isOpen, Bool.or_eq_false_iff, decide_eq_false_iff_not, Nat.not_lt,
      Nat.le_zero] at hopen
    obtain ⟨⟨hdepth, htriple⟩, -⟩ := hopen
    rw [← hdepth, ← htriple]
  simp only [statements, stripComment_of_not_mem hcomment] at h
  split at h
  · cases h
  · split at h
    · obtain ⟨part, hpart, rfl⟩ := List.mem_map.1 h
      exact balance_of_mem_cutTopLevel (by decide) hmem hbuffer (List.mem_filter.1 hpart).1
    · obtain rfl := List.mem_singleton.1 h
      exact hbuffer

end Statements

/-! ## Groups -/

/-- The physical lines that are read together: the first one with its number, and those that are
joined to it. -/
structure Group where
  number : Nat
  first : List Char
  joined : List (List Char)

/-- What a statement has at first that starts on a physical line. -/
def start (raw : List Char) : List Char := trim (expandTabs 4 raw)

/-- Whether no statement starts on a physical line. -/
def isBare (raw : List Char) : Bool := (start raw).isEmpty || (start raw).head? == some '#'

def Group.statement (g : Group) : List Char := (gather (start g.first) g.joined).1

/-- The physical lines of a group. -/
def Group.physical (g : Group) : List (List Char) := g.first :: g.joined

/-- The logical lines of a group. -/
def Group.lines (g : Group) : List Line :=
  if isBare g.first then []
  else statements g.statement ((expandTabs 4 g.first).takeWhile (· == ' ')).length g.number

/-- Number of physical lines that are joined to a first one. -/
def joinedTo (raw : List Char) (rest : List (List Char)) : Nat :=
  if isBare raw then 0 else (gather (start raw) rest).2

/-- The groups of physical lines, the first of which has number `number`; the first `skip` of them
belong to a group before. -/
def groupsFrom (number skip : Nat) : List (List Char) → List Group
  | [] => []
  | raw :: rest =>
    if skip > 0 then groupsFrom (number + 1) (skip - 1) rest
    else
      ⟨number, raw, rest.take (joinedTo raw rest)⟩ :: groupsFrom (number + 1) (joinedTo raw rest) rest

/-- The groups of the physical lines of a source. -/
def groups (source : List Char) : List Group := groupsFrom 1 0 (physicalLines source)

theorem splitLinesFrom_eq_groups (number skip : Nat) (lines : List (List Char)) :
    splitLinesFrom number skip lines = (groupsFrom number skip lines).flatMap Group.lines := by
  induction lines generalizing number skip with
  | nil => rfl
  | cons raw rest ih =>
    rw [groupsFrom]
    by_cases hskip : skip > 0
    · rw [if_pos hskip, splitLinesFrom, if_pos hskip, ih]
    · rw [if_neg hskip, List.flatMap_cons, ← ih, splitLinesFrom, if_neg hskip]
      cases hbare : isBare raw with
      | true =>
        simp only [isBare, start] at hbare
        simp [Group.lines, joinedTo, isBare, start, hbare]
      | false =>
        simp only [isBare, start] at hbare
        simp [Group.lines, Group.statement, joinedTo, isBare, start, hbare, gather_take]

theorem flatMap_physical (number skip : Nat) (lines : List (List Char)) :
    (groupsFrom number skip lines).flatMap Group.physical = lines.drop skip := by
  induction lines generalizing number skip with
  | nil => simp [groupsFrom]
  | cons raw rest ih =>
    rw [groupsFrom]
    split
    · obtain ⟨skip, rfl⟩ : ∃ n, skip = n + 1 := ⟨skip - 1, by omega⟩
      rw [ih, Nat.add_sub_cancel, List.drop_succ_cons]
    · obtain rfl : skip = 0 := by omega
      rw [List.flatMap_cons, ih, Group.physical, List.cons_append, List.take_append_drop,
        List.drop_zero]

theorem exists_of_mem_groupsFrom {number skip : Nat} {lines : List (List Char)} {g : Group}
    (h : g ∈ groupsFrom number skip lines) :
    ∃ i, g.number = number + i ∧ lines[i]? = some g.first := by
  induction lines generalizing number skip with
  | nil => cases h
  | cons raw rest ih =>
    have later {skip' : Nat} (h : g ∈ groupsFrom (number + 1) skip' rest) :
        ∃ i, g.number = number + i ∧ (raw :: rest)[i]? = some g.first := by
      obtain ⟨i, hnumber, hget⟩ := ih h
      exact ⟨i + 1, by omega, hget⟩
    rw [groupsFrom] at h
    split at h
    · exact later h
    · obtain rfl | h := List.mem_cons.1 h
      · exact ⟨0, rfl, rfl⟩
      · exact later h

theorem pairwise_groupsFrom (number skip : Nat) (lines : List (List Char)) :
    (groupsFrom number skip lines).Pairwise fun g g' => g.number < g'.number := by
  induction lines generalizing number skip with
  | nil => exact .nil
  | cons raw rest ih =>
    rw [groupsFrom]
    split
    · exact ih _ _
    · refine .cons (fun g hg => ?_) (ih _ _)
      obtain ⟨i, hnumber, -⟩ := exists_of_mem_groupsFrom hg
      dsimp only
      omega

theorem joinedTo_eq {raw : List Char} (h : isBare raw = false) (rest : List (List Char)) :
    joinedTo raw rest = (gather (start raw) rest).2 := by
  rw [joinedTo, h, if_neg Bool.false_ne_true]

/-- A statement on a group that is followed by another one leaves nothing open. -/
theorem isOpen_of_mem_dropLast {number skip : Nat} {lines : List (List Char)} {g : Group}
    (h : g ∈ (groupsFrom number skip lines).dropLast) (hbare : isBare g.first = false) :
    isOpen g.statement = false := by
  induction lines generalizing number skip with
  | nil => cases h
  | cons raw rest ih =>
    rw [groupsFrom] at h
    split at h
    · exact ih h
    · have hphysical := flatMap_physical (number + 1) (joinedTo raw rest) rest
      generalize hmore : groupsFrom (number + 1) (joinedTo raw rest) rest = more at h hphysical
      cases more with
      | nil => cases h
      | cons next more =>
        rw [List.dropLast_cons_of_ne_nil (List.cons_ne_nil next more)] at h
        obtain rfl | h := List.mem_cons.1 h
        · have hjoined := joinedTo_eq hbare rest
          have hrest : rest.drop (joinedTo raw rest) ≠ [] := by
            rw [← hphysical]
            exact List.cons_ne_nil next.first _
          rw [ne_eq, List.drop_eq_nil_iff, Nat.not_le, hjoined] at hrest
          rw [Group.statement, hjoined, gather_take]
          exact isOpen_gather hrest
        · exact ih (hmore ▸ h)

theorem joined_of_mem_groupsFrom {number skip : Nat} {lines : List (List Char)} {g : Group}
    (h : g ∈ groupsFrom number skip lines) :
    (isBare g.first = true → g.joined = []) ∧
      (isBare g.first = false → (gather (start g.first) g.joined).2 = g.joined.length) := by
  induction lines generalizing number skip with
  | nil => cases h
  | cons raw rest ih =>
    rw [groupsFrom] at h
    split at h
    · exact ih h
    · obtain rfl | h := List.mem_cons.1 h
      · refine ⟨fun hbare => ?_, fun hbare => ?_⟩
        · have hnone : joinedTo raw rest = 0 := if_pos hbare
          rw [hnone, List.take_zero]
        · rw [joinedTo_eq hbare, gather_take, List.length_take,
            Nat.min_eq_left (gather_le (start raw) rest)]
      · exact ih h

section Group

variable {g : Group} (hcomment : ∀ line ∈ g.physical, '#' ∉ line)
include hcomment

theorem not_mem_start : '#' ∉ start g.first := fun h =>
  (mem_of_mem_start h).elim (by decide) (hcomment g.first List.mem_cons_self)

theorem not_mem_statement : '#' ∉ g.statement :=
  not_mem_gather (by decide) (not_mem_start hcomment)
    fun line hline => hcomment line (List.mem_cons_of_mem g.first hline)

theorem kept_lines {number skip : Nat} {lines : List (List Char)}
    (hg : g ∈ groupsFrom number skip lines) (hslash : ∀ line ∈ g.physical, '\\' ∉ line) :
    kept (g.lines.flatMap Line.text) = kept g.physical.flatten := by
  have hfirst : kept (start g.first) = kept g.first :=
    (kept_trim _).trans (kept_expandTabsFrom 0 g.first)
  obtain ⟨hnone, hall⟩ := joined_of_mem_groupsFrom hg
  rw [Group.lines, Group.physical, List.flatten_cons, kept_append]
  cases hbare : isBare g.first with
  | true =>
    have hstart : start g.first = [] := by
      rw [isBare, Bool.or_eq_true, List.isEmpty_iff, beq_iff_eq] at hbare
      exact hbare.resolve_right fun hhead => not_mem_start hcomment (List.mem_of_mem_head? hhead)
    rw [if_pos rfl, hnone hbare, ← hfirst, hstart]
    rfl
  | false =>
    have hstart : '\\' ∉ start g.first := fun h =>
      (mem_of_mem_start h).elim (by decide) (hslash g.first List.mem_cons_self)
    rw [if_neg Bool.false_ne_true, kept_statements (not_mem_statement hcomment), Group.statement,
      kept_gather hstart fun line hline => hslash line (List.mem_cons_of_mem g.first hline),
      hall hbare, List.take_length, hfirst]

end Group

/-! ## The logical lines of a source -/

/-- Where a logical line stands, and that its text has no blanks around it. -/
structure IsPlaced (source : List Char) (l : Line) : Prop where
  nonempty : l.text ≠ []
  trimmed : trim l.text = l.text
  pos : 1 ≤ l.number
  le_length : l.number ≤ (physicalLines source).length
  indent_eq : l.indent = ((expandTabs 4 (physicalLine source l)).takeWhile (· == ' ')).length

theorem Group.of_mem_lines {g : Group} {l : Line} (h : l ∈ g.lines) :
    l.text ≠ [] ∧ trim l.text = l.text ∧
      l.indent = ((expandTabs 4 g.first).takeWhile (· == ' ')).length ∧ l.number = g.number := by
  rw [Group.lines] at h
  split at h
  · cases h
  · exact of_mem_statements h

section Source

variable (source : List Char)

theorem splitLines_eq_groups : splitLines source = (groups source).flatMap Group.lines :=
  splitLinesFrom_eq_groups 1 0 (physicalLines source)

theorem flatMap_physical_groups : (groups source).flatMap Group.physical = physicalLines source :=
  flatMap_physical 1 0 (physicalLines source)

theorem isPlaced_of_mem_splitLines {l : Line} (h : l ∈ splitLines source) : IsPlaced source l := by
  rw [splitLines_eq_groups, List.mem_flatMap] at h
  obtain ⟨g, hg, hl⟩ := h
  obtain ⟨hnonempty, htrim, hindent, hnumber⟩ := Group.of_mem_lines hl
  obtain ⟨i, hi, hget⟩ := exists_of_mem_groupsFrom hg
  have hphysical : physicalLine source l = g.first := by
    rw [physicalLine, hnumber, hi, Nat.add_sub_cancel_left, hget]
    rfl
  have hlength : i < (physicalLines source).length := (List.getElem?_eq_some_iff.1 hget).1
  exact ⟨hnonempty, htrim, by omega, by omega, by rw [hindent, hphysical]⟩

theorem pairwise_number_splitLines :
    (splitLines source).Pairwise fun l l' => l.number ≤ l'.number := by
  rw [splitLines_eq_groups, List.pairwise_flatMap]
  refine ⟨fun g _ => List.pairwise_of_forall_mem_list fun l hl l' hl' => ?_,
    (pairwise_groupsFrom 1 0 (physicalLines source)).imp fun hlt l hl l' hl' => ?_⟩
  · rw [(Group.of_mem_lines hl).2.2.2, (Group.of_mem_lines hl').2.2.2]
  · rw [(Group.of_mem_lines hl).2.2.2, (Group.of_mem_lines hl').2.2.2]
    exact hlt.le

end Source

/-- Without comments and continuation marks the logical lines of a source hold its characters,
blanks and semicolons apart, each once and in order; they are trimmed and not empty, stand where
they say, and leave nothing open unless they come from the physical lines that end the source. -/
theorem splitLines_covers {source : List Char} (hcomment : '#' ∉ source) (hslash : '\\' ∉ source) :
    kept ((splitLines source).flatMap Line.text) = kept source ∧
      (∀ l ∈ splitLines source, IsPlaced source l) ∧
      ((splitLines source).Pairwise fun l l' => l.number ≤ l'.number) ∧
      splitLines source = (groups source).flatMap Group.lines ∧
      (groups source).flatMap Group.physical = physicalLines source ∧
      ∀ g ∈ (groups source).dropLast, ∀ l ∈ g.lines, balance l.text = ⟨0, false⟩ := by
  have hphysical {c : Char} (hc : c ∉ source) : ∀ g ∈ groups source, ∀ line ∈ g.physical,
      c ∉ line := by
    intro g hg line hline hmem
    refine hc (mem_of_mem_physicalLines ?_ hmem)
    rw [← flatMap_physical_groups source]
    exact List.mem_flatMap_of_mem hg hline
  have hkept : ∀ gs : List Group, (∀ g ∈ gs, g ∈ groups source) →
      kept ((gs.flatMap Group.lines).flatMap Line.text) =
        kept (gs.flatMap Group.physical).flatten := by
    intro gs hgs
    induction gs with
    | nil => rfl
    | cons g gs ih =>
      rw [List.forall_mem_cons] at hgs
      rw [List.flatMap_cons, List.flatMap_append, kept_append, ih hgs.2, List.flatMap_cons,
        List.flatten_append, kept_append, kept_lines (hphysical hcomment g hgs.1) hgs.1
          (hphysical hslash g hgs.1)]
  refine ⟨?_, fun l hl => isPlaced_of_mem_splitLines source hl, pairwise_number_splitLines source,
    splitLines_eq_groups source, flatMap_physical_groups source, fun g hg l hl => ?_⟩
  · rw [splitLines_eq_groups, hkept _ fun g hg => hg, flatMap_physical_groups, kept_physicalLines]
  · rw [Group.lines] at hl
    split at hl
    · cases hl
    · next hbare =>
      rw [Bool.not_eq_true] at hbare
      exact balance_of_mem_statements
        (not_mem_statement (hphysical hcomment g ((List.dropLast_sublist _).subset hg)))
        (isOpen_of_mem_dropLast hg hbare) hl

/-- A block after a tab, a list and a literal over several lines, two statements on one line, and a
bracket that stays open at the end. -/
theorem splitLines_covers_open :
    let source := "if x:\n\ty = [1,\n\t\t2]; z = 3\ns = \"\"\"a;\n  b\"\"\"\nw = (4,\n5".toList
    '#' ∉ source ∧ '\\' ∉ source ∧
      kept ((splitLines source).flatMap Line.text) = kept source ∧
      (splitLines source).map Line.number = [1, 2, 2, 4, 6] ∧
      (groups source).map (fun g => g.physical.length) = [1, 2, 2, 2] := by
  intro source
  have hcomment : '#' ∉ source := by decide
  have hslash : '\\' ∉ source := by decide
  exact ⟨hcomment, hslash, (splitLines_covers hcomment hslash).1, by decide +kernel,
    by decide +kernel⟩

end SnippetGrader.Layout
