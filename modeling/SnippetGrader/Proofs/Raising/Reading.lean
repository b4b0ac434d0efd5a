import SnippetGrader.Proofs.Layout.Blocks
import SnippetGrader.Proofs.Operation.Extension
import SnippetGrader.Proofs.Written.Evaluation

/-!
# Reading a program that raises an error

A program that raises an error with a name and a message and catches it by the name. The message may
hold whatever a text between quotation marks can hold as it stands, also what would be a comment or
would end a statement elsewhere: the program is still read as its four lines, and these as one
statement with a body and a clause.
-/

namespace SnippetGrader.Raising

open Text Source Statement Expression Rendering Layout
open Written (Passes LiteralBody marked)
open Operation (name isWord_text)

/-! ## What is written -/

/-- A text that stands for itself between quotation marks. -/
structure IsMessage (text : List Char) : Prop where
  isPrintable : ∀ c ∈ text, isPrintable c = true
  isQuote : ∀ c ∈ text, isQuote c = false
  slash : '\\' ∉ text

/-- The message of an error in double marks and parentheses. -/
def operand (message : List Char) : List Char := '(' :: (marked '"' message ++ [')'])

def raising (x : Identifier) (message : List Char) : List Char :=
  "raise ".toList ++ (x.text ++ operand message)

theorem raising_eq (x : Identifier) (message : List Char) :
    raising x message = "raise ".toList ++ (x.text ++ operand message) := rfl

/-- The statement that prints the error that was caught. -/
def printing : List Char := "print(e)".toList

/-- The header of the body. -/
def opening : Part := .mk .guarded [] 4 []

/-- The name of an error and the name that it is bound to. -/
def naming (x : Identifier) : List Char := x.text ++ " as e".toList

/-- The header of the clause that catches errors with a name. -/
def clause (x : Identifier) : Part := .mk .handler (' ' :: naming x) 4 []

/-- A program that raises an error of a kind and catches it by its name. -/
def guardedRaise (kind message : String) : String :=
  "\n".intercalate
    ["try:",
      "    raise " ++ kind ++ "(\"" ++ message ++ "\")",
      "except " ++ kind ++ " as e:",
      "    print(e)"]

/-- The rows of the program. -/
def rows (x : Identifier) (message : List Char) : List Row :=
  [⟨0, opening.headline⟩, ⟨4, raising x message⟩, ⟨0, (clause x).headline⟩, ⟨4, printing⟩]

theorem toList_guardedRaise {x : Identifier} {kind : String} (hkind : kind.toList = x.text)
    (message : String) :
    (guardedRaise kind message).toList =
      ['\n'].intercalate ((rows x message.toList).map Row.source) := by
  have hraising : ("    raise " ++ kind ++ "(\"" ++ message ++ "\")").toList =
      Row.source ⟨4, raising x message.toList⟩ := by
    have hopen : "(\"".toList = ['(', '"'] := rfl
    have hclose : "\")".toList = ['"', ')'] := rfl
    have hmarked : marked '"' message.toList ++ [')'] = '"' :: (message.toList ++ ['"', ')']) := by
      simp [marked]
    simp only [String.toList_append, hkind, hopen, hclose, Row.source, raising_eq, operand, hmarked,
      List.append_assoc]
    rfl
  have hclause : ("except " ++ kind ++ " as e:").toList = Row.source ⟨0, (clause x).headline⟩ := by
    have hstart (rest : List Char) : "except ".toList ++ rest = "except".toList ++ ' ' :: rest := rfl
    have hend : " as e:".toList = " as e".toList ++ [':'] := rfl
    have hheadline : (clause x).headline =
        "except".toList ++ (' ' :: (x.text ++ " as e".toList)) ++ [':'] := rfl
    simp only [String.toList_append, hkind, hend, Row.source, hheadline, List.append_assoc,
      List.replicate_zero, List.nil_append, hstart, List.cons_append]
  rw [guardedRaise, String.toList_intercalate, rows, List.map_cons, List.map_cons, List.map_cons,
    List.map_singleton, List.map_cons, List.map_cons, List.map_cons, List.map_singleton, ← hraising,
    ← hclause]
  rfl

/-! ## The rows are lines -/

/-- Admits quoted characters, words, spaces and parentheses. -/
def bare (c : Char) : Place → Bool
  | .quoted => true
  | .code _ => isWord c || " ()".toList.contains c

theorem bare_of_isWord {c : Char} (h : isWord c = true) (place : Place) : bare c place = true := by
  cases place with
  | quoted => rfl
  | code d => simp [bare, h]

theorem ne_of_bare {c d : Char} {depth : Nat} (h : bare c (.code depth) = true)
    (hd : bare d (.code depth) = false) : c ≠ d := by
  rintro rfl
  rw [h] at hd
  cases hd

theorem noComment_of_bare {c : Char} {place : Place} (h : bare c place = true) :
    noComment c place = true := by
  cases place with
  | quoted => rfl
  | code depth =>
    have hne : c ≠ '#' := ne_of_bare h (by simp [bare]; decide)
    simp [noComment, hne]

theorem lacks_of_bare {sep c : Char} {place : Place} (hsep : bare sep (.code 0) = false)
    (h : bare c place = true) : lacks sep c place = true := by
  cases place with
  | quoted => rfl
  | code depth =>
    have hne : c ≠ sep := ne_of_bare h hsep
    simp [lacks, hne]

theorem IsMessage.literalBody {message : List Char} (h : IsMessage message) :
    LiteralBody '"' message := by
  refine .of_plain fun c hc => ⟨?_, fun hslash => h.slash (hslash ▸ hc), ?_⟩
  · rintro rfl
    exact absurd (h.isQuote _ hc) (by decide)
  · exact Written.ne_of_isPrintable (h.isPrintable c hc) (by decide)

theorem passes_operand {p : Char → Place → Bool} {message : List Char} (hm : IsMessage message)
    (hquoted : ∀ c, p c .quoted = true) (hopen : p '(' (.code 0) = true)
    (hclose : p ')' (.code 0) = true) : Passes p 0 (operand message) :=
  (Passes.marked hquoted (by decide) hm.literalBody).bracket .round hopen hclose

theorem passes_words {w : List Char} (h : ∀ c ∈ w, isWord c = true ∨ c = ' ') :
    Passes bare 0 w := by
  refine .plain fun c hc => ?_
  obtain hword | rfl := h c hc
  · exact ⟨isPlain_of_isWord hword, bare_of_isWord hword _⟩
  · decide

section Rows

variable (x : Identifier) {message : List Char} (hm : IsMessage message)

theorem mem_head {c : Char} (hc : c ∈ (clause x).head) : isWord c = true ∨ c = ' ' := by
  have hend : ∀ d ∈ " as e".toList, isWord d = true ∨ d = ' ' := forall_of_all (by decide)
  have hhead : (clause x).head = ' ' :: (x.text ++ " as e".toList) := rfl
  rw [hhead, List.mem_cons, List.mem_append] at hc
  obtain rfl | hc | hc := hc
  · exact .inr rfl
  · exact .inl (isWord_text x hc)
  · exact hend c hc

theorem not_mem_head {c : Char} (hword : isWord c = false) (hspace : c ≠ ' ') :
    c ∉ (clause x).head := by
  intro hc
  obtain hc | rfl := mem_head x hc
  · rw [hc] at hword
    cases hword
  · exact hspace rfl

theorem passes_head : Passes bare 0 (clause x).head := passes_words fun _ => mem_head x

theorem isHead_clause : IsHead (clause x).head where
  oneLine := not_mem_head x (by decide) (by decide)
  apart := by
    rintro c ⟨⟩
    decide
  closed := (passes_head x).after
  comment := Reader.admits_mono (fun _ _ => noComment_of_bare) (passes_head x).admits
  colon := Reader.admits_mono (fun _ _ => lacks_of_bare (by decide)) (passes_head x).admits

/-- A name has no blank in front, so a text that starts with one may have blanks at its end only. -/
theorem trim_named {c : Char} (hc : isBlank c = false) (a : List Char) :
    trim (x.text ++ (a ++ [c])) = x.text ++ (a ++ [c]) := by
  obtain ⟨d, more, hx, hstart, -⟩ := x.exists_head
  have hd : isBlank d = false := isBlank_eq_false_of_isWord (isWord_of_isNameStart hstart)
  rw [hx, List.cons_append, ← List.append_assoc]
  exact trim_eq_self_iff.2 (Written.Content.ends_enclosed hd hc _)

include hm

theorem passes_raising : Passes bare 0 (raising x message) := by
  have hword : ∀ c ∈ "raise ".toList, isWord c = true ∨ c = ' ' := forall_of_all (by decide)
  have hname : Passes bare 0 x.text := passes_words fun c hc => .inl (isWord_text x hc)
  have hoperand : Passes bare 0 (operand message) :=
    passes_operand hm (fun _ => rfl) (by decide) (by decide)
  refine (passes_words hword).append (hname.append hoperand ?_) fun c hc => ?_
  · rintro c ⟨⟩
    decide
  · obtain ⟨d, more, hx, hstart, -⟩ := x.exists_head
    rw [hx] at hc
    cases hc
    exact isQuote_of_isPlain (isPlain_of_isWord (isWord_of_isNameStart hstart))

theorem not_mem_raising {c : Char} (hword : isWord c = false) (hprintable : isPrintable c = false) :
    c ∉ raising x message := by
  have hstart : ∀ d ∈ "raise ".toList, isPrintable d = true := List.all_eq_true.1 (by decide)
  intro hc
  rw [raising_eq, List.mem_append, List.mem_append, operand, marked, List.mem_cons, List.mem_append,
    List.mem_cons, List.mem_append, List.mem_singleton, List.mem_singleton] at hc
  obtain hc | hc | rfl | (rfl | hc | rfl) | rfl := hc
  · rw [hstart c hc] at hprintable
    cases hprintable
  · rw [isWord_text x hc] at hword
    cases hword
  · exact absurd hprintable (by decide)
  · exact absurd hprintable (by decide)
  · rw [hm.isPrintable c hc] at hprintable
    cases hprintable
  · exact absurd hprintable (by decide)
  · exact absurd hprintable (by decide)

theorem expandTabsFrom_raising (column : Nat) :
    expandTabsFrom 4 column (raising x message) = raising x message :=
  expandTabsFrom_eq_self (not_mem_raising x hm (by decide) (by decide)) column

theorem stands_raising (n : Nat) : Row.Stands ⟨n, raising x message⟩ := by
  have hpasses := passes_raising x hm
  have hend : raising x message =
      'r' :: (("aise ".toList ++ (x.text ++ '(' :: marked '"' message)) ++ [')']) := by
    rw [raising_eq, operand, List.append_assoc, List.append_assoc]
    rfl
  have hlast : (raising x message).getLast? = some ')' := by
    rw [hend, ← List.cons_append, List.getLast?_concat]
  have htrim : trim (raising x message) = raising x message := by
    rw [hend]
    exact trim_eq_self_iff.2 (Written.Content.ends_enclosed (by decide) (by decide) _)
  have hhead : (raising x message).head? = some 'r' := rfl
  constructor
  · have hne : raising x message ≠ [] := by
      intro hnil
      rw [hnil] at hhead
      cases hhead
    rw [expandTabsFrom_raising x hm]
    refine .of_admits hne htrim (by rw [hhead]; decide) (by rw [hlast]; decide) hpasses.after ?_ ?_
    · exact Reader.admits_mono (fun _ _ => noComment_of_bare) hpasses.admits
    · exact Reader.admits_mono (fun _ _ => lacks_of_bare (by decide)) hpasses.admits
  · exact not_mem_raising x hm (by decide) (by decide)

end Rows

theorem splitLines_guardedRaise {x : Identifier} {kind message : String}
    (hkind : kind.toList = x.text) (hm : IsMessage message.toList) :
    splitLines (guardedRaise kind message).toList = numbered 1 (rows x message.toList) := by
  have hopening : Row.Stands ⟨0, opening.headline⟩ :=
    Row.Sound.stands (.header (p := opening) (show IsHead [] by decide))
  have hclause : Row.Stands ⟨0, (clause x).headline⟩ := Row.Sound.stands (.header (isHead_clause x))
  have hprinting : Row.Stands ⟨4, printing⟩ := Row.Sound.stands (.simple (by decide))
  rw [toList_guardedRaise hkind, splitLines_rows]
  intro r hr
  simp only [rows, List.mem_cons, List.not_mem_nil, or_false] at hr
  obtain rfl | rfl | rfl | rfl := hr
  · exact hopening
  · exact stands_raising x hm 4
  · exact hclause
  · exact hprinting

/-! ## The lines of the program -/

section Lines

variable (x : Identifier)

theorem wideHead_clause (n : Nat) : (clause x).wideHead n = (clause x).head :=
  expandTabsFrom_eq_self (not_mem_head x (by decide) (by decide)) _

theorem trim_head : trim (clause x).head = naming x := by
  have hhead : (clause x).head = [' '] ++ naming x := rfl
  rw [hhead, trim_append_left isBlank_space]
  exact trim_named x (show isBlank 'e' = false by decide) " as ".toList

def raisingLine (message : List Char) : Line := ⟨raising x message, 4, 2⟩

def printingLine : Line := ⟨printing, 4, 4⟩

def openingLine : Line := Row.line 1 ⟨0, opening.headline⟩

def clauseLine : Line := Row.line 3 ⟨0, (clause x).headline⟩

def guardedCompound (message : List Char) : Compound where
  head := []
  lines := [raisingLine x message]
  clauses := [⟨"except", naming x, [printingLine]⟩]
  used := 3

theorem compound_rows (message : List Char) :
    compound "try" ["except", "else", "finally"] [] openingLine
        [raisingLine x message, clauseLine x, printingLine] = .ok (guardedCompound x message) := by
  have hopening : header "try" openingLine = .ok ⟨[], []⟩ := by decide
  have hclause : header "except" (clauseLine x) = .ok ⟨naming x, []⟩ := by
    have hheader := (isHead_clause x).header_headline 0 3
    rwa [wideHead_clause, trim_head] at hheader
  have hword : firstName (clauseLine x).text = "except" := (isHead_clause x).firstName_headline 0
  have hclauses : clausesFrom 0 ["except", "else", "finally"] [] 1
      [raisingLine x message, clauseLine x, printingLine] =
        .ok ((guardedCompound x message).clauses, 2) := by
    have hskip : clausesFrom 0 ["except", "else", "finally"] [] 1
        [raisingLine x message, clauseLine x, printingLine] =
          clausesFrom 0 ["except", "else", "finally"] [] 0 [clauseLine x, printingLine] :=
      clausesFrom_skip 0 _ _ [raisingLine x message] _
    have hindent : (clauseLine x).indent = 0 := rfl
    have hmember : (["except", "else", "finally"].contains "except") = true := by decide
    have hbody : body (clauseLine x) [] [printingLine] = ⟨[printingLine], 1⟩ := rfl
    rw [hskip, clausesFrom, if_neg (Nat.lt_irrefl 0)]
    simp only [hword, hindent, hmember, beq_self_eq_true, Bool.and_self, if_true, hclause, bind,
      Except.bind, hbody]
    rfl
  have hindent : openingLine.indent = 0 := rfl
  have hbody : body openingLine [] [raisingLine x message, clauseLine x, printingLine] =
      ⟨[raisingLine x message], 1⟩ := rfl
  simp only [compound, hopening, bind, Except.bind, hbody, hindent, hclauses]
  rfl

theorem numbered_rows {message : List Char} (hm : IsMessage message) :
    numbered 1 (rows x message) =
      [openingLine, raisingLine x message, clauseLine x, printingLine] := by
  have hraising : Row.line 2 ⟨4, raising x message⟩ = raisingLine x message := by
    rw [Row.line, expandTabsFrom_raising x hm]
    rfl
  have hprinting : Row.line 4 ⟨4, printing⟩ = printingLine := by decide
  have hlines : numbered 1 (rows x message) =
      [openingLine, Row.line 2 ⟨4, raising x message⟩, clauseLine x, Row.line 4 ⟨4, printing⟩] := rfl
  rw [hlines, hraising, hprinting]

end Lines

end SnippetGrader.Raising
