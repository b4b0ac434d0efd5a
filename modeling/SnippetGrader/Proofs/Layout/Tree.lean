import SnippetGrader.Proofs.Layout.Reading
import SnippetGrader.Source.Form
import SnippetGrader.Source.Statement

/-!
# Program trees

A program as a tree: a node is a simple statement or a compound one, which has a header with a suite
of nodes and further clauses of the same form. A tree is written as rows, each suite indented
further than its header by a width of its own. The logical lines of the text that is written so are
the rows, one by one.
-/

namespace SnippetGrader.Layout

open Text Source

/-! ## Trees -/

/-- The words that headers start with. -/
inductive Word where
  | conditional | elif | otherwise | whileLoop | forLoop | within | definition | guarded | handler
  | cleanup
deriving DecidableEq, Repr

namespace Word

/-- How a word is written. -/
def text : Word → String
  | conditional => "if" | elif => "elif" | otherwise => "else" | whileLoop => "while"
  | forLoop => "for" | within => "with" | definition => "def" | guarded => "try"
  | handler => "except" | cleanup => "finally"

/-- The kind of the statements that a word starts. A further clause has no kind of its own. -/
def kind : Word → StatementKind
  | conditional => .conditional | whileLoop => .whileLoop | forLoop => .forLoop
  | within => .within | definition => .definition | guarded => .guarded
  | elif | otherwise | handler | cleanup => .clause

def followers : Word → List Word
  | conditional => [elif, otherwise]
  | whileLoop | forLoop => [otherwise]
  | guarded => [handler, otherwise, cleanup]
  | _ => []

/-- The words of the clauses after which none may follow. -/
def closers : Word → List Word
  | conditional | whileLoop | forLoop => [otherwise]
  | _ => []

end Word

mutual

/-- A statement with all that belongs to it. -/
inductive Node where
  | simple (text : List Char)
  | compound (first : Part) (more : List Part)

/-- A header and the suite under it: the word, what stands between it and the colon, and the
further indentation of the suite. -/
inductive Part where
  | mk (word : Word) (head : List Char) (extra : Nat) (suite : List Node)

end

namespace Part

def word : Part → Word
  | mk w _ _ _ => w

/-- What stands between the word of a header and its colon. -/
def head : Part → List Char
  | mk _ h _ _ => h

/-- The further indentation of a suite. -/
def extra : Part → Nat
  | mk _ _ n _ => n

def suite : Part → List Node
  | mk _ _ _ s => s

/-- The text of a header. -/
def headline (p : Part) : List Char := p.word.text.toList ++ p.head ++ [':']

end Part

/-! ## Rows -/

/-- A row of a written program. -/
structure Row where
  indent : Nat
  text : List Char

mutual

/-- The rows of a node at indentation `n`. -/
def Node.rows (n : Nat) : Node → List Row
  | .simple text => [⟨n, text⟩]
  | .compound first more => first.rows n ++ Part.rowsAll n more

/-- The rows of a header and its suite. -/
def Part.rows (n : Nat) : Part → List Row
  | .mk word head extra suite =>
    ⟨n, Part.headline (.mk word head extra suite)⟩ :: Node.rowsAll (n + extra) suite

/-- The rows of nodes one after the other. -/
def Node.rowsAll (n : Nat) : List Node → List Row
  | [] => []
  | t :: rest => t.rows n ++ Node.rowsAll n rest

/-- The rows of clauses one after the other. -/
def Part.rowsAll (n : Nat) : List Part → List Row
  | [] => []
  | p :: rest => p.rows n ++ Part.rowsAll n rest

end

namespace Row

/-- A row as it stands in the source. -/
def source (r : Row) : List Char := List.replicate r.indent ' ' ++ r.text

/-- The logical line of the row with number `k`. -/
def line (k : Nat) (r : Row) : Line := ⟨expandTabsFrom 4 r.indent r.text, r.indent, k⟩

end Row

/-- The logical lines of rows, the first of which has number `k`. -/
def numbered (k : Nat) : List Row → List Line
  | [] => []
  | r :: rest => r.line k :: numbered (k + 1) rest

/-- The text of a program. -/
def source (ts : List Node) : List Char := ['\n'].intercalate ((Node.rowsAll 0 ts).map Row.source)

/-! ## Well-formed trees -/

/-- The words that no simple statement starts with. -/
def compoundWords : List String :=
  ["if", "elif", "else", "for", "while", "try", "except", "finally", "with", "def", "class"]

/-- The text of a simple statement. It stands on one line, closes the brackets that it opens, and
has neither literals nor comments nor a separator or colon at depth zero. -/
structure IsSimple (text : List Char) : Prop where
  nonempty : text ≠ []
  trimmed : trim text = text
  chars : ∀ c ∈ text, isQuote c = false ∧ c ∉ ['\n', '#', '\\']
  closed : Reader.after {} text = {}
  semicolon : Reader.admits (lacks ';') {} text = true
  colon : Reader.admits (lacks ':') {} text = true
  word : firstName text ∉ compoundWords

instance (text : List Char) : Decidable (IsSimple text) :=
  decidable_of_iff
    (text ≠ [] ∧ trim text = text ∧
      (text.all fun c => decide (isQuote c = false ∧ c ∉ ['\n', '#', '\\'])) = true ∧
      Reader.after {} text = {} ∧ Reader.admits (lacks ';') {} text = true ∧
      Reader.admits (lacks ':') {} text = true ∧ firstName text ∉ compoundWords)
    ⟨fun ⟨h₁, h₂, h₃, h₄, h₅, h₆, h₇⟩ =>
        ⟨h₁, h₂, fun c hc => of_decide_eq_true (List.all_eq_true.1 h₃ c hc), h₄, h₅, h₆, h₇⟩,
      fun h => ⟨h.1, h.2, List.all_eq_true.2 fun c hc => decide_eq_true (h.3 c hc), h.4, h.5, h.6,
        h.7⟩⟩

/-- What may stand between the word of a header and its colon. It closes the brackets and literals
that it opens and has no comment and no colon at depth zero. -/
structure IsHead (head : List Char) : Prop where
  oneLine : '\n' ∉ head
  apart : ∀ c ∈ head.head?, isWord c = false
  closed : Reader.after {} head = {}
  comment : Reader.admits noComment {} head = true
  colon : Reader.admits (lacks ':') {} head = true

instance (head : List Char) : Decidable (IsHead head) :=
  decidable_of_iff
    ('\n' ∉ head ∧ (head.head?.all fun c => !isWord c) = true ∧ Reader.after {} head = {} ∧
      Reader.admits noComment {} head = true ∧ Reader.admits (lacks ':') {} head = true)
    ⟨fun ⟨h₁, h₂, h₃, h₄, h₅⟩ => ⟨h₁, by simpa [Option.all_eq_true] using h₂, h₃, h₄, h₅⟩,
      fun h => ⟨h.1, by simpa [Option.all_eq_true] using h.2, h.3, h.4, h.5⟩⟩

/-- Whether a parenthesis that `after` follows can close the signature of a function. -/
def closesSignature (after : List Char) : Bool :=
  match trimStart after with
  | [] => true
  | c :: rest => c == ':' || c == '-' && rest.head? == some '>'

/-- What follows the last parenthesis in a text that can close a signature. -/
def afterSignatures? : List Char → Option (List Char)
  | [] => none
  | c :: rest =>
    match afterSignatures? rest with
    | some after => some after
    | none => if c == ')' && closesSignature rest then some rest else none

/-- Whether no colon stands in the result annotation of a function head. -/
def hasPlainResult (head : List Char) : Bool :=
  (afterSignatures? head).all fun after => !after.contains ':'

def areClauses (words closers : List Word) : List Word → Bool
  | [] => true
  | w :: rest =>
    words.contains w && if closers.contains w then rest.isEmpty else areClauses words closers rest

mutual

/-- Whether a node is well-formed: its clauses are of the words that may follow, and a guarded
suite has a handler or a last suite. -/
def Node.wellFormed : Node → Bool
  | .simple text => decide (IsSimple text)
  | .compound first more =>
    first.word.kind != .clause &&
      areClauses first.word.followers first.word.closers (more.map Part.word) &&
      (first.word != .guarded || more.any fun p => p.word == .handler || p.word == .cleanup) &&
      first.wellFormed && Part.allWellFormed more

/-- Whether a header and its suite are well-formed. The suite is not empty and is indented further
than the header. -/
def Part.wellFormed : Part → Bool
  | .mk word head extra suite =>
    decide (IsHead head) && (word != .definition || hasPlainResult head) && decide (0 < extra) &&
      !suite.isEmpty && Node.allWellFormed suite

/-- Whether all nodes of a suite are well-formed. -/
def Node.allWellFormed : List Node → Bool
  | [] => true
  | t :: rest => t.wellFormed && Node.allWellFormed rest

/-- Whether all clauses are well-formed. -/
def Part.allWellFormed : List Part → Bool
  | [] => true
  | p :: rest => p.wellFormed && Part.allWellFormed rest

end

theorem Part.wellFormed_iff (p : Part) :
    p.wellFormed = true ↔
      IsHead p.head ∧ (p.word = .definition → hasPlainResult p.head = true) ∧ 0 < p.extra ∧
        p.suite ≠ [] ∧ Node.allWellFormed p.suite = true := by
  obtain ⟨word, head, extra, suite⟩ := p
  simp only [Part.wellFormed, Bool.and_eq_true, decide_eq_true_eq, Bool.or_eq_true, bne_iff_ne,
    Bool.not_eq_true', List.isEmpty_eq_false_iff, Part.head, Part.word, Part.extra, Part.suite,
    and_assoc, ← imp_iff_not_or, ne_eq]

theorem Node.wellFormed_compound_iff (first : Part) (more : List Part) :
    (Node.compound first more).wellFormed = true ↔
      first.word.kind ≠ .clause ∧
        areClauses first.word.followers first.word.closers (more.map Part.word) = true ∧
        (first.word ≠ .guarded ∨
          more.any (fun p => p.word == .handler || p.word == .cleanup) = true) ∧
        first.wellFormed = true ∧ Part.allWellFormed more = true := by
  simp only [Node.wellFormed, Bool.and_eq_true, Bool.or_eq_true, bne_iff_ne, and_assoc]

/-! ## Rows of well-formed trees -/

theorem Part.rows_eq (p : Part) (n : Nat) :
    p.rows n = ⟨n, p.headline⟩ :: Node.rowsAll (n + p.extra) p.suite := by
  cases p
  rfl

/-- A row of a well-formed tree: a simple statement or a header. -/
inductive Row.Sound : Row → Prop
  | simple {n : Nat} {text : List Char} (h : IsSimple text) : Row.Sound ⟨n, text⟩
  | header {n : Nat} {p : Part} (h : IsHead p.head) : Row.Sound ⟨n, p.headline⟩

mutual

/-- The rows of a node are indented at least as far as the node. -/
theorem Node.rows_sound {t : Node} (h : t.wellFormed = true) (n : Nat) :
    ∀ r ∈ t.rows n, n ≤ r.indent ∧ r.Sound := by
  match t with
  | .simple text =>
    rw [Node.rows, List.forall_mem_singleton]
    exact ⟨Nat.le_refl n, .simple (of_decide_eq_true h)⟩
  | .compound first more =>
    obtain ⟨-, -, -, hfirst, hmore⟩ := (Node.wellFormed_compound_iff first more).1 h
    rw [Node.rows, List.forall_mem_append]
    exact ⟨Part.rows_sound hfirst n, Part.rowsAll_sound hmore n⟩

theorem Part.rows_sound {p : Part} (h : p.wellFormed = true) (n : Nat) :
    ∀ r ∈ p.rows n, n ≤ r.indent ∧ r.Sound := by
  match p with
  | .mk word head extra suite =>
    obtain ⟨hhead, -, -, -, hsuite⟩ := (Part.wellFormed_iff _).1 h
    rw [Part.rows, List.forall_mem_cons]
    refine ⟨⟨Nat.le_refl n, .header hhead⟩, fun r hr => ?_⟩
    obtain ⟨hindent, hsound⟩ := Node.rowsAll_sound hsuite (n + extra) r hr
    exact ⟨Nat.le_trans (Nat.le_add_right n extra) hindent, hsound⟩

theorem Node.rowsAll_sound {ts : List Node} (h : Node.allWellFormed ts = true) (n : Nat) :
    ∀ r ∈ Node.rowsAll n ts, n ≤ r.indent ∧ r.Sound := by
  match ts with
  | [] => exact fun r hr => absurd hr List.not_mem_nil
  | t :: rest =>
    rw [Node.allWellFormed, Bool.and_eq_true] at h
    rw [Node.rowsAll, List.forall_mem_append]
    exact ⟨Node.rows_sound h.1 n, Node.rowsAll_sound h.2 n⟩

theorem Part.rowsAll_sound {ps : List Part} (h : Part.allWellFormed ps = true) (n : Nat) :
    ∀ r ∈ Part.rowsAll n ps, n ≤ r.indent ∧ r.Sound := by
  match ps with
  | [] => exact fun r hr => absurd hr List.not_mem_nil
  | p :: rest =>
    rw [Part.allWellFormed, Bool.and_eq_true] at h
    rw [Part.rowsAll, List.forall_mem_append]
    exact ⟨Part.rows_sound h.1 n, Part.rowsAll_sound h.2 n⟩

end

end SnippetGrader.Layout
