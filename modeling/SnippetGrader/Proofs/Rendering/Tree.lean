import SnippetGrader.Program.Session

/-!
# Expression trees

Expressions as trees: what a tree means (`Tree.denote`), how it is written (`Tree.spell`), and where
parentheses are needed so that the writing can be read back (`Tree.Grouped`).

A tree may hold parentheses as nodes of their own. `Tree.regroup` puts them where an operand binds
looser than its operator demands, and nowhere else; `Tree.render` writes the tree that comes out.
-/

namespace SnippetGrader.Rendering

open Text Source

/-! ## Leaves and operators -/

/-- The words that are no names. -/
def reservedWords : List String :=
  ["False", "None", "True", "and", "as", "assert", "async", "await", "break", "class", "continue",
   "def", "del", "elif", "else", "except", "finally", "for", "from", "global", "if", "import", "in",
   "is", "lambda", "nonlocal", "not", "or", "pass", "raise", "return", "try", "while", "with",
   "yield"]

/-- A decimal whole number as it is written: a digit, and then digits and underscores. -/
structure DecimalNumber where
  first : Char
  more : List Char
  first_isDigit : first.isDigit = true
  more_isDigit : ∀ c ∈ more, c = '_' ∨ c.isDigit = true

namespace DecimalNumber

/-- How a number is written. -/
def text (n : DecimalNumber) : List Char := n.first :: n.more

def digits (n : DecimalNumber) : List Char := n.text.filter (· != '_')

/-- The value of a number, unless it has too many digits. -/
def value (n : DecimalNumber) : Except Failure Int :=
  if n.digits.length > Number.maxDigits then
    .error (Convert.notInt 10 "" (.tooLong n.digits.length))
  else .ok (Number.valueOf 10 0 n.digits)

theorem mem_text (n : DecimalNumber) : ∀ c ∈ n.text, c = '_' ∨ c.isDigit = true := by
  intro c hc
  obtain rfl | hc := List.mem_cons.1 hc
  · exact .inr n.first_isDigit
  · exact n.more_isDigit c hc

end DecimalNumber

/-- A name that is no reserved word. -/
structure Identifier where
  text : List Char
  isName_text : isName text = true
  not_reserved : String.ofList text ∉ reservedWords

/-- The value of a name in a scope. A name that is not bound stands for a function of the language,
or else for its own text. -/
def Identifier.denote (x : Identifier) (scope : Nat) : Run Value := do
  match ← Run.lookup? scope (String.ofList x.text) with
  | some v => return v
  | none =>
    match Builtin.ofName? (String.ofList x.text) with
    | some f => return .builtin f
    | none => return .str (String.ofList x.text)

/-- The arithmetic operators. -/
inductive ArithmeticOp where
  | add | sub | mul | div | floorDiv | mod | pow
deriving DecidableEq

namespace ArithmeticOp

/-- What an operator does. -/
def operator : ArithmeticOp → Operator
  | add => .add | sub => .sub | mul => .mul | div => .div | floorDiv => .floorDiv | mod => .mod
  | pow => .pow

/-- How an operator is written. -/
def symbol : ArithmeticOp → Symbol
  | add => .add | sub => .sub | mul => .mul | div => .div | floorDiv => .floorDiv | mod => .mod
  | pow => .pow

/-- How tightly an operator binds. -/
def level : ArithmeticOp → Nat
  | add | sub => 5
  | mul | div | floorDiv | mod => 6
  | pow => 8

/-- How tightly the left operand has to bind: sums and products are read from the left, powers are
not. -/
def leftLevel : ArithmeticOp → Nat
  | add | sub => 5
  | mul | div | floorDiv | mod => 6
  | pow => 9

/-- How tightly the right operand has to bind; an exponent may have a sign. -/
def rightLevel : ArithmeticOp → Nat
  | add | sub => 6
  | mul | div | floorDiv | mod => 7
  | pow => 7

end ArithmeticOp

/-- The comparisons. -/
inductive ComparisonOp where
  | eq | ne | lt | le | gt | ge | member | notMember
deriving DecidableEq

namespace ComparisonOp

def comparison : ComparisonOp → Value.Comparison
  | eq => .eq | ne => .ne | lt => .order .lt | le => .order .le | gt => .order .gt
  | ge => .order .ge | member => .member | notMember => .notMember

/-- How a comparison is written. -/
def text : ComparisonOp → List Char
  | eq => "==".toList | ne => "!=".toList | lt => "<".toList | le => "<=".toList
  | gt => ">".toList | ge => ">=".toList | member => "in".toList | notMember => "not in".toList

end ComparisonOp

/-- The words that join two operands of which the second may not be needed. -/
inductive Connective where
  | both | either
deriving DecidableEq

namespace Connective

/-- How a connective is written. -/
def text : Connective → String
  | both => "and" | either => "or"

/-- How tightly a connective binds. -/
def level : Connective → Nat
  | both => 2
  | either => 1

end Connective

/-! ## Trees -/

/-- An expression. -/
inductive Tree where
  | number (n : DecimalNumber)
  | name (x : Identifier)
  | list (items : List Tree)
  /-- Parentheses around an expression. -/
  | group (t : Tree)
  | minus (t : Tree)
  | arithmetic (op : ArithmeticOp) (l r : Tree)
  | comparison (op : ComparisonOp) (l r : Tree)
  | negation (t : Tree)
  | junction (c : Connective) (l r : Tree)
  | conditional (condition yes no : Tree)

namespace Tree

mutual

/-- What a tree stands for in a scope. Operands are evaluated from left to right, those of `and`,
`or` and conditionals only if they are needed. -/
def denote (scope : Nat) : Tree → Run Value
  | number n => Value.int <$> Run.ofExcept n.value
  | name x => x.denote scope
  | list items => do Run.newList (← denoteAll scope items).toArray
  | group t => denote scope t
  | minus t => do
    let v ← denote scope t
    let n ← Run.ofExcept (operand (← Run.store) "unary -" v)
    Run.fresh n.negate.toValue
  | arithmetic op l r => do
    let v ← denote scope l
    let w ← denote scope r
    Run.operate op.operator v w
  | comparison op l r => do
    let v ← denote scope l
    let w ← denote scope r
    return .bool (← Run.compareBy op.comparison v w)
  | negation t => do return .bool (!(← Run.truthy (← denote scope t)))
  | junction .both l r => do
    let v ← denote scope l
    if ← Run.truthy v then denote scope r else return v
  | junction .either l r => do
    let v ← denote scope l
    if ← Run.truthy v then return v else denote scope r
  | conditional condition yes no => do
    if ← Run.truthy (← denote scope condition) then denote scope yes else denote scope no

def denoteAll (scope : Nat) : List Tree → Run (List Value)
  | [] => return []
  | t :: ts => do
    let v ← denote scope t
    return v :: (← denoteAll scope ts)

end

mutual

/-- How a tree is written, with parentheses only where it holds them. -/
def spell : Tree → List Char
  | number n => n.text
  | name x => x.text
  | list items => '[' :: ", ".toList.intercalate (spellAll items) ++ [']']
  | group t => '(' :: spell t ++ [')']
  | minus t => '-' :: spell t
  | arithmetic op l r => spell l ++ ' ' :: op.symbol.chars ++ ' ' :: spell r
  | comparison op l r => spell l ++ ' ' :: op.text ++ ' ' :: spell r
  | negation t => "not ".toList ++ spell t
  | junction c l r => spell l ++ ' ' :: c.text.toList ++ ' ' :: spell r
  | conditional condition yes no =>
    spell yes ++ " if ".toList ++ spell condition ++ " else ".toList ++ spell no

def spellAll : List Tree → List (List Char)
  | [] => []
  | t :: ts => spell t :: spellAll ts

end

/-- How tightly the operator at the root of a tree binds. -/
def level : Tree → Nat
  | conditional _ _ _ => 0
  | junction c _ _ => c.level
  | negation _ => 3
  | comparison _ _ _ => 4
  | arithmetic op _ _ => op.level
  | minus _ => 7
  | number _ | name _ | list _ | group _ => 9

mutual

/-- Every operand binds as tightly as its operator demands. -/
def Grouped : Tree → Prop
  | number _ | name _ => True
  | list items => GroupedAll items
  | group t => Grouped t
  | minus t => 7 ≤ t.level ∧ Grouped t
  | arithmetic op l r => op.leftLevel ≤ l.level ∧ op.rightLevel ≤ r.level ∧ Grouped l ∧ Grouped r
  | comparison _ l r => 5 ≤ l.level ∧ 5 ≤ r.level ∧ Grouped l ∧ Grouped r
  | negation t => 3 ≤ t.level ∧ Grouped t
  | junction c l r => c.level ≤ l.level ∧ c.level ≤ r.level ∧ Grouped l ∧ Grouped r
  | conditional condition yes no =>
    1 ≤ condition.level ∧ 1 ≤ yes.level ∧ Grouped condition ∧ Grouped yes ∧ Grouped no

/-- Every operand in some trees binds as tightly as its operator demands. -/
def GroupedAll : List Tree → Prop
  | [] => True
  | t :: ts => Grouped t ∧ GroupedAll ts

end

/-! ## Parentheses -/

/-- A tree as an operand that has to bind at least so tightly. -/
def atLevel (p : Nat) (t : Tree) : Tree := if t.level < p then group t else t

mutual

/-- Puts parentheses around the operands that bind looser than their operators demand. -/
def regroup : Tree → Tree
  | number n => number n
  | name x => name x
  | list items => list (regroupAll items)
  | group t => group (regroup t)
  | minus t => minus ((regroup t).atLevel 7)
  | arithmetic op l r =>
    arithmetic op ((regroup l).atLevel op.leftLevel) ((regroup r).atLevel op.rightLevel)
  | comparison op l r => comparison op ((regroup l).atLevel 5) ((regroup r).atLevel 5)
  | negation t => negation ((regroup t).atLevel 3)
  | junction c l r => junction c ((regroup l).atLevel c.level) ((regroup r).atLevel c.level)
  | conditional condition yes no =>
    conditional ((regroup condition).atLevel 1) ((regroup yes).atLevel 1) (regroup no)

/-- Puts parentheses into some trees. -/
def regroupAll : List Tree → List Tree
  | [] => []
  | t :: ts => regroup t :: regroupAll ts

end

/-- How a tree is written, with parentheses where an operand binds looser than its operator
demands. -/
def render (t : Tree) : List Char := t.regroup.spell

theorem le_level_atLevel {p : Nat} (hp : p ≤ 9) (t : Tree) : p ≤ (t.atLevel p).level := by
  unfold atLevel
  split
  · exact hp
  · omega

theorem grouped_atLevel (p : Nat) {t : Tree} (h : t.Grouped) : (t.atLevel p).Grouped := by
  unfold atLevel
  split
  · simpa [Grouped] using h
  · exact h

theorem denote_atLevel (scope p : Nat) (t : Tree) :
    (t.atLevel p).denote scope = t.denote scope := by
  unfold atLevel
  split
  · simp only [denote]
  · rfl

mutual

theorem grouped_regroup : (t : Tree) → t.regroup.Grouped
  | number _ | name _ => trivial
  | list items => by
    simp only [regroup, Grouped]
    exact groupedAll_regroupAll items
  | group t => by
    simp only [regroup, Grouped]
    exact grouped_regroup t
  | minus t => by
    simp only [regroup, Grouped]
    exact ⟨le_level_atLevel (by omega) _, grouped_atLevel _ (grouped_regroup t)⟩
  | arithmetic op l r => by
    simp only [regroup, Grouped]
    have hleft : op.leftLevel ≤ 9 := by cases op <;> decide
    have hright : op.rightLevel ≤ 9 := by cases op <;> decide
    exact ⟨le_level_atLevel hleft _, le_level_atLevel hright _,
      grouped_atLevel _ (grouped_regroup l), grouped_atLevel _ (grouped_regroup r)⟩
  | comparison op l r => by
    simp only [regroup, Grouped]
    exact ⟨le_level_atLevel (by omega) _, le_level_atLevel (by omega) _,
      grouped_atLevel _ (grouped_regroup l), grouped_atLevel _ (grouped_regroup r)⟩
  | negation t => by
    simp only [regroup, Grouped]
    exact ⟨le_level_atLevel (by omega) _, grouped_atLevel _ (grouped_regroup t)⟩
  | junction c l r => by
    simp only [regroup, Grouped]
    have hlevel : c.level ≤ 9 := by cases c <;> decide
    exact ⟨le_level_atLevel hlevel _, le_level_atLevel hlevel _,
      grouped_atLevel _ (grouped_regroup l), grouped_atLevel _ (grouped_regroup r)⟩
  | conditional condition yes no => by
    simp only [regroup, Grouped]
    exact ⟨le_level_atLevel (by omega) _, le_level_atLevel (by omega) _,
      grouped_atLevel _ (grouped_regroup condition), grouped_atLevel _ (grouped_regroup yes),
      grouped_regroup no⟩

theorem groupedAll_regroupAll : (ts : List Tree) → GroupedAll (regroupAll ts)
  | [] => trivial
  | t :: ts => by
    simp only [regroupAll, GroupedAll]
    exact ⟨grouped_regroup t, groupedAll_regroupAll ts⟩

end

mutual

theorem denote_regroup (scope : Nat) : (t : Tree) → t.regroup.denote scope = t.denote scope
  | number _ | name _ => rfl
  | list items => by simp only [regroup, denote, denoteAll_regroupAll scope items]
  | group t => by simp only [regroup, denote, denote_regroup scope t]
  | minus t | negation t => by
    simp only [regroup, denote, denote_atLevel, denote_regroup scope t]
  | arithmetic _ l r | comparison _ l r | junction .both l r | junction .either l r => by
    simp only [regroup, denote, denote_atLevel, denote_regroup scope l, denote_regroup scope r]
  | conditional condition yes no => by
    simp only [regroup, denote, denote_atLevel, denote_regroup scope condition,
      denote_regroup scope yes, denote_regroup scope no]

theorem denoteAll_regroupAll (scope : Nat) :
    (ts : List Tree) → denoteAll scope (regroupAll ts) = denoteAll scope ts
  | [] => rfl
  | t :: ts => by
    simp only [regroupAll, denoteAll, denote_regroup scope t, denoteAll_regroupAll scope ts]

end

end Tree

end SnippetGrader.Rendering
