import SnippetGrader.Expression.Constant.Template
import SnippetGrader.Expression.Constant.Tree

/-!
# The grammar of expressions

`Tree.parse?` reads a text as an expression. Each rule of the grammar is a reader of tokens and
takes the readers of what is inside as arguments: `e` reads expressions, and `primary` reads what
has no operators around it. `level` ties the knot. It is enough to go as deep as the text is long,
because a rule reads a token before it uses a reader of the level below.

The operators of equal kind need not be told apart by their precedence: only a sum or difference
of two operands can be a constant, and all longer chains are expressions of no further interest.
-/

namespace SnippetGrader.Constant

open Source Literal

/-- A reader of tokens, which can fail. -/
abbrev Parse := StateT (List Token) Option

namespace Parse

variable {α : Type}

/-! ## Single tokens -/

def sees (t : Token) : Parse Bool := return (← get).head? == some t

/-- Passes over the token `t` if it comes next, and tells whether it did. -/
def skip (t : Token) : Parse Bool := do
  if ← sees t then
    modify List.tail
    return true
  else return false

/-- Passes over one of two tokens if it comes next, and tells whether it did. -/
def skipEither (t u : Token) : Parse Bool := do
  if ← skip t then return true else skip u

def expect (t : Token) : Parse Unit := do
  if !(← skip t) then failure

def keyword (word : String) : Token := .word word.toList

/-- Reads a name. -/
def name : Parse (List Char) := do
  match ← get with
  | .word cs :: rest =>
    if !isName cs then failure
    set rest
    return cs
  | _ => failure

/-- Passes over a name with the mark `m` after it, if they come next, and tells whether they did. -/
def skipNameAnd (m : String) : Parse Bool := do
  match ← get with
  | .word cs :: .mark symbol :: rest =>
    if isName cs && symbol == m then
      set rest
      return true
    else return false
  | _ => return false

/-! ## Repetition -/

/-- What `step` reads, at most `fuel` times, until it finds nothing to read. -/
def repeatUpTo (step : Parse (Option α)) : (fuel : Nat) → Parse (List α)
  | 0 => return []
  | fuel + 1 => do
    match ← step with
    | some a => return a :: (← repeatUpTo step fuel)
    | none => return []

/-- What `step` reads until it finds nothing to read; each time it reads a token. -/
def repeated (step : Parse (Option α)) : Parse (List α) := do
  repeatUpTo step (← get).length

/-- At most `fuel` items with commas between them, up to the token `close`, before which a comma may
stand. -/
def itemsUpTo (close : Token) (item : Parse α) : (fuel : Nat) → Parse (List α)
  | 0 => failure
  | fuel + 1 => do
    if ← skip close then return []
    let a ← item
    if ← skip (.mark ",") then return a :: (← itemsUpTo close item fuel)
    expect close
    return [a]

/-- Items with commas between them, up to the token `close`. -/
def items (close : Token) (item : Parse α) : Parse (List α) := do
  itemsUpTo close item (← get).length

def moreItems (close : Token) (item : Parse α) : Parse (List α) := do
  if ← skip (.mark ",") then items close item
  else
    expect close
    return []

/-! ## Strings -/

/-- The tokens that are string literals at the start of some tokens. -/
def strings : List Token → List (Opening × List Char)
  | .string o body :: rest => (o, body) :: strings rest
  | _ => []

/-- Whether a text in parentheses is an expression that `e` reads. -/
def readsAll (e : Parse Tree) (text : List Char) : Bool :=
  match tokens? ('(' :: text ++ [')']) with
  | some ts =>
    match e.run ts with
    | some (_, []) => true
    | _ => false
  | none => false

def ofStrings? (e : Parse Tree) (parts : List (Opening × List Char)) : Option Tree := do
  if parts.any (·.1.isBytes) && !parts.all (·.1.isBytes) then none
  let texts ← parts.mapM fun (o, body) =>
    if !o.isTemplate then decodeContent? o body
    else if isTemplateBody (readsAll e) o.isRaw body then some []
    else none
  if parts.any (·.1.isTemplate) then some .other
  else if parts.any (·.1.isBytes) then some .bytes
  else some (.text texts.flatten)

def adjacentStrings (e : Parse Tree) : Parse Tree := do
  let parts := strings (← get)
  modify (List.drop parts.length)
  ofStrings? e parts

/-! ## Operators -/

/-- The operators between operands, comparisons aside. -/
def operators : List String := ["|", "&", "<<", ">>", "+", "-", "*", "/", "//", "%", "@", "^"]

def operator? : Parse (Option String) := do
  match ← get with
  | .mark m :: rest =>
    if operators.contains m then
      set rest
      return some m
    else return none
  | _ => return none

/-- Passes over a comparison, if one comes next, and tells whether it did. -/
def skipComparison : Parse Bool := do
  match ← get with
  | .mark m :: rest =>
    if ["==", "!=", "<", ">", "<=", ">="].contains m then
      set rest
      return true
    else return false
  | _ =>
    if ← skip (keyword "not") then
      expect (keyword "in")
      return true
    else if ← skip (keyword "is") then
      let _ ← skip (keyword "not")
      return true
    else skip (keyword "in")

/-- An operand with its signs and powers, of which there are at most `fuel`. -/
def operandUpTo (primary : Parse Tree) : (fuel : Nat) → Parse Tree
  | 0 => failure
  | fuel + 1 => do
    if ← skipEither (.mark "+") (.mark "-") then
      return .signed (← operandUpTo primary fuel)
    if ← skip (.mark "~") then
      let _ ← operandUpTo primary fuel
      return .other
    let awaited ← skip (keyword "await")
    let t ← primary
    if ← skip (.mark "**") then
      let _ ← operandUpTo primary fuel
      return .other
    return if awaited then .other else t

/-- An operand with its signs and powers. -/
def operand (primary : Parse Tree) : Parse Tree := do operandUpTo primary ((← get).length + 1)

/-- Operands with operators between them. -/
def operation (primary : Parse Tree) : Parse Tree := do
  let first ← operand primary
  let rest ← repeated do
    match ← operator? with
    | some m => return some (m, ← operand primary)
    | none => return none
  match rest with
  | [] => return first
  | [(m, second)] => return if m == "+" || m == "-" then .sum first second else .other
  | _ => return .other

/-- A comparison, or its operand, after any number of negations. -/
def condition (primary : Parse Tree) : Parse Tree := do
  let negations ← repeated do return if ← skip (keyword "not") then some () else none
  let first ← operation primary
  let rest ← repeated do
    if ← skipComparison then return some (← operation primary) else return none
  return if negations.isEmpty && rest.isEmpty then first else .other

/-- Conditions joined by `and` and `or`. -/
def disjunction (primary : Parse Tree) : Parse Tree := do
  let first ← condition primary
  let rest ← repeated do
    if ← skipEither (keyword "and") (keyword "or") then return some (← condition primary)
    else return none
  return if rest.isEmpty then first else .other

/-! ## Items of collections -/

def named (e : Parse Tree) : Parse Tree := do
  if ← skipNameAnd ":=" then
    let _ ← e
    return .other
  else e

/-- An item of a collection, with a star or without. -/
def item (primary e : Parse Tree) : Parse Tree := do
  if ← skip (.mark "*") then return .starred (← operation primary) else named e

def target (primary : Parse Tree) : Parse Unit := do
  let _ ← skip (.mark "*")
  if !(← primary).isTarget then failure

/-- The targets of a loop, up to the word `in`. -/
def targets (primary : Parse Tree) : Parse Unit := do
  target primary
  let _ ← moreItems (keyword "in") (target primary)

/-- A loop of a comprehension with its conditions, if one comes next. -/
def clause (primary : Parse Tree) : Parse (Option Unit) := do
  let isAsync ← skip (keyword "async")
  if ← skip (keyword "for") then
    targets primary
    let _ ← disjunction primary
    let _ ← repeated do
      if ← skip (keyword "if") then return some (← disjunction primary) else return none
    return some ()
  else if isAsync then failure
  else return none

/-- The loops of a comprehension, if there are any, and whether there are. -/
def clauses (primary : Parse Tree) : Parse Bool := return !(← repeated (clause primary)).isEmpty

/-- The loops of a comprehension, or the items after `first` if there are none, up to the token
`close`. -/
def comprehensionOr {α : Type} (primary : Parse Tree) (close : Token) (item : Parse α)
    (collection : List α → Tree) (first : α) : Parse Tree := do
  if ← clauses primary then
    expect close
    return .other
  return collection (first :: (← moreItems close item))

/-- What follows the word `yield`, up to the closing parenthesis. -/
def yielded (primary e : Parse Tree) : Parse Tree := do
  if ← skip (keyword "from") then
    let _ ← e
    expect (.closes ')')
  else
    let _ ← items (.closes ')') do
      if ← skip (.mark "*") then operation primary else e
  return .other

def parenthesized (primary e : Parse Tree) : Parse Tree := do
  if ← skip (.closes ')') then return .tuple []
  if ← skip (keyword "yield") then return ← yielded primary e
  let first ← item primary e
  if ← sees (.mark ",") then return .tuple (first :: (← moreItems (.closes ')') (item primary e)))
  match first with
  | .starred _ => failure
  | _ =>
    let isComprehension ← clauses primary
    expect (.closes ')')
    return if isComprehension then .other else first

/-- What follows an opening square bracket that starts a list. -/
def listItems (primary e : Parse Tree) : Parse Tree := do
  let close := Token.closes ']'
  if ← skip close then return .list []
  if ← sees (.mark "*") then return .list (← items close (item primary e))
  comprehensionOr primary close (item primary e) .list (← named e)

/-- A key with its value, or all entries of another collection. -/
def entry (primary e : Parse Tree) : Parse (Tree × Tree) := do
  if ← skip (.mark "**") then
    let _ ← operation primary
    return (.other, .other)
  else
    let key ← e
    expect (.mark ":")
    return (key, ← e)

def braced (primary e : Parse Tree) : Parse Tree := do
  let close := Token.closes '}'
  if ← skip close then return .dict []
  if ← sees (.mark "**") then return .dict (← items close (entry primary e))
  if ← sees (.mark "*") then return .set (← items close (item primary e))
  if ← skipNameAnd ":=" then
    let _ ← e
    comprehensionOr primary close (item primary e) .set .other
  else
    let first ← e
    if ← skip (.mark ":") then
      comprehensionOr primary close (entry primary e) .dict (first, ← e)
    else comprehensionOr primary close (item primary e) .set first

/-! ## Arguments and positions -/

/-- What may follow among the arguments of a call. -/
inductive ArgumentStage where
  /-- Arguments of all kinds. -/
  | any
  /-- Arguments with a name, or after stars. -/
  | named
  /-- Arguments with a name, or after two stars. -/
  | mapped
deriving DecidableEq, Repr

/-- An argument of a call, and what may follow it. -/
def argument (e : Parse Tree) (stage : ArgumentStage) : Parse ArgumentStage := do
  if ← skip (.mark "**") then
    let _ ← e
    return .mapped
  if ← skip (.mark "*") then
    if stage == .mapped then failure
    let _ ← e
    return stage
  if ← skipNameAnd "=" then
    let _ ← e
    return if stage == .any then .named else stage
  if stage != .any then failure
  let _ ← named e
  return .any

/-- At most `fuel` arguments, up to the closing parenthesis. -/
def argumentsUpTo (e : Parse Tree) : (fuel : Nat) → ArgumentStage → Parse Unit
  | 0, _ => failure
  | fuel + 1, stage => do
    if ← skip (.closes ')') then return
    let stage ← argument e stage
    if ← skip (.mark ",") then argumentsUpTo e fuel stage else expect (.closes ')')

/-- The first argument of a call, and whether it is a comprehension, after which none follows. -/
def firstArgument (primary e : Parse Tree) : Parse (ArgumentStage × Bool) := do
  let isPlain := !(← sees (.mark "*")) && !(← sees (.mark "**"))
  let stage ← argument e .any
  if isPlain && stage == .any then return (stage, ← clauses primary) else return (stage, false)

/-- The arguments of a call, up to the closing parenthesis, and whether there are any. -/
def arguments (primary e : Parse Tree) : Parse Bool := do
  if ← skip (.closes ')') then return false
  let (stage, isComprehension) ← firstArgument primary e
  if isComprehension then expect (.closes ')')
  else if ← skip (.mark ",") then argumentsUpTo e (← get).length stage
  else expect (.closes ')')
  return true

/-- An end of a range of positions, if there is one. -/
def bound (e : Parse Tree) : Parse Unit := do
  if (← sees (.mark ":")) || (← sees (.mark ",")) || (← sees (.closes ']')) then return
  let _ ← e

def position (e : Parse Tree) : Parse Unit := do
  if ← skip (.mark "*") then
    let _ ← e
  else if ← skipNameAnd ":=" then
    let _ ← e
  else
    if !(← sees (.mark ":")) then
      let _ ← e
    if ← skip (.mark ":") then
      bound e
      if ← skip (.mark ":") then bound e

/-- The positions in square brackets, up to the closing one. -/
def positions (e : Parse Tree) : Parse Unit := do
  position e
  let _ ← moreItems (.closes ']') (position e)

/-! ## Primaries -/

/-- Attributes, calls and positions after `t`, at most `fuel` of them. -/
def trailersUpTo (primary e : Parse Tree) : (fuel : Nat) → Tree → Parse Tree
  | 0, t => return t
  | fuel + 1, t => do
    if ← skip (.mark ".") then
      let _ ← name
      trailersUpTo primary e fuel .place
    else if ← skip (.opens '(') then
      trailersUpTo primary e fuel (t.call (← arguments primary e))
    else if ← skip (.opens '[') then
      positions e
      trailersUpTo primary e fuel .place
    else return t

/-- An expression without operators and trailers. -/
def atom (primary e : Parse Tree) : Parse Tree := do
  match ← get with
  | .word cs :: rest =>
    set rest
    if ["None", "True", "False"].contains (String.ofList cs) then return .word
    else if isName cs then return .name cs
    else failure
  | .numeral n :: rest =>
    set rest
    return .numeral n
  | .string _ _ :: _ => adjacentStrings e
  | .mark m :: rest =>
    if m != "..." then failure
    set rest
    return .word
  | .opens c :: rest =>
    set rest
    if c == '(' then parenthesized primary e
    else if c == '[' then listItems primary e
    else braced primary e
  | _ => failure

/-! ## Functions without a name -/

/-- What may follow among the parameters of a function. -/
inductive ParameterStage where
  /-- Parameters of all kinds; `counted` says that there was one, `defaulted` that the last one had
  a default, and `divided` that the mark `/` has been read. -/
  | any (counted defaulted divided : Bool)
  /-- Parameters after a star; `needed` says that one has to follow. -/
  | starred (needed : Bool)
  /-- No parameter. -/
  | closed
deriving DecidableEq, Repr

/-- A parameter, or a mark among the parameters, and what may follow it. -/
def parameter (e : Parse Tree) : ParameterStage → Parse ParameterStage
  | .closed => failure
  | .any counted defaulted divided => do
    if ← skip (.mark "/") then
      if !counted || divided then failure
      return .any counted defaulted true
    if ← skip (.mark "*") then
      if ← sees (.mark ",") then return .starred true
      let _ ← name
      return .starred false
    if ← skip (.mark "**") then
      let _ ← name
      return .closed
    let _ ← name
    if ← skip (.mark "=") then
      let _ ← e
      return .any true true divided
    if defaulted then failure
    return .any true false divided
  | .starred needed => do
    if ← skip (.mark "**") then
      if needed then failure
      let _ ← name
      return .closed
    let _ ← name
    if ← skip (.mark "=") then
      let _ ← e
    return .starred false

def parametersUpTo (e : Parse Tree) : (fuel : Nat) → ParameterStage → Parse Unit
  | 0, _ => failure
  | fuel + 1, stage => do
    if ← skip (.mark ":") then
      if stage == .starred true then failure
    else
      let stage ← parameter e stage
      if ← skip (.mark ",") then parametersUpTo e fuel stage
      else
        expect (.mark ":")
        if stage == .starred true then failure

/-- The parameters of a function, up to the colon. -/
def parameters (e : Parse Tree) : Parse Unit := do
  parametersUpTo e (← get).length (.any false false false)

/-! ## Expressions -/

def expressionWith (primary e : Parse Tree) : Parse Tree := do
  if ← skip (keyword "lambda") then
    parameters e
    let _ ← e
    return .other
  let t ← disjunction primary
  if ← skip (keyword "if") then
    let _ ← disjunction primary
    expect (keyword "else")
    let _ ← e
    return .other
  return t

/-- The readers of expressions that are nested to a certain depth. -/
structure Level where
  primary : Parse Tree
  expression : Parse Tree

/-- An atom with its trailers, where `inner` reads the expressions inside it. -/
def primaryWith (inner : Level) : Parse Tree := do
  let t ← atom inner.primary inner.expression
  trailersUpTo inner.primary inner.expression (← get).length t

/-- The readers of expressions that are nested at most `depth` deep. -/
def level : (depth : Nat) → Level
  | 0 => ⟨failure, failure⟩
  | depth + 1 =>
    let inner := level depth
    ⟨primaryWith inner, expressionWith (primaryWith inner) inner.expression⟩

/-- At most `fuel` expressions, each after a comma, up to the end; a comma may stand at the end. -/
def seriesUpTo (e : Parse Tree) : (fuel : Nat) → Parse (List Tree)
  | 0 => return []
  | fuel + 1 => do
    expect (.mark ",")
    if (← get).isEmpty then return []
    let t ← e
    if (← get).isEmpty then return [t] else return t :: (← seriesUpTo e fuel)

/-- An expression, or a tuple of expressions without brackets, up to the end. -/
def series (e : Parse Tree) : Parse Tree := do
  let first ← e
  if (← get).isEmpty then return first
  return .tuple (first :: (← seriesUpTo e (← get).length))

end Parse

def Tree.parse? (text : List Char) : Option Tree := do
  let ts ← tokens? text
  (Parse.series (Parse.level (text.length + 1)).expression).run' ts

end SnippetGrader.Constant
