import SnippetGrader.Source.Name

/-!
# Forms of statement heads and small phrases

Recognisers for the fixed shapes in which the language writes definitions, classes, imports,
raised errors, keyword arguments and annotated targets. Each gives the parts of the text, or
`none` if the text has another shape.
-/

namespace SnippetGrader.Source

open Text

def dropBlanks? : List Char → Option (List Char)
  | c :: rest => if isBlank c then some (trimStart rest) else none
  | [] => none

/-- What follows a keyword and the blanks after it. -/
def dropKeyword? (word : String) (text : List Char) : Option (List Char) :=
  (dropFront? word.toList text).bind dropBlanks?

/-- A name at the start of a text and what follows it. -/
def name? (text : List Char) : Option (List Char × List Char) :=
  let (name, rest) := splitName text
  if name.isEmpty then none else some (name, rest)

/-- Cuts a text at its last closing parenthesis after which `tail` reads the rest. The text before
it, which may hold only characters that satisfy `within`, is collected in `before`. -/
def cutAtLastClose? {α : Type} (within : Char → Bool) (tail : List Char → Option α)
    (before : List Char) : List Char → Option (List Char × α)
  | [] => none
  | c :: rest =>
    match if within c then cutAtLastClose? within tail (c :: before) rest else none with
    | some found => some found
    | none => if c == ')' then (tail rest).map (before.reverse, ·) else none

/-- What follows the colon of a function head, after an optional result annotation. -/
def afterSignature? (text : List Char) : Option (List Char) :=
  match trimStart text with
  | ':' :: rest => some rest
  | '-' :: '>' :: rest =>
    match rest.dropWhile (· != ':') with
    | _ :: body => some body
    | [] => none
  | _ => none

/-- The head of a function definition. -/
structure DefinitionHead where
  name : List Char
  params : List Char
  inline : List Char
deriving DecidableEq, Repr

/-- Reads `def name(params) -> annotation: inline`. -/
def definitionHead? (text : List Char) : Option DefinitionHead := do
  let (name, rest) ← name? (← dropKeyword? "def" text)
  match trimStart rest with
  | '(' :: body =>
    let (params, inline) ← cutAtLastClose? (fun _ => true) afterSignature? [] body
    some ⟨name, params, inline⟩
  | _ => none

/-- Reads the parameters of `def __init__(params):` at the start of a line. -/
def initParams? (text : List Char) : Option (List Char) := do
  let rest ← dropFront? "__init__".toList (← dropKeyword? "def" text)
  match trimStart rest with
  | '(' :: body =>
    let tail := fun after => if (trimStart after).head? == some ':' then some () else none
    (cutAtLastClose? (· != '\n') tail [] body).map (·.1)
  | _ => none

/-- The head of a class definition. -/
structure ClassHead where
  name : List Char
  parent : Option (List Char)
  inline : List Char
deriving DecidableEq, Repr

/-- Reads `class name(parent): inline`, where the parenthesis may be missing. -/
def classHead? (text : List Char) : Option ClassHead := do
  let (name, rest) ← name? (← dropKeyword? "class" text)
  let close := fun (parent : Option (List Char)) (after : List Char) =>
    match trimStart after with
    | ':' :: inline => some ⟨name, parent, inline⟩
    | _ => none
  match trimStart rest with
  | '(' :: body =>
    match body.dropWhile (· != ')') with
    | _ :: after => close (some (body.takeWhile (· != ')'))) after
    | [] => none
  | after => close none after

/-- Reads the name of a field that a line `self.name = …` or `self.name: type = …` sets. -/
def selfField? (text : List Char) : Option (List Char) := do
  let (name, rest) ← name? (← dropFront? "self.".toList text)
  let rest := match trimStart rest with
    | ':' :: annotation => annotation.dropWhile (· != '=')
    | other => other
  match rest with
  | '=' :: '=' :: _ => none
  | '=' :: _ => some name
  | _ => none

def fromImport? (text : List Char) : Option (List Char × List Char) := do
  let rest ← dropKeyword? "from" text
  let (source, rest) := rest.span fun c => isWord c || c == '.'
  if source.isEmpty then none
  else
    let names ← dropKeyword? "import" (← dropBlanks? rest)
    some (source, names)

def raisedCall? (text : List Char) : Option (List Char × Option (List Char)) := do
  let (kind, rest) ← name? text
  match trimStart rest with
  | [] => some (kind, none)
  | '(' :: inner => if inner.getLast? == some ')' then some (kind, some inner.dropLast) else none
  | _ => none

/-- Reads `name = value`, as a call writes a keyword argument. -/
def keywordArgument? (text : List Char) : Option (List Char × List Char) := do
  let (name, rest) ← name? text
  match trimStart rest with
  | '=' :: '=' :: _ => none
  | '=' :: value => some (name, value)
  | _ => none

def annotatedName? (text : List Char) : Option (List Char) := do
  let (name, rest) ← name? text
  match trimStart rest with
  | ':' :: annotation => if annotation.isEmpty || annotation.contains '=' then none else some name
  | _ => none

/-- Whether a text may be a further target of a chained assignment: it starts like a name and
holds only word characters, points, square brackets, commas and blanks. -/
def isChainTarget (text : List Char) : Bool :=
  match text with
  | [] => false
  | c :: rest =>
    isNameStart c &&
      rest.all fun c => isWord c || c == '.' || c == '[' || c == ']' || c == ',' || isBlank c

/-- The text before the first ` as ` and the text after it, which is empty if there is none. -/
def splitAlias (text : List Char) : List Char × List Char :=
  match cutAround? text " as ".toList with
  | some parts => parts
  | none => (text, [])

end SnippetGrader.Source
