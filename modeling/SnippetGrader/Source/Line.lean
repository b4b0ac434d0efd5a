import SnippetGrader.Source.Symbol

/-!
# Logical lines and blocks

`splitLines` cuts a program into logical lines: continuation lines are joined to the line that
started them, comments and blank lines are dropped, and `;` separates statements that share a
line. A block is the run of lines under a header; `blockLength` measures it and `blockEnd` gives
the position just past it.
-/

namespace SnippetGrader.Source

open Text

/-- One statement of a program: its text, its indentation in columns and the number of the
physical line on which it starts, counted from one. -/
structure Line where
  text : List Char
  indent : Nat
  number : Nat
deriving DecidableEq, Repr

/-- Whether the next physical line belongs to the same statement. -/
def isOpen (buffer : List Char) : Bool :=
  let b := balance buffer
  b.depth > 0 || b.inTriple || buffer.getLast? == some '\\'

/-- Joins a physical line to an unfinished statement: inside a triple literal with its line end,
after a backslash in its place, and inside brackets after a space. -/
def joinLine (buffer next : List Char) : List Char :=
  if (balance buffer).inTriple then buffer ++ '\n' :: next
  else if buffer.getLast? == some '\\' then trimEnd buffer.dropLast ++ ' ' :: trim next
  else buffer ++ ' ' :: trim next

/-- Joins physical lines to a statement until it is complete; gives the statement and the number
of lines joined. -/
def gather (buffer : List Char) : List (List Char) → List Char × Nat
  | [] => (buffer, 0)
  | next :: rest =>
    if isOpen buffer then
      let (text, used) := gather (joinLine buffer next) rest
      (text, used + 1)
    else (buffer, 0)

/-- The logical lines of one complete statement text. A text without a header colon is cut at the
semicolons of its top level. -/
def statements (buffer : List Char) (indent number : Nat) : List Line :=
  let text := trim (stripComment buffer)
  if text.isEmpty then []
  else if (headerColon? text).isNone && text.contains ';' then
    ((cutTopLevel ';' text).filter fun part => !part.isEmpty).map (⟨·, indent, number⟩)
  else [⟨text, indent, number⟩]

/-- The logical lines of physical lines, the first of which has number `number`; the first `skip`
of them are already used up. -/
def splitLinesFrom (number skip : Nat) : List (List Char) → List Line
  | [] => []
  | raw :: rest =>
    if skip > 0 then splitLinesFrom (number + 1) (skip - 1) rest
    else
      let wide := expandTabs 4 raw
      let buffer := trim wide
      if buffer.isEmpty || buffer.head? == some '#' then splitLinesFrom (number + 1) 0 rest
      else
        let indent := (wide.takeWhile (· == ' ')).length
        let (text, used) := gather buffer rest
        statements text indent number ++ splitLinesFrom (number + 1) used rest

/-- The physical lines of a program. -/
def physicalLines (source : List Char) : List (List Char) :=
  cutAt '\n' (replaceAll ['\r', '\n'] ['\n'] source)

/-- The logical lines of a program. -/
def splitLines (source : List Char) : List Line := splitLinesFrom 1 0 (physicalLines source)

/-- Number of lines in the block under a header of indentation `indent` that `rest` follows: the
first line fixes the block's indentation, and the first line indented less ends it. -/
def blockLength (indent : Nat) (rest : List Line) : Nat :=
  match rest with
  | [] => 0
  | first :: _ =>
    if first.indent ≤ indent then 0
    else (rest.takeWhile fun l => first.indent ≤ l.indent).length

/-- Position just past the block under the header at position `header`. A position before the
program gives its start, and one past the program its end. -/
def blockEnd (lines : List Line) (header : Int) : Nat :=
  if header < 0 then 0
  else
    let h := header.toNat
    match lines.drop h with
    | [] => lines.length
    | line :: rest => h + 1 + blockLength line.indent rest

end SnippetGrader.Source
