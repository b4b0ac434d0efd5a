/-!
# Blank characters, trimming and cutting

White space in the wide sense: controls that move the cursor, the four separators `0x1c` to
`0x1f`, and the spaces of all scripts. Texts are lists of characters; trimming drops blanks at
the ends, `words` cuts at runs of blanks, `lines` cuts at every line boundary.
-/

namespace SnippetGrader.Text

/-- White space of any script. -/
def isBlank (c : Char) : Bool :=
  let n := c.toNat
  (9 ≤ n && n ≤ 13) || (28 ≤ n && n ≤ 32) || n == 0x85 || n == 0xa0 || n == 0x1680 ||
    (0x2000 ≤ n && n ≤ 0x200a) || n == 0x2028 || n == 0x2029 || n == 0x202f || n == 0x205f ||
    n == 0x3000

/-- Drops the longest suffix whose characters all satisfy `p`. -/
def dropEndWhile (p : Char → Bool) (text : List Char) : List Char :=
  (text.reverse.dropWhile p).reverse

def trimStart (text : List Char) : List Char := text.dropWhile isBlank

def trimEnd (text : List Char) : List Char := dropEndWhile isBlank text

/-- Drops the blanks at both ends. -/
def trim (text : List Char) : List Char := trimEnd (trimStart text)

/-- Drops the characters that satisfy `p` at both ends. -/
def trimBy (p : Char → Bool) (text : List Char) : List Char := dropEndWhile p (text.dropWhile p)

/-- Cuts a text at every occurrence of one character. -/
def cutAt (sep : Char) : List Char → List (List Char)
  | [] => [[]]
  | c :: rest =>
    if c == sep then [] :: cutAt sep rest
    else
      match cutAt sep rest with
      | [] => [[c]]
      | piece :: more => (c :: piece) :: more

/-- The words of a text after the open word `word`, whose letters are given last first. -/
def wordsAfter (word : List Char) : List Char → List (List Char)
  | [] => if word.isEmpty then [] else [word.reverse]
  | c :: rest =>
    if isBlank c then
      if word.isEmpty then wordsAfter [] rest else word.reverse :: wordsAfter [] rest
    else wordsAfter (c :: word) rest

/-- The maximal runs of characters that are not blank. -/
def words (text : List Char) : List (List Char) := wordsAfter [] text

/-- The words of a text after the open word `word`; once `limit` words are complete, the text
from the next word on is kept in one piece. -/
def wordsUpToAfter (word : List Char) : (limit : Nat) → List Char → List (List Char)
  | _, [] => if word.isEmpty then [] else [word.reverse]
  | limit, c :: rest =>
    if isBlank c then
      if word.isEmpty then wordsUpToAfter [] limit rest
      else word.reverse :: wordsUpToAfter [] (limit - 1) rest
    else if word.isEmpty && limit == 0 then [c :: rest]
    else wordsUpToAfter (c :: word) limit rest

/-- The first `limit` words of a text, then all that stands from the next word on. -/
def wordsUpTo (limit : Nat) (text : List Char) : List (List Char) := wordsUpToAfter [] limit text

/-- Replaces every run of blanks by one space; `inRun` says that a run is open. -/
def squeezeFrom (inRun : Bool) : List Char → List Char
  | [] => []
  | c :: rest =>
    if isBlank c then
      if inRun then squeezeFrom true rest else ' ' :: squeezeFrom true rest
    else c :: squeezeFrom false rest

def squeeze (text : List Char) : List Char := squeezeFrom false text

def isLineEnd (c : Char) : Bool :=
  let n := c.toNat
  (10 ≤ n && n ≤ 13) || (28 ≤ n && n ≤ 30) || n == 0x85 || n == 0x2028 || n == 0x2029

/-- The lines of a text after the open line `line`, whose characters are given last first. -/
def linesAfter (line : List Char) : List Char → List (List Char)
  | [] => if line.isEmpty then [] else [line.reverse]
  | '\r' :: '\n' :: rest => line.reverse :: linesAfter [] rest
  | c :: rest =>
    if isLineEnd c then line.reverse :: linesAfter [] rest else linesAfter (c :: line) rest

/-- The lines of a text, without their ends; no empty line follows the last line end. -/
def lines (text : List Char) : List (List Char) := linesAfter [] text

/-- Writes tabs as spaces up to the next multiple of `width` columns. -/
def expandTabsFrom (width column : Nat) : List Char → List Char
  | [] => []
  | c :: rest =>
    if c == '\t' then
      let pad := if width == 0 then 0 else width - column % width
      List.replicate pad ' ' ++ expandTabsFrom width (column + pad) rest
    else if c == '\n' || c == '\r' then c :: expandTabsFrom width 0 rest
    else c :: expandTabsFrom width (column + 1) rest

/-- Writes tabs as spaces up to the next multiple of `width` columns. -/
def expandTabs (width : Nat) (text : List Char) : List Char := expandTabsFrom width 0 text

end SnippetGrader.Text
