import SnippetGrader.Text.Blank
import SnippetGrader.Text.CharacterName.Aliases
import SnippetGrader.Text.CharacterName.AncientScripts
import SnippetGrader.Text.CharacterName.EastAsia
import SnippetGrader.Text.CharacterName.FirstScripts
import SnippetGrader.Text.CharacterName.FurtherScripts
import SnippetGrader.Text.CharacterName.Notation
import SnippetGrader.Text.CharacterName.Pictures
import SnippetGrader.Text.CharacterName.Signs
import SnippetGrader.Text.CharacterName.Symbols

/-!
# Characters by name

`characterNamed?` finds the character with a given name. Most names stand in tables. A table is a
list of entries with semicolons, and line ends, between them. An entry `@n` says that the next name belongs to the
code point `n`; the names after it belong to the code points that follow. Any other entry is a
name: its first letter says how many words it shares with the name before it, `a` none, `b` one
and so on, and its further words follow. The names of syllables and of ideographs are made up by a
rule.
-/

namespace SnippetGrader.Text.CharacterName

def tables : List String :=
  [firstScripts, furtherScripts, symbols, eastAsia, ancientScripts, signs, notations, pictures,
   aliases]

/-- A place in a table: the code point of the next name, the words of the last one, and the code
point of the name that is looked for, if it was met. -/
structure Cursor where
  code : Nat := 0
  words : List (List Char) := []
  found : Option Nat := none
deriving DecidableEq, Repr

def decimal (digits : List Char) : Nat :=
  digits.foldl (fun n c => 10 * n + (c.toNat - '0'.toNat)) 0

/-- Reads an entry of a table, where the name with these words is looked for. -/
def Cursor.read (name : List (List Char)) (cursor : Cursor) (entry : List Char) : Cursor :=
  match entry with
  | [] => cursor
  | '@' :: digits => { cursor with code := decimal digits }
  | shared :: rest =>
    let words := cursor.words.take (shared.toNat - 'a'.toNat) ++ Text.words rest
    { code := cursor.code + 1
      words
      found := if words == name then some cursor.code else cursor.found }

/-- The code point of the name with these words in a table. -/
def inTable? (name : List (List Char)) (table : String) : Option Nat :=
  (((cutAt ';' table.toList).map trim).foldl (Cursor.read name) {}).found

/-! ## Names with a number -/

/-- The value of a hexadecimal digit in capital letters. -/
def hexValue? (c : Char) : Option Nat :=
  if '0' ≤ c && c ≤ '9' then some (c.toNat - '0'.toNat)
  else if 'A' ≤ c && c ≤ 'F' then some (c.toNat - 'A'.toNat + 10)
  else none

/-- The number that hexadecimal digits in capital letters write. -/
def hexadecimal? (digits : List Char) : Option Nat :=
  digits.foldlM (fun n c => (hexValue? c).map fun d => 16 * n + d) 0

/-- The characters whose names are some words and then their code point: the words, and the closed
intervals of their code points. -/
def numbered : List (String × List (Nat × Nat)) :=
  [("CJK COMPATIBILITY IDEOGRAPH-", [(0xf900, 0xfa6d), (0xfa70, 0xfad9), (0x2f800, 0x2fa1d)]),
   ("KHITAN SMALL SCRIPT CHARACTER-", [(0x18b00, 0x18cd5)]),
   ("NUSHU CHARACTER-", [(0x1b170, 0x1b2fb)])]

/-- The code points of the unified ideographs. -/
def ideographs : List (Nat × Nat) :=
  [(0x3400, 0x4dbf), (0x4e00, 0x9fff), (0x20000, 0x2a6df), (0x2a700, 0x2b738), (0x2b740, 0x2b81d),
   (0x2b820, 0x2cea1), (0x2ceb0, 0x2ebe0), (0x30000, 0x3134a)]

/-- The code point that `digits` write, if it lies in one of some closed intervals. Its least
number of digits is four, and one more than needed is taken only if `loose`. -/
def codeIn? (loose : Bool) (ranges : List (Nat × Nat)) (digits : List Char) : Option Nat := do
  let n ← hexadecimal? digits
  let needed := if n < 0x10000 then 4 else 5
  if ranges.any (fun r => r.1 ≤ n && n ≤ r.2) &&
      (digits.length == needed || (loose && digits.length == 5)) then
    some n
  else none

def inNumbered? (name : List Char) : Option Nat :=
  numbered.findSome? fun (front, ranges) =>
    if front.toList.isPrefixOf name then codeIn? false ranges (name.drop front.length) else none

/-! ## Syllables -/

/-- The consonants that a syllable starts with. -/
def leadingSounds : List String :=
  ["G", "GG", "N", "D", "DD", "R", "M", "B", "BB", "S", "SS", "", "J", "JJ", "C", "K", "T", "P",
   "H"]

def vowelSounds : List String :=
  ["A", "AE", "YA", "YAE", "EO", "E", "YEO", "YE", "O", "WA", "WAE", "OE", "YO", "U", "WEO", "WE",
   "WI", "YU", "EU", "YI", "I"]

/-- The consonants that a syllable ends with. -/
def trailingSounds : List String :=
  ["", "G", "GG", "GS", "N", "NJ", "NH", "D", "L", "LG", "LM", "LB", "LS", "LT", "LP", "LH", "M",
   "B", "BS", "S", "SS", "NG", "J", "C", "K", "T", "P", "H"]

/-- The longest of some sounds that a text starts with: its number and what follows it. -/
def sound? (sounds : List String) (text : List Char) : Option (Nat × List Char) :=
  let fitting := sounds.zipIdx.filter fun s => s.1.toList.isPrefixOf text
  let longest := fitting.foldl
    (fun best s => if best.any fun b => s.1.length ≤ b.1.length then best else some s) none
  longest.map fun s => (s.2, text.drop s.1.length)

/-- The code point of the syllable with these sounds. -/
def syllable? (text : List Char) : Option Nat := do
  let (l, text) ← sound? leadingSounds text
  let (v, text) ← sound? vowelSounds text
  let (t, text) ← sound? trailingSounds text
  if text.isEmpty then some (0xac00 + (l * 21 + v) * 28 + t) else none

/-- The code point of the character with a given name. The case of letters counts only in the
names of syllables and of unified ideographs. -/
def codeNamed? (name : List Char) : Option Nat :=
  if "HANGUL SYLLABLE ".toList.isPrefixOf name then syllable? (name.drop 16)
  else if "CJK UNIFIED IDEOGRAPH-".toList.isPrefixOf name then codeIn? true ideographs (name.drop 22)
  else
    let name := name.map Char.toUpper
    inNumbered? name <|> tables.findSome? (inTable? (cutAt ' ' name))

def characterNamed? (name : List Char) : Option Char := (codeNamed? name).map Char.ofNat

end SnippetGrader.Text.CharacterName
