/-!
# Finding and replacing pieces of text

Positions count characters from the start of the text.
-/

namespace SnippetGrader.Text

/-- The rest of `text` after the piece `front`, if it starts with it. -/
def dropFront? : (front text : List Char) → Option (List Char)
  | [], text => some text
  | _ :: _, [] => none
  | a :: front, c :: text => if a == c then dropFront? front text else none

def startsWith (text front : List Char) : Bool := front.isPrefixOf text

def endsWith (text back : List Char) : Bool := back.reverse.isPrefixOf text.reverse

/-- Position of the first occurrence of `needle`, counted on from `start`. -/
def findFrom (needle : List Char) (start : Nat) : List Char → Option Nat
  | [] => if needle.isEmpty then some start else none
  | c :: rest =>
    if needle.isPrefixOf (c :: rest) then some start else findFrom needle (start + 1) rest

/-- Position of the first occurrence of `needle`. -/
def find? (text needle : List Char) : Option Nat := findFrom needle 0 text

def contains (text needle : List Char) : Bool := (find? text needle).isSome

/-- The text before and after the first occurrence of `needle`. -/
def cutAround? (text needle : List Char) : Option (List Char × List Char) :=
  (find? text needle).map fun i => (text.take i, text.drop (i + needle.length))

/-- Cuts at the occurrences of a non-empty separator, from the left and without overlap, at most
`limit` times. `skip` characters of the last separator are still to be passed over and `piece`
holds the open piece, last character first. -/
def cutAroundFrom (sep : List Char) (limit skip : Nat) (piece : List Char) :
    List Char → List (List Char)
  | [] => [piece.reverse]
  | c :: rest =>
    if skip > 0 then cutAroundFrom sep limit (skip - 1) piece rest
    else if limit > 0 && sep.isPrefixOf (c :: rest) then
      piece.reverse :: cutAroundFrom sep (limit - 1) (sep.length - 1) [] rest
    else cutAroundFrom sep limit 0 (c :: piece) rest

/-- Cuts at the first `limit` occurrences of a non-empty separator. -/
def cutAround (sep : List Char) (limit : Nat) (text : List Char) : List (List Char) :=
  cutAroundFrom sep limit 0 [] text

/-- Number of occurrences of a non-empty piece, without overlap. -/
def count (text needle : List Char) : Nat := (cutAround needle text.length text).length - 1

/-- Puts `new` before each of the first `limit` characters. -/
def interleave (new : List Char) : (limit : Nat) → List Char → List Char
  | 0, text => text
  | _ + 1, [] => new
  | limit + 1, c :: rest => new ++ c :: interleave new limit rest

/-- Replaces the first `limit` occurrences of `old` by `new`; the empty text occurs before each
character and at the end. -/
def replaceUpTo (limit : Nat) (old new text : List Char) : List Char :=
  if old.isEmpty then interleave new limit text
  else new.intercalate (cutAround old limit text)

def replaceAll (old new text : List Char) : List Char := replaceUpTo (text.length + 1) old new text

end SnippetGrader.Text
