import SnippetGrader.Text.Letter
import SnippetGrader.Text.Blank
import SnippetGrader.Text.Search

/-!
# Names and keywords

A name starts with an ASCII letter or an underscore and goes on with word characters of any
script. A keyword phrase is one or more words with blanks between them; it counts where it stands
alone, that is, with no word character or point before it and no word character after it.
-/

namespace SnippetGrader.Source

open Text

/-- The name at the start of a text and what follows it; no name is the empty text. -/
def splitName (text : List Char) : List Char × List Char :=
  match text with
  | c :: _ => if isNameStart c then text.span isWord else ([], text)
  | [] => ([], [])

/-- Whether a text is one name and nothing else. -/
def isName (text : List Char) : Bool :=
  match text with
  | c :: rest => isNameStart c && rest.all isWord
  | [] => false

/-- The name at the start of a text, or the empty text. -/
def firstName (text : List Char) : String := String.ofList (splitName text).1

def startsWithWord (text : List Char) (word : String) : Bool :=
  match dropFront? word.toList text with
  | some (c :: _) => !isWord c
  | some [] => true
  | none => false

/-- What follows the words of a phrase, between which any blanks may stand. -/
def dropPhrase? : (phrase : List String) → List Char → Option (List Char)
  | [], text => some text
  | [word], text => dropFront? word.toList text
  | word :: next, text =>
    match dropFront? word.toList text with
    | some (c :: rest) => if isBlank c then dropPhrase? next (trimStart rest) else none
    | _ => none

end SnippetGrader.Source
