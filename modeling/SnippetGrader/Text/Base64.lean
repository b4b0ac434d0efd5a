import SnippetGrader.Text.Search

/-!
# Bytes as text in base 64

`encode` writes three bytes as four characters. `decode` reads such text back: characters outside
the alphabet are passed over, and reading ends at the marks that complete a group.
-/

namespace SnippetGrader.Text.Base64

def digit (n : Nat) : Char :=
  if n < 26 then Char.ofNat ('A'.toNat + n)
  else if n < 52 then Char.ofNat ('a'.toNat + (n - 26))
  else if n < 62 then Char.ofNat ('0'.toNat + (n - 52))
  else if n == 62 then '+'
  else '/'

def value? (c : Char) : Option Nat :=
  if 'A' ≤ c && c ≤ 'Z' then some (c.toNat - 'A'.toNat)
  else if 'a' ≤ c && c ≤ 'z' then some (c.toNat - 'a'.toNat + 26)
  else if '0' ≤ c && c ≤ '9' then some (c.toNat - '0'.toNat + 52)
  else if c == '+' then some 62
  else if c == '/' then some 63
  else none

/-- Writes bytes in base 64; the last group is filled up with marks. -/
def encode : List Nat → List Char
  | a :: b :: c :: rest =>
    digit (a / 4) :: digit (a % 4 * 16 + b / 16) :: digit (b % 16 * 4 + c / 64) ::
      digit (c % 64) :: encode rest
  | [a, b] => [digit (a / 4), digit (a % 4 * 16 + b / 16), digit (b % 16 * 4), '=']
  | [a] => [digit (a / 4), digit (a % 4 * 16), '=', '=']
  | [] => []

/-- Why a text cannot be read. -/
inductive DecodeError where
  /-- The last group has one digit; the text has `digits` digits. -/
  | lonelyDigit (digits : Nat)
  /-- Marks are missing at the end. -/
  | padding
deriving DecidableEq, Repr

/-- The state of reading: the bytes so far, last first, the number of digits of the open group,
the bits that are left of its last digit, and the number of marks since then. -/
structure Reading where
  bytes : List Nat := []
  digits : Nat := 0
  left : Nat := 0
  marks : Nat := 0
deriving DecidableEq, Repr

def Reading.push (r : Reading) (v : Nat) : Reading :=
  match r.digits with
  | 0 => { r with digits := 1, left := v, marks := 0 }
  | 1 => { bytes := (r.left * 4 + v / 16) :: r.bytes, digits := 2, left := v % 16 }
  | 2 => { bytes := (r.left * 16 + v / 4) :: r.bytes, digits := 3, left := v % 4 }
  | _ => { bytes := (r.left * 64 + v) :: r.bytes }

def decodeFrom (r : Reading) : List Char → Except DecodeError (List Nat)
  | [] =>
    if r.digits == 0 then .ok r.bytes.reverse
    else if r.digits == 1 then .error (.lonelyDigit (r.bytes.length / 3 * 4 + 1))
    else .error .padding
  | c :: rest =>
    if c == '=' then
      if r.digits ≥ 2 then
        if r.digits + r.marks + 1 ≥ 4 then .ok r.bytes.reverse
        else decodeFrom { r with marks := r.marks + 1 } rest
      else decodeFrom r rest
    else
      match value? c with
      | some v => decodeFrom (r.push v) rest
      | none => decodeFrom r rest

def decode (text : List Char) : Except DecodeError (List Nat) := decodeFrom {} text

end SnippetGrader.Text.Base64
