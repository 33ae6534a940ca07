import CursorPaging.Text.Digits
import CursorPaging.Text.Utf8

/-!
# Percent encoding

Each part of a URL has a set of characters that it may not hold as such. They are written as the
bytes of their UTF-8 form, each as a percent sign and two hexadecimal digits.
-/

namespace CursorPaging.Url

/-- Controls and everything beyond ASCII. -/
def controlSet (c : Char) : Bool := c.toNat < 0x20 || 0x7E < c.toNat

/-- Characters encoded in a fragment. -/
def fragmentSet (c : Char) : Bool :=
  controlSet c || c = ' ' || c = '"' || c = '<' || c = '>' || c = Char.ofNat 0x60

/-- Characters encoded in a path. -/
def pathSet (c : Char) : Bool := fragmentSet c || c = '#' || c = '?' || c = '{' || c = '}'

/-- Characters encoded in a user name or password. -/
def userinfoSet (c : Char) : Bool :=
  pathSet c || c = '/' || c = ':' || c = ';' || c = '=' || c = '@' || c = '[' || c = '\\' ||
    c = ']' || c = '^' || c = '|'

/-- Characters encoded in a query. -/
def querySet (c : Char) : Bool :=
  controlSet c || c = ' ' || c = '"' || c = '#' || c = '<' || c = '>'

/-- Characters encoded in the query of a special URL. -/
def specialQuerySet (c : Char) : Bool := querySet c || c = '\''

/-- A hexadecimal digit in upper case. -/
def upperHex (n : Nat) : Char := (Nat.digitChar (n % 16)).toUpper

/-- A byte as a percent sign and two digits. -/
def escapeByte (b : UInt8) : List Char := ['%', upperHex (b.toNat / 16), upperHex b.toNat]

/-- A character, encoded if it is in the set. -/
def escapeChar (set : Char → Bool) (c : Char) : List Char :=
  if set c then (Text.Utf8.encodeChar c).flatMap escapeByte else [c]

/-- A text with the characters of the set encoded. -/
def escape (set : Char → Bool) (s : List Char) : List Char := s.flatMap (escapeChar set)

/-- The bytes of a text, with each percent sign and two hexadecimal digits read as a byte. -/
def unescape : List Char → List UInt8
  | [] => []
  | '%' :: a :: b :: s =>
    match Text.numeral? 16 [a, b] with
    | some n => UInt8.ofNat n :: unescape s
    | none => Text.Utf8.encodeChar '%' ++ unescape (a :: b :: s)
  | c :: s => Text.Utf8.encodeChar c ++ unescape s

end CursorPaging.Url
