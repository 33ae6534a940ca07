import CursorPaging.Json.Literal

/-!
# Reading JSON

`read?` reads a text that holds one value and blanks around it. Arrays and objects nest at most
127 deep, a repeated key keeps its last value, and escapes of surrogates must come in pairs.
-/

namespace CursorPaging.Json

/-- Whether a character may stand between the parts of a value. -/
def isSpace (c : Char) : Bool := c = ' ' || c = '\n' || c = '\t' || c = '\r'

/-- The text after the blanks at its start. -/
def skipSpace (s : List Char) : List Char := s.dropWhile isSpace

/-- The number written by four hexadecimal digits. -/
def unit? (a b c d : Char) : Option Nat := Text.numeral? 16 [a, b, c, d]

/-- The character that a letter stands for after a backslash. -/
def unescape? (c : Char) : Option Char :=
  if c = '"' ∨ c = '\\' ∨ c = '/' then some c
  else if c = 'n' then some '\n'
  else if c = 'r' then some '\r'
  else if c = 't' then some '\t'
  else if c = 'b' then some (Char.ofNat 8)
  else if c = 'f' then some (Char.ofNat 12)
  else none

/-- Puts a character in front of what was read. -/
def push (c : Char) : Option (List Char × List Char) → Option (List Char × List Char)
  | some (cs, r) => some (c :: cs, r)
  | none => none

/-- The character that a pair of surrogates stands for. -/
def surrogatePair (high low : Nat) : Char :=
  Char.ofNat (0x10000 + (high - 0xD800) * 0x400 + (low - 0xDC00))

/-- The rest of a string, after its opening quote. -/
def readString : List Char → Option (List Char × List Char)
  | [] => none
  | '"' :: s => some ([], s)
  | '\\' :: 'u' :: a :: b :: c :: d :: s =>
    match unit? a b c d with
    | none => none
    | some u =>
      if u < 0xD800 ∨ 0xE000 ≤ u then push (Char.ofNat u) (readString s)
      else if 0xDC00 ≤ u then none
      else
        match s with
        | '\\' :: 'u' :: e :: f :: g :: h :: s' =>
          match unit? e f g h with
          | none => none
          | some v =>
            if 0xDC00 ≤ v ∧ v < 0xE000 then push (surrogatePair u v) (readString s') else none
        | _ => none
  | '\\' :: c :: s =>
    match unescape? c with
    | some e => push e (readString s)
    | none => none
  | c :: s => if c.toNat < 0x20 ∨ c = '\\' then none else push c (readString s)

/-- Reads a word, for the value it stands for. -/
def readWord (word : String) (value : Json) (s : List Char) : Option (Json × List Char) :=
  if s.take word.length = word.toList then some (value, s.drop word.length) else none

/-- A value that is neither an array nor an object. -/
def readLeaf (s : List Char) : Option (Json × List Char) :=
  match skipSpace s with
  | '"' :: r => (readString r).map fun (cs, t) => (.str (String.ofList cs), t)
  | 'n' :: r => readWord "ull" .null r
  | 't' :: r => readWord "rue" (.bool true) r
  | 'f' :: r => readWord "alse" (.bool false) r
  | r => (readNumber r).map fun (n, t) => (.num n, t)

/-- The parts up to a closing bracket, separated by commas; there may be at most the given number
of them. -/
def readParts {α : Type} (part : List Char → Option (α × List Char)) (close : Char) :
    Nat → List Char → Option (List α × List Char)
  | 0, _ => none
  | most + 1, s =>
    match part s with
    | none => none
    | some (a, r) =>
      match skipSpace r with
      | [] => none
      | c :: r' =>
        if c = close then some ([a], r')
        else if c = ',' then (readParts part close most r').map fun (as, t) => (a :: as, t)
        else none

/-- The parts after an opening bracket. -/
def readBlock {α : Type} (part : List Char → Option (α × List Char)) (close : Char) (most : Nat)
    (s : List Char) : Option (List α × List Char) :=
  match skipSpace s with
  | c :: r => if c = close then some ([], r) else readParts part close most s
  | [] => none

/-- A key, a colon and a value. -/
def readField (value : List Char → Option (Json × List Char)) (s : List Char) :
    Option ((String × Json) × List Char) := do
  match skipSpace s with
  | '"' :: r =>
    let (key, r) ← readString r
    match skipSpace r with
    | ':' :: r =>
      let (v, r) ← value r
      return ((String.ofList key, v), r)
    | _ => none
  | _ => none

/-- A value with at most the given number of parts between two brackets, and with room for the
given number of brackets inside one another. -/
def readValue (most : Nat) : Nat → List Char → Option (Json × List Char)
  | 0, s => readLeaf s
  | room + 1, s =>
    match skipSpace s with
    | '[' :: r => (readBlock (readValue most room) ']' most r).map fun (items, t) => (.arr items, t)
    | '{' :: r =>
      (readBlock (readField (readValue most room)) '}' most r).map fun (fields, t) =>
        (.object fields, t)
    | _ => readLeaf s

/-- How many brackets may stand inside one another. -/
def maxDepth : Nat := 127

/-- The value that a text holds, with blanks around it. No part is empty, so a text has at most as
many parts as characters. -/
def read? (s : List Char) : Option Json :=
  match readValue s.length maxDepth s with
  | some (v, rest) => if skipSpace rest = [] then some v else none
  | none => none

/-- The value that a string holds. -/
def ofString? (s : String) : Option Json := read? s.toList

end CursorPaging.Json
