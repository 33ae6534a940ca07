/-!
# Places of a YAML text

A YAML text is read as the list of its characters with their places: how far from the start, on
which line and in which column each stands. `places` also makes every line break one character, a
line feed for all of them but the two separators of Unicode.
-/

namespace CursorPaging.Yaml

/-- A character of a text and where it stands. -/
structure Place where
  char : Char
  index : Nat
  line : Nat
  column : Nat
  deriving DecidableEq

/-- The line and paragraph separators, which stay what they are when line breaks are read. -/
def isSeparator (c : Char) : Bool := c.toNat == 0x2028 || c.toNat == 0x2029

/-- The characters other than separators that end a line. -/
def endsLine (c : Char) : Bool := c = '\r' || c = '\n' || c.toNat == 0x85

/-- Places the characters of a text that go on at the given place. -/
def placesFrom (index line column : Nat) : List Char → List Place
  | [] => []
  | '\r' :: '\n' :: s => ⟨'\n', index, line, column⟩ :: placesFrom (index + 2) (line + 1) 0 s
  | c :: s =>
    if endsLine c then ⟨'\n', index, line, column⟩ :: placesFrom (index + 1) (line + 1) 0 s
    else if isSeparator c then ⟨c, index, line, column⟩ :: placesFrom (index + 1) (line + 1) 0 s
    else ⟨c, index, line, column⟩ :: placesFrom (index + 1) line (column + 1) s

/-- The places of a text. -/
def places (s : List Char) : List Place := placesFrom 0 0 0 s

/-- Whether a character may stand in a text at all: no control characters but tab and line
breaks. -/
def isAllowed (c : Char) : Bool :=
  let n := c.toNat
  c = '\t' || c = '\n' || c = '\r' || (0x20 ≤ n && n ≤ 0x7E) || n == 0x85 ||
    (0xA0 ≤ n && n ≤ 0xFFFD) || 0x10000 ≤ n

/-- Whether a character is a line break, once line breaks are made one character. -/
def isBreak (c : Char) : Bool := c = '\n' || isSeparator c

/-- Whether a character is a space or a tab. -/
def isSpace (c : Char) : Bool := c = ' ' || c = '\t'

/-- Whether a character separates words. -/
def isGap (c : Char) : Bool := isSpace c || isBreak c

/-- Whether a character may stand in the name of an anchor, of a tag or of a directive. -/
def isNameChar (c : Char) : Bool :=
  ('a' ≤ c && c ≤ 'z') || ('A' ≤ c && c ≤ 'Z') || ('0' ≤ c && c ≤ '9') || c = '_' || c = '-'

/-- The mark that begins a document is `---`. -/
def startMark : List Char := ['-', '-', '-']

/-- The mark that ends a document is `...`. -/
def endMark : List Char := ['.', '.', '.']

/-- The characters of places. -/
def chars (s : List Place) : List Char := s.map Place.char

/-- The character that comes next. -/
def peek (s : List Place) : Option Char := s.head?.map Place.char

/-- Whether the text goes on with one of some characters. -/
def startsWith (s : List Place) (p : Char → Bool) : Bool := (peek s).any p

/-- Whether a word ends here, by a blank, a line break or the end of the text. -/
def wordEnds (s : List Place) : Bool := (peek s).all isGap

/-- Whether a line ends here, or the text. -/
def lineEnds (s : List Place) : Bool := (peek s).all isBreak

/-- Whether a mark that begins or ends a document stands here, at the start of a line. -/
def atMark (mark : List Char) : List Place → Bool
  | [] => false
  | p :: s =>
    p.column == 0 && chars ((p :: s).take 3) == mark && wordEnds ((p :: s).drop 3)

/-- Whether a document begins or ends here. -/
def atAnyMark (s : List Place) : Bool := atMark startMark s || atMark endMark s

/-- The text after the characters of a class at its start. -/
def skipAll (p : Char → Bool) (s : List Place) : List Place := s.dropWhile fun q => p q.char

/-- The characters of a class at the start of a text, and what follows. -/
def spanAll (p : Char → Bool) (s : List Place) : List Char × List Place :=
  (chars (s.takeWhile fun q => p q.char), skipAll p s)

/-- The text after a comment, if there is one, up to the end of its line. -/
def skipComment (s : List Place) : List Place :=
  if peek s = some '#' then skipAll (fun c => !isBreak c) s else s

/-- The text after the blanks and the comment that end a line, and after the line break; nothing
else may stand there. -/
def restOfLine? (s : List Place) : Option (List Place) :=
  let r := skipComment (skipAll isSpace s)
  if lineEnds r then some (r.drop 1) else none

end CursorPaging.Yaml
