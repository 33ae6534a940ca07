import CursorPaging.Text.Digits
import CursorPaging.Yaml.Place

/-!
# YAML scalars

The ways to write a scalar: plain, between quotes, or as a block of indented lines. Words of plain
and of quoted scalars that stand on two lines are joined by a space, and an empty line between them
keeps its line break; a block keeps its lines, or folds them.
-/

namespace CursorPaging.Yaml

/-- How a scalar is written, as far as it changes what the scalar means. -/
inductive Style where
  | plain
  /-- A block that keeps its lines. -/
  | literal
  /-- Between quotes, or a block that folds its lines. -/
  | other
  deriving DecidableEq

/-! ## Gaps between words -/

/-- What was read since the last word. -/
inductive Gap where
  /-- Blanks on the line of the word. -/
  | spaces (text : List Char)
  /-- Line breaks, the first of which is folded. -/
  | lines (breaks : List Char)
  /-- Line breaks after one that was escaped. -/
  | joined (breaks : List Char)

namespace Gap

/-- No gap. -/
def none : Gap := .spaces []

/-- Whether the gap goes across lines. -/
def crossesLines : Gap → Bool
  | .spaces _ => false
  | _ => true

/-- Whether there is no gap. -/
def isEmpty : Gap → Bool
  | .spaces [] => true
  | _ => false

/-- The gap with one more blank; at the start of a line blanks do not count. -/
def addSpace (c : Char) : Gap → Gap
  | .spaces s => .spaces (s ++ [c])
  | g => g

/-- The gap with one more line break; blanks before it do not count. -/
def addBreak (c : Char) : Gap → Gap
  | .spaces _ => .lines [c]
  | .lines bs => .lines (bs ++ [c])
  | .joined bs => .joined (bs ++ [c])

/-- What a gap leaves in the scalar: a single line feed becomes a space, and of several the first
is dropped. -/
def text : Gap → List Char
  | .spaces s => s
  | .lines ['\n'] => [' ']
  | .lines ('\n' :: bs) => bs
  | .lines bs => bs
  | .joined bs => bs

end Gap

/-! ## Plain scalars -/

/-- Whether a character is a bracket or comma of flow collections. -/
def isFlowMark (c : Char) : Bool := c = ',' || c = '[' || c = ']' || c = '{' || c = '}'

/-- A plain scalar: its text, whether a line ended since its last word, and what follows. -/
structure PlainScalar where
  text : List Char
  crossedLines : Bool
  rest : List Place

/-- Whether a plain scalar ends before the first character of `s`, which is no blank. -/
def plainEnds (flow : Bool) (least : Nat) (gap : Gap) (p : Place) (s : List Place) : Bool :=
  (gap.crossesLines && !flow && p.column < least) ||
    (!gap.isEmpty && p.char = '#') || atAnyMark (p :: s) ||
    (p.char = ':' && wordEnds s) || (flow && isFlowMark p.char)

/-- Reads a plain scalar, inside of flow collections or outside of them, whose lines start at the
given column or after it. -/
def readPlain (flow : Bool) (least : Nat) (read : List Char) (gap : Gap) :
    List Place → Option PlainScalar
  | [] => some ⟨read, gap.crossesLines, []⟩
  | p :: s =>
    if isSpace p.char then
      if gap.crossesLines && p.column < least && p.char = '\t' then none
      else readPlain flow least read (gap.addSpace p.char) s
    else if isBreak p.char then readPlain flow least read (gap.addBreak p.char) s
    else if plainEnds flow least gap p s then some ⟨read, gap.crossesLines, p :: s⟩
    else if flow && p.char = ':' && startsWith s (fun c => isFlowMark c || c = '?') then none
    else readPlain flow least (read ++ gap.text ++ [p.char]) .none s

/-! ## Quoted scalars -/

/-- What a backslash stands before. -/
inductive Escape where
  | char (c : Char)
  /-- The code of a character in so many hexadecimal digits. -/
  | code (digits : Nat)

/-- The meaning of a character after a backslash. -/
def escape? (c : Char) : Option Escape :=
  match c with
  | '0' => some (.char (Char.ofNat 0))
  | 'a' => some (.char (Char.ofNat 7))
  | 'b' => some (.char (Char.ofNat 8))
  | 't' | '\t' => some (.char '\t')
  | 'n' => some (.char '\n')
  | 'v' => some (.char (Char.ofNat 11))
  | 'f' => some (.char (Char.ofNat 12))
  | 'r' => some (.char '\r')
  | 'e' => some (.char (Char.ofNat 27))
  | ' ' | '"' | '/' | '\\' => some (.char c)
  | 'N' => some (.char (Char.ofNat 0x85))
  | '_' => some (.char (Char.ofNat 0xA0))
  | 'L' => some (.char (Char.ofNat 0x2028))
  | 'P' => some (.char (Char.ofNat 0x2029))
  | 'x' => some (.code 2)
  | 'u' => some (.code 4)
  | 'U' => some (.code 8)
  | _ => none

/-- Reads the rest of a scalar between single quotes, in which a quote is written twice. -/
def readSingle (read : List Char) (gap : Gap) : List Place → Option (List Char × List Place)
  | [] => none
  | p :: s =>
    if isSpace p.char then readSingle read (gap.addSpace p.char) s
    else if isBreak p.char then readSingle read (gap.addBreak p.char) s
    else if atAnyMark (p :: s) then none
    else if p.char = '\'' then
      match s with
      | q :: r =>
        if q.char = '\'' then readSingle (read ++ gap.text ++ ['\'']) .none r
        else some (read ++ gap.text, s)
      | [] => some (read ++ gap.text, [])
    else readSingle (read ++ gap.text ++ [p.char]) .none s

/-- What is being read between double quotes. -/
inductive DoubleState where
  | text (gap : Gap)
  | escape
  /-- A code, of which so many digits are missing. -/
  | code (missing value : Nat)

/-- The character with a code, if there is one. -/
def charOfCode? (n : Nat) : Option Char :=
  if n.isValidChar then some (Char.ofNat n) else none

/-- Reads the rest of a scalar between double quotes. -/
def readDouble (read : List Char) (state : DoubleState) :
    List Place → Option (List Char × List Place)
  | [] => none
  | p :: s =>
    match state with
    | .text gap =>
      if isSpace p.char then readDouble read (.text (gap.addSpace p.char)) s
      else if isBreak p.char then readDouble read (.text (gap.addBreak p.char)) s
      else if atAnyMark (p :: s) then none
      else if p.char = '"' then some (read ++ gap.text, s)
      else if p.char = '\\' then readDouble (read ++ gap.text) .escape s
      else readDouble (read ++ gap.text ++ [p.char]) (.text .none) s
    | .escape =>
      if isBreak p.char then readDouble read (.text (.joined [])) s
      else
        match escape? p.char with
        | some (.char c) => readDouble (read ++ [c]) (.text .none) s
        | some (.code digits) => readDouble read (.code digits 0) s
        | none => none
    | .code missing value =>
      match Text.hexDigit? p.char with
      | none => none
      | some d =>
        if missing ≤ 1 then
          match charOfCode? (value * 16 + d) with
          | some c => readDouble (read ++ [c]) (.text .none) s
          | none => none
        else readDouble read (.code (missing - 1) (value * 16 + d)) s

/-! ## Block scalars -/

/-- What a block does with the line breaks at its end. -/
inductive Chomping where
  | strip
  | clip
  | keep
  deriving DecidableEq

/-- The head of a block: what becomes of the line breaks at its end, and by how much its lines are
indented, if that is said. -/
structure BlockHead where
  chomping : Chomping
  indentation : Option Nat

/-- The chomping that a sign asks for. -/
def chomping? (c : Char) : Option Chomping :=
  if c = '+' then some .keep else if c = '-' then some .strip else none

/-- Reads a sign, if there is one. -/
def readChomping : List Place → Option Chomping × List Place
  | [] => (none, [])
  | p :: s =>
    match chomping? p.char with
    | some c => (some c, s)
    | none => (none, p :: s)

/-- Reads a digit, if there is one; zero is refused. -/
def readIndentation? : List Place → Option (Option Nat × List Place)
  | [] => some (none, [])
  | p :: s =>
    match Text.digit? p.char with
    | some 0 => none
    | some n => some (some n, s)
    | none => some (none, p :: s)

/-- Reads the head of a block: a sign and a digit in either order. -/
def readBlockHead? (s : List Place) : Option (BlockHead × List Place) := do
  match readChomping s with
  | (some c, r) =>
    let (indentation, r) ← readIndentation? r
    return (⟨c, indentation⟩, ← restOfLine? r)
  | (none, r) =>
    match ← readIndentation? r with
    | (some n, r) =>
      let (c, r) := readChomping r
      return (⟨c.getD .clip, some n⟩, ← restOfLine? r)
    | (none, r) => return (⟨.clip, none⟩, ← restOfLine? r)

/-- The line breaks before the next line of a block that is not empty. -/
structure BlockGap where
  breaks : List Char
  /-- The greatest column that indentation was read up to. -/
  deepest : Nat
  /-- The column of what follows. -/
  column : Nat
  rest : List Place

/-- Skips indentation and empty lines. Where the column of the lines is not known, all spaces are
indentation; a tab is refused in place of one. -/
def readBlockGap (indent : Option Nat) (breaks : List Char) (deepest column : Nat) :
    List Place → Option BlockGap
  | [] => some ⟨breaks, max deepest column, column, []⟩
  | p :: s =>
    if indent.all (column < ·) && p.char = ' ' then
      readBlockGap indent breaks deepest (column + 1) s
    else if indent.all (column < ·) && p.char = '\t' then none
    else if isBreak p.char then
      readBlockGap indent (breaks ++ [p.char]) (max deepest column) 0 s
    else some ⟨breaks, max deepest column, column, p :: s⟩

/-- What separates a line of a block from the one before: the line break is folded into a space
where neither line starts with a blank, and dropped where empty lines follow it. -/
def blockJoin (folds blankBefore blankAfter : Bool) (lineBreak breaks : List Char) : List Char :=
  if folds && lineBreak == ['\n'] && !blankBefore && !blankAfter then
    if breaks.isEmpty then [' '] else breaks
  else lineBreak ++ breaks

/-- The end of a block: of its last line break and the empty lines after it. -/
def chomp (c : Chomping) (lineBreak breaks : List Char) : List Char :=
  match c with
  | .strip => []
  | .clip => lineBreak
  | .keep => lineBreak ++ breaks

/-- Reads the lines of a block that start in the given column. The fuel is the number of lines that
may be read. -/
def readBlockLines (folds : Bool) (c : Chomping) (indent : Nat) :
    Nat → List Char → Bool → List Char → BlockGap → Option (List Char × List Place)
  | 0, _, _, _, _ => none
  | fuel + 1, read, blankBefore, lineBreak, gap =>
    if gap.column = indent && !gap.rest.isEmpty then
      let blank := startsWith gap.rest isSpace
      let (line, r) := spanAll (fun c => !isBreak c) gap.rest
      let read := read ++ blockJoin folds blankBefore blank lineBreak gap.breaks ++ line
      match readBlockGap (some indent) [] 0 0 (r.drop 1) with
      | some next => readBlockLines folds c indent fuel read blank (chars (r.take 1)) next
      | none => none
    else some (read ++ chomp c lineBreak gap.breaks, gap.rest)

/-- Reads the rest of a block inside a collection whose entries start in the given column, if there
is one. -/
def readBlock (folds : Bool) (outer : Option Nat) (s : List Place) :
    Option (List Char × List Place) := do
  let (head, r) ← readBlockHead? s
  let stated := head.indentation.map (outer.getD 0 + ·)
  let gap ← readBlockGap stated [] 0 0 r
  let least := match outer with
    | some column => column + 1
    | none => 0
  let indent := stated.getD (max gap.deepest (max least 1))
  readBlockLines folds head.chomping indent (r.length + 1) [] false [] gap

end CursorPaging.Yaml
