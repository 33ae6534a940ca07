import CursorPaging.Text.Utf8
import CursorPaging.Yaml.Scalar

/-!
# YAML tokens

A text is cut into tokens. Outside of flow collections indentation opens and closes collections,
and a scalar turns out to be the key of a mapping only when the colon after it is read: `Scanner`
holds back the tokens from the first scalar that may still become one. `tokensOf` gives the tokens
of a text in order, up to the first place where it breaks the rules.
-/

namespace CursorPaging.Yaml

/-- The tag of a node as it is written. -/
inductive TagText where
  /-- A handle that a directive declares, and a suffix. -/
  | short (handle suffix : String)
  /-- The whole tag. -/
  | whole (tag : String)
  deriving DecidableEq

/-- A token. -/
inductive Token where
  | version (major minor : Nat)
  /-- A directive that declares the handle of tags. -/
  | handle (handle start : String)
  | documentStart
  | documentEnd
  | blockSequenceStart
  | blockMappingStart
  | blockEnd
  | flowSequenceStart
  | flowSequenceEnd
  | flowMappingStart
  | flowMappingEnd
  | blockEntry
  | flowEntry
  | key
  | value
  | alias (name : String)
  | anchor (name : String)
  | tag (tag : TagText)
  | scalar (style : Style) (text : String)
  /-- From here on the text breaks the rules. -/
  | broken
  deriving DecidableEq

/-! ## Directives, anchors and tags -/

/-- A number of a version: one to nine digits. -/
def readVersionNumber? (s : List Place) : Option (Nat × List Place) :=
  let (digits, r) := spanAll Text.isDigit s
  if digits.length ≤ 9 then (Text.digitsValue? digits).map fun n => (n, r) else none

/-- Whether a character may stand in a tag; some only between angle brackets. -/
def isTagChar (verbatim : Bool) (c : Char) : Bool :=
  isNameChar c || ";/?:@&=+$.%!~*'()".toList.contains c ||
    (verbatim && (c = ',' || c = '[' || c = ']'))

/-- The bytes of a tag, in which a percent sign stands before two hexadecimal digits. -/
def tagBytes? : List Char → Option (List UInt8)
  | [] => some []
  | '%' :: a :: b :: s =>
    match Text.numeral? 16 [a, b], tagBytes? s with
    | some n, some r => some (n.toUInt8 :: r)
    | _, _ => none
  | '%' :: _ => none
  | c :: s => (tagBytes? s).map ((Text.Utf8.encode [c]) ++ ·)

/-- The characters of a tag, which follow those read with its handle. -/
def readTagText? (verbatim : Bool) (start : List Char) (s : List Place) :
    Option (String × List Place) := do
  let (text, r) := spanAll (isTagChar verbatim) s
  if start.isEmpty && text.isEmpty then none
  else
    let cs ← Text.Utf8.decode? (← tagBytes? text)
    return (String.ofList (start.drop 1 ++ cs), r)

/-- A handle: an exclamation mark, and a name that may be closed by another one. -/
def readHandle? : List Place → Option (List Char × List Place)
  | [] => none
  | p :: s =>
    if p.char = '!' then
      let (name, r) := spanAll isNameChar s
      if peek r = some '!' then some ('!' :: name ++ ['!'], r.drop 1) else some ('!' :: name, r)
    else none

/-- A tag, after which a blank is due; in flow collections a comma will do. -/
def readTag? (flow : Bool) (s : List Place) : Option (TagText × List Place) := do
  let (tag, r) ←
    if peek (s.drop 1) = some '<' then do
      let (text, r) ← readTagText? true [] (s.drop 2)
      if peek r = some '>' then some (TagText.whole text, r.drop 1) else none
    else do
      let (handle, r) ← readHandle? s
      if 1 < handle.length && handle.getLast? = some '!' then do
        let (suffix, r) ← readTagText? false [] r
        some (TagText.short (String.ofList handle) suffix, r)
      else do
        let (suffix, r) ← readTagText? false handle r
        some (if suffix = "" then .whole "!" else .short "!" suffix, r)
  if wordEnds r || (flow && peek r = some ',') then some (tag, r) else none

/-- The name of an anchor, and what follows it. -/
def readAnchorName? (s : List Place) : Option (String × List Place) :=
  let (name, r) := spanAll isNameChar s
  if !name.isEmpty && (wordEnds r || startsWith r "?:,]\x7d%@`".toList.contains) then
    some (String.ofList name, r)
  else none

/-- A directive, after its percent sign: the version of the language, or the handle of tags. -/
def readDirective? (s : List Place) : Option (Token × List Place) := do
  let (name, r) := spanAll isNameChar s
  if !wordEnds r then none
  else if name = "YAML".toList then
    let (major, r) ← readVersionNumber? (skipAll isSpace r)
    if peek r ≠ some '.' then none
    else
      let (minor, r) ← readVersionNumber? (r.drop 1)
      return (.version major minor, ← restOfLine? r)
  else if name = "TAG".toList then
    let (handle, r) ← readHandle? (skipAll isSpace r)
    if !(handle = ['!'] || (1 < handle.length && handle.getLast? = some '!')) then none
    else if !startsWith r isSpace then none
    else
      let (start, r) ← readTagText? true [] (skipAll isSpace r)
      if wordEnds r then
        return (.handle (String.ofList handle) start, ← restOfLine? r)
      else none
  else none

/-! ## The scanner -/

/-- A token that may turn out to be a key. -/
structure Candidate where
  /-- How many of the tokens held back stand before it. -/
  position : Nat
  /-- Whether the indentation leaves nothing else it could be. -/
  required : Bool
  place : Place

/-- What is known between two tokens. -/
structure Scanner where
  rest : List Place
  /-- The tokens held back. -/
  held : List Token
  /-- The columns of the open block collections, the innermost first. -/
  margins : List Nat
  /-- The token that may be a key, in the innermost flow collection, in those around it and last
  outside of them. -/
  candidates : List (Option Candidate)
  /-- Whether a key may stand here. -/
  keyAllowed : Bool

namespace Scanner

/-- The scanner at the start of a text. -/
def start (s : List Place) : Scanner := ⟨s, [], [], [none], true⟩

/-- Whether this is inside of a flow collection. -/
def inFlow (s : Scanner) : Bool := 1 < s.candidates.length

/-- The least column at which the text belongs to the innermost block collection. -/
def leastColumn (s : Scanner) : Nat :=
  match s.margins with
  | [] => 0
  | column :: _ => column + 1

/-- Gives out a token. -/
def emit (t : Token) (s : Scanner) : Scanner := { s with held := s.held ++ [t] }

/-- Gives out a token in front of one held back. -/
def emitAt (position : Nat) (t : Token) (s : Scanner) : Scanner :=
  { s with held := s.held.take position ++ t :: s.held.drop position }

/-- Goes on after some characters. -/
def goTo (rest : List Place) (s : Scanner) : Scanner := { s with rest }

/-- Says whether a key may stand here. -/
def allowKey (allowed : Bool) (s : Scanner) : Scanner := { s with keyAllowed := allowed }

/-- The candidate of the innermost flow collection. -/
def candidate (s : Scanner) : Option Candidate := s.candidates.head?.join

/-- Puts another candidate, or none, in the place of the innermost one. -/
def setCandidate (c : Option Candidate) (s : Scanner) : Scanner :=
  { s with candidates := c :: s.candidates.drop 1 }

/-- Gives up the innermost candidate, unless it has to be a key. -/
def dropCandidate (s : Scanner) : Option Scanner :=
  if s.candidate.any Candidate.required then none else some (s.setCandidate none)

/-- Takes the token that comes next for a candidate, where a key may stand. -/
def addCandidate (p : Place) (s : Scanner) : Option Scanner :=
  if s.keyAllowed then
    (s.dropCandidate).map
      (setCandidate (some ⟨s.held.length, !s.inFlow && s.margins.head? = some p.column, p⟩))
  else some s

/-- How many characters a key may have, with the blanks before its colon. -/
def keyLimit : Nat := 1024

/-- Whether a candidate is too far back to be a key here. -/
def Candidate.isStale (here : Place) (c : Candidate) : Bool :=
  c.place.line < here.line || c.place.index + keyLimit < here.index

/-- Gives up the candidates that are too far back, unless one has to be a key. -/
def dropStale (s : Scanner) : Option Scanner :=
  match s.rest with
  | [] => some s
  | here :: _ =>
    let stale (c : Option Candidate) : Bool := c.any (Candidate.isStale here)
    if s.candidates.any fun c => stale c && c.any Candidate.required then none
    else some { s with candidates := s.candidates.map fun c => if stale c then none else c }

/-- Closes the block collections that start to the right of a column. -/
def closeDeeper (column : Nat) (s : Scanner) : Scanner :=
  if s.inFlow then s
  else
    let closed := s.margins.takeWhile (column < ·)
    { s with
      held := s.held ++ closed.map fun _ => .blockEnd
      margins := s.margins.dropWhile (column < ·) }

/-- Closes all block collections. -/
def closeAll (s : Scanner) : Scanner :=
  if s.inFlow then s
  else { s with held := s.held ++ s.margins.map fun _ => .blockEnd, margins := [] }

/-- Opens a block collection in a column, in front of a token held back, unless the innermost one
starts there. -/
def openBlock (column position : Nat) (t : Token) (s : Scanner) : Scanner :=
  if !s.inFlow && s.leastColumn ≤ column then
    { s.emitAt position t with margins := column :: s.margins }
  else s

/-- Skips blanks, comments and line breaks. A tab counts as a blank only where no key may stand;
outside of flow collections a key may stand on each new line. -/
def skipGap (flow keyAllowed comment : Bool) : List Place → Bool × List Place
  | [] => (keyAllowed, [])
  | p :: s =>
    if isBreak p.char then skipGap flow (keyAllowed || !flow) false s
    else if comment then skipGap flow keyAllowed true s
    else if p.char = ' ' then skipGap flow keyAllowed false s
    else if p.char = '\t' && (flow || !keyAllowed) then skipGap flow keyAllowed false s
    else if p.char = '#' then skipGap flow keyAllowed true s
    else if p.char.toNat == 0xFEFF && p.column == 0 then skipGap flow keyAllowed false s
    else (keyAllowed, p :: s)

/-- Gives out a token for some characters, before which no candidate is left. -/
def mark (t : Token) (keyAllowed : Bool) (rest : List Place) (s : Scanner) : Option Scanner := do
  return (← s.dropCandidate).allowKey keyAllowed |>.goTo rest |>.emit t

/-- Begins a flow collection, which may be a key as a whole. -/
def openFlow (t : Token) (p : Place) (rest : List Place) (s : Scanner) : Option Scanner := do
  let s ← s.addCandidate p
  return { s.emit t with rest, candidates := none :: s.candidates, keyAllowed := true }

/-- Ends a flow collection. -/
def closeFlow (t : Token) (rest : List Place) (s : Scanner) : Option Scanner := do
  let s ← s.dropCandidate
  let outer := if s.inFlow then s.candidates.drop 1 else s.candidates
  return { s.emit t with rest, candidates := outer, keyAllowed := false }

/-- An entry of a block sequence. -/
def blockEntry (p : Place) (rest : List Place) (s : Scanner) : Option Scanner :=
  if !s.inFlow && !s.keyAllowed then none
  else (s.openBlock p.column s.held.length .blockSequenceStart).mark .blockEntry true rest

/-- A key after a question mark. -/
def explicitKey (p : Place) (rest : List Place) (s : Scanner) : Option Scanner :=
  if !s.inFlow && !s.keyAllowed then none
  else (s.openBlock p.column s.held.length .blockMappingStart).mark .key (!s.inFlow) rest

/-- A colon: the candidate is a key, or the key is missing or was written after a question mark. -/
def value (p : Place) (rest : List Place) (s : Scanner) : Option Scanner :=
  match s.candidate with
  | some c =>
    some ((s.emitAt c.position .key).openBlock c.place.column c.position .blockMappingStart
      |>.setCandidate none |>.allowKey false |>.goTo rest |>.emit .value)
  | none =>
    if !s.inFlow && !s.keyAllowed then none
    else
      some ((s.openBlock p.column s.held.length .blockMappingStart).allowKey (!s.inFlow)
        |>.goTo rest |>.emit .value)

/-- A part of a node that may be a key or stand before one. -/
def part (p : Place) (read : Option (Token × List Place)) (s : Scanner) : Option Scanner := do
  let s ← s.addCandidate p
  let (t, rest) ← read
  return s.allowKey false |>.goTo rest |>.emit t

/-- A block scalar. -/
def block (folds : Bool) (rest : List Place) (s : Scanner) : Option Scanner := do
  let s ← s.dropCandidate
  let (text, rest) ← readBlock folds s.margins.head? rest
  let style := if folds then Style.other else .literal
  return s.allowKey true |>.goTo rest |>.emit (.scalar style (String.ofList text))

/-- A plain scalar. -/
def plain (p : Place) (rest : List Place) (s : Scanner) : Option Scanner := do
  let s ← s.addCandidate p
  let r ← readPlain s.inFlow s.leastColumn [] .none (p :: rest)
  return s.allowKey r.crossedLines |>.goTo r.rest |>.emit (.scalar .plain (String.ofList r.text))

/-- The token of a quoted scalar. -/
def quotedToken (r : List Char × List Place) : Token × List Place :=
  (.scalar .other (String.ofList r.1), r.2)

/-- The characters that mark something else where a plain scalar could start. -/
def isIndicator (c : Char) : Bool := "-?:,[]\x7b\x7d#&*!|>'\"%@`".toList.contains c

/-- Whether a plain scalar starts with a character. -/
def startsPlain (flow : Bool) (c : Char) (rest : List Place) : Bool :=
  (!isGap c && !isIndicator c) || (c = '-' && !startsWith rest isSpace) ||
    (!flow && (c = '?' || c = ':') && !wordEnds rest)

/-- Reads the token that starts with the first character of `p :: rest`. -/
def readToken (p : Place) (rest : List Place) (s : Scanner) : Option Scanner :=
  let c := p.char
  let flow := s.inFlow
  if p.column = 0 && c = '%' then do
    let s ← s.closeAll.dropCandidate
    let (t, rest) ← readDirective? rest
    return s.allowKey false |>.goTo rest |>.emit t
  else if atMark startMark (p :: rest) then s.closeAll.mark .documentStart false (rest.drop 2)
  else if atMark endMark (p :: rest) then s.closeAll.mark .documentEnd false (rest.drop 2)
  else if c = '[' then s.openFlow .flowSequenceStart p rest
  else if c = '{' then s.openFlow .flowMappingStart p rest
  else if c = ']' then s.closeFlow .flowSequenceEnd rest
  else if c = '}' then s.closeFlow .flowMappingEnd rest
  else if c = ',' then s.mark .flowEntry true rest
  else if c = '-' && wordEnds rest then s.blockEntry p rest
  else if c = '?' && (flow || wordEnds rest) then s.explicitKey p rest
  else if c = ':' && (flow || wordEnds rest) then s.value p rest
  else if c = '*' then s.part p ((readAnchorName? rest).map fun r => (.alias r.1, r.2))
  else if c = '&' then s.part p ((readAnchorName? rest).map fun r => (.anchor r.1, r.2))
  else if c = '!' then s.part p ((readTag? flow (p :: rest)).map fun r => (.tag r.1, r.2))
  else if c = '|' && !flow then s.block false rest
  else if c = '>' && !flow then s.block true rest
  else if c = '\'' then s.part p ((readSingle [] .none rest).map quotedToken)
  else if c = '"' then s.part p ((readDouble [] (.text .none) rest).map quotedToken)
  else if startsPlain flow c rest then s.plain p rest
  else none

/-- Goes to the start of the next token, and closes the collections that end before it. -/
def approach (s : Scanner) : Option Scanner := do
  let (keyAllowed, rest) := skipGap s.inFlow s.keyAllowed false s.rest
  let s ← { s with rest, keyAllowed }.dropStale
  match rest with
  | [] => return s
  | p :: _ => return s.closeDeeper p.column

/-- Takes away the tokens that cannot be keys any more and do not follow one that can. -/
def release (s : Scanner) : List Token × Scanner :=
  let n := s.candidates.foldl
    (fun n c => match c with
      | some c => min n c.position
      | none => n) s.held.length
  (s.held.take n,
   { s with
     held := s.held.drop n
     candidates := s.candidates.map (Option.map fun c => { c with position := c.position - n }) })

/-- The tokens of the rest of a text; each step has to read some of it. -/
def tokens (s : Scanner) : List Token :=
  match s.approach with
  | none => [.broken]
  | some s' =>
    match s'.rest with
    | [] =>
      if s'.candidates.any fun c => c.any Candidate.required then [.broken]
      else s'.closeAll.held
    | p :: rest =>
      match (s'.readToken p rest).bind dropStale with
      | none => [.broken]
      | some next =>
        let (out, next) := next.release
        if next.rest.length < s.rest.length then out ++ tokens next else [.broken]
termination_by s.rest.length

end Scanner

/-- The tokens of a text. -/
def tokensOf (s : List Char) : List Token :=
  if s.all isAllowed then (Scanner.start (places s)).tokens else [.broken]

end CursorPaging.Yaml
