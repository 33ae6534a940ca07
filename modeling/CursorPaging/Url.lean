import CursorPaging.Url.Host

/-!
# URLs

Absolute URLs, parsed as browsers do: blanks around the text and line breaks in it are dropped,
characters are percent-encoded where they may not stand, dot segments of the path are resolved,
and the default port of a scheme is left out. `parse` reads a text, `text` writes the URL.
-/

namespace CursorPaging

/-- The path of a URL: segments, or a text that is kept as it is. -/
inductive Url.Path where
  | segments (ss : List (List Char))
  | opaqueText (s : List Char)
  deriving DecidableEq

/-- An absolute URL, its parts percent-encoded. -/
structure Url where
  scheme : List Char
  username : List Char
  password : Option (List Char)
  host : Option Url.Host
  port : Option Nat
  path : Url.Path
  query : Option (List Char)
  fragment : Option (List Char)
  deriving DecidableEq

namespace Url

/-- The default port of a special scheme. -/
def defaultPort? (scheme : List Char) : Option Nat :=
  if scheme = "http".toList ∨ scheme = "ws".toList then some 80
  else if scheme = "https".toList ∨ scheme = "wss".toList then some 443
  else if scheme = "ftp".toList then some 21
  else none

/-- Whether a scheme is that of local files. -/
def isFile (scheme : List Char) : Bool := scheme = "file".toList

/-- Whether URLs of a scheme always have a host or stand for a file. -/
def isSpecial (scheme : List Char) : Bool := (defaultPort? scheme).isSome || isFile scheme

/-- Whether a character may stand in a scheme after its first letter. -/
def isSchemeChar (c : Char) : Bool :=
  c.isAlphanum || c = '+' || c = '-' || c = '.'

/-- The scheme at the start of a text, in lower case, and what follows its colon. -/
def splitScheme (s : List Char) : Option (List Char × List Char) :=
  let scheme := s.takeWhile isSchemeChar
  match scheme, s.dropWhile isSchemeChar with
  | c :: _, ':' :: rest => if c.isAlpha then some (scheme.map Char.toLower, rest) else none
  | _, _ => none

/-- Whether a character separates the segments of a path. -/
def isSlash (special : Bool) (c : Char) : Bool := c = '/' || (special && c = '\\')

/-- Whether a character ends the host and port. -/
def endsAuthority (special : Bool) (c : Char) : Bool :=
  isSlash special c || c = '?' || c = '#'

/-- The text before the first fragment mark, and the text after it. -/
def splitFragment (s : List Char) : List Char × Option (List Char) :=
  match s.dropWhile (· ≠ '#') with
  | _ :: r => (s.takeWhile (· ≠ '#'), some r)
  | [] => (s, none)

/-- The text before the first question mark, and the text after it. -/
def splitQuery (s : List Char) : List Char × Option (List Char) :=
  match s.dropWhile (· ≠ '?') with
  | _ :: r => (s.takeWhile (· ≠ '?'), some r)
  | [] => (s, none)

/-- Whether a segment stands for the segment it is in. -/
def isSingleDot (s : List Char) : Bool :=
  s = ['.'] || s.map Char.toLower = "%2e".toList

/-- Whether a segment stands for the segment before it. -/
def isDoubleDot (s : List Char) : Bool :=
  let s := s.map Char.toLower
  s = "..".toList || s = ".%2e".toList || s = "%2e.".toList || s = "%2e%2e".toList

/-- Resolves the dot segments of a path; the segments before the given ones come last first. -/
def resolve (before : List (List Char)) : List (List Char) → List (List Char)
  | [] => before.reverse
  | s :: rest =>
    if isDoubleDot s then
      if rest = [] then ([] :: before.tail).reverse else resolve before.tail rest
    else if isSingleDot s then
      if rest = [] then ([] :: before).reverse else resolve before rest
    else resolve (s :: before) rest

/-- The segments of a path that starts after its first slash. -/
def pathSegments (special : Bool) (s : List Char) : List (List Char) :=
  resolve [] ((cutAt (isSlash special) s).map (escape pathSet))

/-- The path after a host. -/
def hostedPath (special : Bool) : List Char → Path
  | [] => .segments (if special then [[]] else [])
  | c :: s => .segments (pathSegments special (if isSlash special c then s else c :: s))

/-- Adds the path, the query and the fragment. -/
def withTail (u : Url) (path : List Char → Path) (s : List Char) : Url :=
  let (s, fragment) := splitFragment s
  let (s, query) := splitQuery s
  let set := if isSpecial u.scheme then specialQuerySet else querySet
  { u with
    path := path s
    query := query.map (escape set)
    fragment := fragment.map (escape fragmentSet) }

/-- Cuts a text at the last character that satisfies the test. -/
def splitLast (p : Char → Bool) (s : List Char) : Option (List Char × List Char) :=
  let tail := (s.reverse.takeWhile fun c => !p c).reverse
  if tail.length = s.length then none
  else some (s.take (s.length - tail.length - 1), tail)

/-- The name and password in front of a host. -/
def parseUserinfo (s : List Char) : List Char × Option (List Char) :=
  let name := s.takeWhile (· ≠ ':')
  match s.dropWhile (· ≠ ':') with
  | _ :: c :: r => (escape userinfoSet name, some (escape userinfoSet (c :: r)))
  | _ => (escape userinfoSet name, none)

/-- The part of an authority before the colon of its port. -/
def hostPart (inside : Bool) : List Char → List Char
  | [] => []
  | c :: s =>
    if c = ':' ∧ !inside then []
    else c :: hostPart (if c = '[' then true else if c = ']' then false else inside) s

/-- The port after a colon, unless it is the default one of the scheme. -/
def parsePort (scheme : List Char) (s : List Char) : Except Error (Option Nat) :=
  if s = [] then .ok none
  else
    match Text.digitsValue? s with
    | some n =>
      if 65535 < n then .error .invalidPort
      else .ok (if defaultPort? scheme = some n then none else some n)
    | none => .error .invalidPort

/-- The user, host and port between the slashes of a URL and its path. A lone `@` may only stand at
the end of the text, and a user or a port needs a host. -/
def parseAuthority (scheme : List Char) (atEnd : Bool) (s : List Char) : Except Error Url := do
  let special := isSpecial scheme
  if s = ['@'] ∧ !atEnd then throw .emptyHost
  let (user, address) := (splitLast (· = '@') s).getD ([], s)
  let (username, password) := parseUserinfo user
  let hostText := hostPart false address
  let rest := address.drop hostText.length
  if special ∧ hostText = [] then throw .emptyHost
  let host ← if special then parseHost hostText else parseOpaqueHost hostText
  if host = .domain [] ∧ (rest ≠ [] ∨ username ≠ [] ∨ password ≠ none) then throw .emptyHost
  let port ← parsePort scheme rest.tail
  return ⟨scheme, username, password, some host, port, .segments [], none, none⟩

/-- A URL with an authority. -/
def parseHosted (scheme : List Char) (s : List Char) : Except Error Url := do
  let special := isSpecial scheme
  let authority := s.takeWhile fun c => !endsAuthority special c
  let rest := s.drop authority.length
  let u ← parseAuthority scheme (rest = []) authority
  return withTail u (hostedPath special) rest

/-- Whether a text is the letter of a drive, behind a colon or a bar. -/
def isDriveLetter : List Char → Bool
  | [c, mark] => c.isAlpha && (mark = ':' || mark = '|')
  | _ => false

/-- The URL of a local file, after the colon of its scheme. -/
def parseFile (scheme : List Char) (s : List Char) : Except Error Url := do
  let bare : Url := ⟨scheme, [], none, none, none, .segments [], none, none⟩
  match s with
  | a :: b :: r =>
    if isSlash true a ∧ isSlash true b then
      let name := r.takeWhile fun c => !endsAuthority true c
      if isDriveLetter name then return withTail bare (hostedPath true) r
      let host ← if name = [] then pure none else some <$> parseHost name
      let host := if host = some (.domain "localhost".toList) then none else host
      return withTail { bare with host := host } (hostedPath true) (r.drop name.length)
    else return withTail bare (hostedPath true) s
  | _ => return withTail bare (hostedPath true) s

/-- A URL without authority, after the colon of its scheme. -/
def parsePathOnly (scheme : List Char) (s : List Char) : Url :=
  let bare : Url := ⟨scheme, [], none, none, none, .segments [], none, none⟩
  match s with
  | '/' :: _ => withTail bare (hostedPath false) s
  | _ => withTail bare (fun p => .opaqueText (escape controlSet p)) s

/-- Whether a character is dropped from the ends of a text. -/
def isEdge (c : Char) : Bool := c.toNat ≤ 0x20

/-- Whether a character is dropped wherever it stands. -/
def isBreak (c : Char) : Bool := c = '\t' || c = '\n' || c = '\r'

/-- The text of a URL without what is dropped from it. -/
def cleaned (s : List Char) : List Char :=
  (((s.dropWhile isEdge).reverse.dropWhile isEdge).reverse).filter fun c => !isBreak c

/-- The absolute URL that a text stands for. -/
def parse (text : String) : Except Error Url :=
  match splitScheme (cleaned text.toList) with
  | none => .error .relativeWithoutBase
  | some (scheme, s) =>
    if isFile scheme then parseFile scheme s
    else if isSpecial scheme then parseHosted scheme (s.dropWhile (isSlash true))
    else
      match s with
      | '/' :: '/' :: r => parseHosted scheme r
      | _ => .ok (parsePathOnly scheme s)

/-! ## Written forms -/

/-- The written form of a path. -/
def Path.text : Path → List Char
  | .segments ss => ss.flatMap fun s => '/' :: s
  | .opaqueText s => s

/-- A part with a mark in front of it, if there is one. -/
def marked (mark : Char) : Option (List Char) → List Char
  | some s => mark :: s
  | none => []

/-- What a request asks the server for: the path and the query. -/
def target (u : Url) : String := String.ofList (u.path.text ++ marked '?' u.query)

/-- The written form of the user in front of a host. -/
def userText (u : Url) : List Char :=
  if u.username = [] ∧ u.password = none then []
  else u.username ++ marked ':' u.password ++ ['@']

/-- The written form of the authority, with its slashes. -/
def authorityText (u : Url) : List Char :=
  match u.host with
  | some host =>
    "//".toList ++ u.userText ++ host.text ++ marked ':' (u.port.map (Nat.toDigits 10))
  | none => if isFile u.scheme then "//".toList else []

/-- The written form of a URL. -/
def text (u : Url) : String :=
  String.ofList <|
    u.scheme ++ ':' :: u.authorityText ++ u.path.text ++ marked '?' u.query ++ marked '#' u.fragment

/-- Whether a URL names a host. -/
def hasHost (u : Url) : Bool := u.host ≠ none && u.host ≠ some (.domain [])

/-- The URL without its user. -/
def withoutUser (u : Url) : Url := { u with username := [], password := none }

end Url

end CursorPaging
