import CursorPaging.Yaml.Token

/-!
# YAML documents

The tokens of a text make a tree of nodes. A text that breaks the rules still gives the tree of its
part before that, in which `broken` stands for what is missing: a reader of the tree that stops
before it does not notice.
-/

namespace CursorPaging.Yaml

/-- A node of a document. An anchored node has a number, by which aliases refer to it. -/
inductive Node where
  | scalar (anchor : Option Nat) (tag : Option String) (style : Style) (text : String)
  | sequence (anchor : Option Nat) (items : List Node)
  | mapping (anchor : Option Nat) (entries : List (Node × Node))
  | alias (anchor : Nat)
  /-- The text holds no document. -/
  | void
  /-- From here on the text breaks the rules. -/
  | broken

/-- The first document of a text, and whether that is all there is in it. -/
structure Document where
  root : Node
  complete : Bool

/-! ## Tokens to nodes -/

/-- The tokens that are left, and the anchors that were named so far, the latest first. -/
structure TokenStream where
  tokens : List Token
  anchors : List (String × Nat)

namespace TokenStream

/-- The stream at a place that breaks the rules. -/
def failed (s : TokenStream) : TokenStream := { s with tokens := [.broken] }

/-- The stream after its first token. -/
def skip (s : TokenStream) : TokenStream := { s with tokens := s.tokens.drop 1 }

/-- The token that comes next. -/
def peek (s : TokenStream) : Option Token := s.tokens.head?

/-- The number of an anchor. -/
def anchor? (name : String) (s : TokenStream) : Option Nat :=
  (s.anchors.find? fun entry => entry.1 = name).map (·.2)

/-- Names an anchor. Its number is the count of the names before it, also if the name is used
again. -/
def nameAnchor (name : String) (s : TokenStream) : Nat × TokenStream :=
  let others := s.anchors.filter fun entry => entry.1 ≠ name
  (s.anchors.length, { s with anchors := (name, s.anchors.length) :: others })

/-- Names an anchor, if there is one. -/
def nameAnchor? (name : Option String) (s : TokenStream) : Option Nat × TokenStream :=
  match name with
  | some name => let (n, s) := s.nameAnchor name; (some n, s)
  | none => (none, s)

end TokenStream

/-- The plain scalar without text, which stands for a node that is left out. -/
def Node.empty : Node := .scalar none none .plain ""

/-- The handles of tags that need no directive. -/
def knownHandles : List (String × String) := [("!", "!"), ("!!", "tag:yaml.org,2002:")]

/-- The tag that is written with a handle or as a whole. -/
def TagText.resolve (handles : List (String × String)) : TagText → Option String
  | .whole tag => some tag
  | .short handle suffix =>
    (handles.find? fun entry => entry.1 = handle).map fun entry => entry.2 ++ suffix

/-- What stands in front of a node: an anchor and a tag, in either order. -/
structure Properties where
  anchor : Option String
  tag : Option TagText

/-- Reads the properties of a node. -/
def readProperties (s : TokenStream) : Properties × TokenStream :=
  match s.tokens with
  | .anchor a :: .tag t :: rest => (⟨some a, some t⟩, { s with tokens := rest })
  | .tag t :: .anchor a :: rest => (⟨some a, some t⟩, { s with tokens := rest })
  | .anchor a :: rest => (⟨some a, none⟩, { s with tokens := rest })
  | .tag t :: rest => (⟨none, some t⟩, { s with tokens := rest })
  | _ => (⟨none, none⟩, s)

/-- Where a node stands. -/
inductive Position where
  /-- In a block collection. -/
  | block
  /-- In a block mapping, where a sequence needs no indentation of its own. -/
  | entry
  /-- In a flow collection. -/
  | flow
  deriving DecidableEq

/-- What keeps the parts of a collection apart, and what ends it. -/
inductive SequenceKind where
  | block
  /-- A block sequence in the column of the mapping around it. -/
  | unindented
  | flow
  deriving DecidableEq

/-- The tokens before which an item of a block sequence is left out. -/
def SequenceKind.endsItem (k : SequenceKind) (t : Token) : Bool :=
  match k with
  | .unindented => t = .blockEntry || t = .key || t = .value || t = .blockEnd
  | _ => t = .blockEntry || t = .blockEnd

/-- The tokens before which a key or a value of a block mapping is left out. -/
def endsBlockPart (t : Token) : Bool := t = .key || t = .value || t = .blockEnd

/-- The tokens before which a value is left out in the flow collection that a token closes. -/
def endsFlowValue (close t : Token) : Bool := t = .flowEntry || t = close

/-- The tokens before which a key is left out in the flow collection that a token closes. -/
def endsFlowKey (close t : Token) : Bool := t = .value || endsFlowValue close t

/-- A node of which only the properties are written; without any the text breaks the rules. -/
def readEmpty (properties : Properties) (anchor : Option Nat) (tag : Option String)
    (s : TokenStream) : Node × TokenStream :=
  if properties.anchor.isSome || properties.tag.isSome then
    (.scalar anchor tag .plain "", s)
  else (.broken, s.failed)

mutual

/-- Reads a node. The fuel bounds the depth of the reading, here and in what follows. -/
def readNode (handles : List (String × String)) (fuel : Nat) (position : Position)
    (s : TokenStream) : Node × TokenStream :=
  match fuel with
  | 0 => (.broken, s.failed)
  | fuel + 1 =>
    match s.peek with
    | some (.alias name) =>
      match s.anchor? name with
      | some n => (.alias n, s.skip)
      | none => (.broken, s.failed)
    | _ =>
      let (properties, s) := readProperties s
      match properties.tag, properties.tag.bind (·.resolve handles) with
      | some _, none => (.broken, s.failed)
      | _, tag =>
        let (anchor, named) := s.nameAnchor? properties.anchor
        match s.peek with
        | some (.scalar style text) =>
          (.scalar anchor (tag.filter (· ≠ "!")) style text, named.skip)
        | some .flowSequenceStart =>
          let (items, s) := readFlowItems handles fuel true named.skip
          (.sequence anchor items, s)
        | some .flowMappingStart =>
          let (entries, s) := readFlowEntries handles fuel true named.skip
          (.mapping anchor entries, s)
        | some .blockEntry =>
          if position = .entry then
            let (items, s) := readItems handles fuel .unindented named
            (.sequence anchor items, s)
          else readEmpty properties anchor tag named
        | some .blockSequenceStart =>
          if position = .flow then readEmpty properties anchor tag named
          else
            let (items, s) := readItems handles fuel .block named.skip
            (.sequence anchor items, s)
        | some .blockMappingStart =>
          if position = .flow then readEmpty properties anchor tag named
          else
            let (entries, s) := readEntries handles fuel named.skip
            (.mapping anchor entries, s)
        | some .broken => (.broken, s.failed)
        | _ => readEmpty properties anchor tag named
termination_by structural fuel

/-- Reads the items of a block sequence. -/
def readItems (handles : List (String × String)) (fuel : Nat) (kind : SequenceKind)
    (s : TokenStream) : List Node × TokenStream :=
  match fuel with
  | 0 => ([.broken], s.failed)
  | fuel + 1 =>
    match s.peek with
    | some .blockEntry =>
      let (item, s) :=
        if s.skip.peek.any kind.endsItem then (Node.empty, s.skip)
        else readNode handles fuel .block s.skip
      let (items, s) := readItems handles fuel kind s
      (item :: items, s)
    | some .broken => ([.broken], s.failed)
    | next =>
      if kind = .unindented then ([], s)
      else if next = some .blockEnd then ([], s.skip)
      else ([.broken], s.failed)
termination_by structural fuel

/-- Reads the entries of a block mapping. -/
def readEntries (handles : List (String × String)) (fuel : Nat) (s : TokenStream) :
    List (Node × Node) × TokenStream :=
  match fuel with
  | 0 => ([(.broken, .broken)], s.failed)
  | fuel + 1 =>
    match s.peek with
    | some .key =>
      let (key, s) :=
        if s.skip.peek.any endsBlockPart then (Node.empty, s.skip)
        else readNode handles fuel .entry s.skip
      let (value, s) := readBlockValue handles fuel s
      let (entries, s) := readEntries handles fuel s
      ((key, value) :: entries, s)
    | some .blockEnd => ([], s.skip)
    | _ => ([(.broken, .broken)], s.failed)
termination_by structural fuel

/-- Reads the value of an entry of a block mapping. -/
def readBlockValue (handles : List (String × String)) (fuel : Nat) (s : TokenStream) :
    Node × TokenStream :=
  match fuel with
  | 0 => (.broken, s.failed)
  | fuel + 1 =>
    match s.peek with
    | some .value =>
      if s.skip.peek.any endsBlockPart then (Node.empty, s.skip)
      else readNode handles fuel .entry s.skip
    | some .broken => (.broken, s.failed)
    | _ => (Node.empty, s)
termination_by structural fuel

/-- Reads the items of a flow sequence, before the first of which no comma stands. -/
def readFlowItems (handles : List (String × String)) (fuel : Nat) (first : Bool)
    (s : TokenStream) : List Node × TokenStream :=
  match fuel with
  | 0 => ([.broken], s.failed)
  | fuel + 1 =>
    match s.peek, first with
    | some .flowSequenceEnd, _ => ([], s.skip)
    | some .flowEntry, false => readFlowItem handles fuel s.skip
    | _, true => readFlowItem handles fuel s
    | _, false => ([.broken], s.failed)
termination_by structural fuel

/-- Reads an item of a flow sequence and those after it. An item may be a mapping of one pair. -/
def readFlowItem (handles : List (String × String)) (fuel : Nat) (s : TokenStream) :
    List Node × TokenStream :=
  match fuel with
  | 0 => ([.broken], s.failed)
  | fuel + 1 =>
    match s.peek with
    | some .flowSequenceEnd => ([], s.skip)
    | some .key =>
      let (key, s) :=
        if s.skip.peek.any (endsFlowKey .flowSequenceEnd) then (Node.empty, s.skip.skip)
        else readNode handles fuel .flow s.skip
      let (value, s) := readFlowValue handles fuel .flowSequenceEnd s
      let (items, s) := readFlowItems handles fuel false s
      (.mapping none [(key, value)] :: items, s)
    | _ =>
      let (item, s) := readNode handles fuel .flow s
      let (items, s) := readFlowItems handles fuel false s
      (item :: items, s)
termination_by structural fuel

/-- Reads the value of a pair in the flow collection that a token closes. -/
def readFlowValue (handles : List (String × String)) (fuel : Nat) (close : Token)
    (s : TokenStream) : Node × TokenStream :=
  match fuel with
  | 0 => (.broken, s.failed)
  | fuel + 1 =>
    match s.peek with
    | some .value =>
      if s.skip.peek.any (endsFlowValue close) then (Node.empty, s.skip)
      else readNode handles fuel .flow s.skip
    | some .broken => (.broken, s.failed)
    | _ => (Node.empty, s)
termination_by structural fuel

/-- Reads the entries of a flow mapping, before the first of which no comma stands. -/
def readFlowEntries (handles : List (String × String)) (fuel : Nat) (first : Bool)
    (s : TokenStream) : List (Node × Node) × TokenStream :=
  match fuel with
  | 0 => ([(.broken, .broken)], s.failed)
  | fuel + 1 =>
    match s.peek, first with
    | some .flowMappingEnd, _ => ([], s.skip)
    | some .flowEntry, false => readFlowEntry handles fuel s.skip
    | _, true => readFlowEntry handles fuel s
    | _, false => ([(.broken, .broken)], s.failed)
termination_by structural fuel

/-- Reads an entry of a flow mapping and those after it. An entry without a colon has no value. -/
def readFlowEntry (handles : List (String × String)) (fuel : Nat) (s : TokenStream) :
    List (Node × Node) × TokenStream :=
  match fuel with
  | 0 => ([(.broken, .broken)], s.failed)
  | fuel + 1 =>
    match s.peek with
    | some .flowMappingEnd => ([], s.skip)
    | some .key =>
      let (key, s) :=
        if s.skip.peek.any (endsFlowKey .flowMappingEnd) then (Node.empty, s.skip)
        else readNode handles fuel .flow s.skip
      let (value, s) := readFlowValue handles fuel .flowMappingEnd s
      let (entries, s) := readFlowEntries handles fuel false s
      ((key, value) :: entries, s)
    | _ =>
      let (key, s) := readNode handles fuel .flow s
      let value := if s.peek = some .broken then Node.broken else Node.empty
      let (entries, s) := readFlowEntries handles fuel false s
      ((key, value) :: entries, s)
termination_by structural fuel

end

/-! ## Documents -/

/-- Whether a token is a directive. -/
def Token.isDirective : Token → Bool
  | .version _ _ => true
  | .handle _ _ => true
  | _ => false

/-- Whether there is at most one version among directives, and that a known one. -/
def versionsAgree (directives : List Token) : Bool :=
  let versions := directives.filterMap fun t => match t with
    | .version major minor => some (major, minor)
    | _ => none
  versions.length ≤ 1 && versions.all fun v => v = (1, 1) || v = (1, 2)

/-- The handles that directives declare. -/
def declaredHandles (directives : List Token) : List (String × String) :=
  directives.filterMap fun t => match t with
    | .handle handle start => some (handle, start)
    | _ => none

/-- Whether directives are those of one document. -/
def directivesAgree (directives : List Token) : Bool :=
  versionsAgree directives && ((declaredHandles directives).map (·.1)).Nodup

/-- Whether a document that was begun holds nothing before this token. -/
def endsContent (t : Token) : Bool := t.isDirective || t = .documentStart || t = .documentEnd

/-- A number of calls that suffices for reading a node from some tokens. -/
def readingFuel (ts : List Token) : Nat := 4 * ts.length + 8

/-- The root of the first document, and the tokens after it. -/
def readRoot (ts : List Token) : Node × List Token :=
  let directives := ts.takeWhile Token.isDirective
  let handles := declaredHandles directives ++ knownHandles
  let read (ts : List Token) : Node × List Token :=
    let (node, s) := readNode handles (readingFuel ts) .block ⟨ts, []⟩
    (node, s.tokens)
  match directives, ts.drop directives.length with
  | [], [] => (.void, [])
  | _, .documentStart :: content =>
    if !directivesAgree directives then (.broken, [.broken])
    else if content.head?.all endsContent then (Node.empty, content)
    else read content
  | [], content => read content
  | _ :: _, _ => (.broken, [.broken])

/-- The first document of a text. -/
def Document.ofText (text : String) : Document :=
  let (root, rest) := readRoot (tokensOf text.toList)
  ⟨root, (rest.dropWhile (· = .documentEnd)).isEmpty⟩

/-! ## Aliases -/

namespace Node

/-- Whether a node has the given number. -/
def hasAnchor (n : Nat) : Node → Bool
  | .scalar a _ _ _ => a = some n
  | .sequence a _ => a = some n
  | .mapping a _ => a = some n
  | _ => false

mutual

/-- The nodes of a tree, each before those in it. -/
def nodes : Node → List Node
  | .sequence a items => .sequence a items :: itemNodes items
  | .mapping a entries => .mapping a entries :: entryNodes entries
  | n => [n]

/-- The nodes in some items. -/
def itemNodes : List Node → List Node
  | [] => []
  | n :: ns => nodes n ++ itemNodes ns

/-- The nodes in some entries. -/
def entryNodes : List (Node × Node) → List Node
  | [] => []
  | (k, v) :: es => nodes k ++ nodes v ++ entryNodes es

end

/-- Whether a node stands for a place that breaks the rules. -/
def isBroken : Node → Bool
  | .broken => true
  | _ => false

/-- Whether a tree is without a place that breaks the rules. -/
def isWhole (n : Node) : Bool := n.nodes.all fun m => !m.isBroken

/-- The node that an alias in the tree of a root refers to, which is the last one of its number;
any other node is itself. -/
def deref (n root : Node) : Node :=
  match n with
  | .alias anchor => (root.nodes.reverse.find? (hasAnchor anchor)).getD .broken
  | n => n

end Node

end CursorPaging.Yaml
