import CursorPaging.Binary64.Shortest
import CursorPaging.Decoding
import CursorPaging.Dictionary
import CursorPaging.Yaml.Node
import CursorPaging.Yaml.Number

/-!
# Decoding YAML documents

Readers of typed values from the nodes of a document. They visit the document in order, so of two
faults the first one counts, and a place that breaks the rules of the language only counts if
nothing before it is at fault. An error in a value says where the value stands.
-/

namespace CursorPaging.Yaml

/-! ## Places and failures -/

/-- Where a node stands below the root. -/
inductive Path where
  | root
  | entry (parent : Path) (key : String)
  | item (parent : Path) (index : Nat)
  /-- The value of a key that is not written as a scalar. -/
  | unnamed (parent : Path)
  deriving DecidableEq

namespace Path

/-- A path in messages. -/
def text : Path → String
  | .root => "."
  | .entry .root key => key
  | .entry parent key => parent.text ++ "." ++ key
  | .item parent index => parent.text ++ "[" ++ Text.decimal index ++ "]"
  | .unnamed .root => "?"
  | .unnamed parent => parent.text ++ ".?"

end Path

/-- Why a document is not of a type. -/
inductive Failure where
  /-- The text breaks the rules of the language, or goes on after the document. -/
  | malformed
  /-- A value is not of its type. -/
  | invalid (path : Option Path) (cause : DecodeError)
  deriving DecidableEq

namespace Failure

/-- The failure of a value that stands at a path, if it does not say where it stands itself. -/
def locate (path : Path) : Failure → Failure
  | .invalid none cause => .invalid (some path) cause
  | f => f

/-- What a failure says, unless the text is malformed. -/
def text? : Failure → Option String
  | .malformed => none
  | .invalid none cause => some cause.message
  | .invalid (some .root) cause => some cause.message
  | .invalid (some path) cause => some (path.text ++ ": " ++ cause.message)

end Failure

/-- A document and where in it the node to be read stands. -/
structure Site where
  document : Node
  path : Path

namespace Site

/-- The site of a value in a mapping. -/
def value (key : Node) (site : Site) : Site :=
  match key with
  | .scalar _ _ _ text => { site with path := .entry site.path text }
  | _ => { site with path := .unnamed site.path }

/-- The site of an item. -/
def item (index : Nat) (site : Site) : Site := { site with path := .item site.path index }

/-- A failure that stands at a site. -/
def fail {α : Type} (site : Site) (cause : DecodeError) : Except Failure α :=
  .error (.invalid (some site.path) cause)

end Site

/-- A reader of values. -/
abbrev Decoder (α : Type) : Type := Site → Node → Except Failure α

/-! ## What scalars stand for -/

/-- The tag of truth values. -/
def boolTag : String := "tag:yaml.org,2002:bool"

/-- The tag of integers. -/
def intTag : String := "tag:yaml.org,2002:int"

/-- The tag of floats. -/
def floatTag : String := "tag:yaml.org,2002:float"

/-- The tag of the absent value. -/
def nullTag : String := "tag:yaml.org,2002:null"

/-- Whether a text is a spelling of the absent value. -/
def isNull (s : String) : Bool := ["null", "Null", "NULL", "~"].contains s

/-- The truth value of a text. -/
def bool? (s : String) : Option Bool :=
  if ["true", "True", "TRUE"].contains s then some true
  else if ["false", "False", "FALSE"].contains s then some false
  else none

/-- What messages call an integer. -/
def foundInteger (i : Int) : Found :=
  if -(Nat.pow 2 63) ≤ i ∧ i < Nat.pow 2 64 then .integer i else .wideInteger (Text.decimalInt i)

/-- The integer of a text that fits two words. -/
def wideInteger? (s : String) : Option Int :=
  match integer? s.toList with
  | some i => if -(Nat.pow 2 127) ≤ i ∧ i < Nat.pow 2 128 then some i else none
  | none => none

/-- What messages call a float. -/
def foundFloat : FloatValue → Found
  | .finite x => .float x.plainText
  | .infinite negative => .float (if negative then "-inf" else "inf")
  | .notANumber => .float "NaN"

/-- What messages call the absent value. -/
def foundNull : Found := .absent "unit value"

/-- Whether a text is a zero and more digits, after at most one sign. -/
def isPaddedNumber (s : String) : Bool :=
  match s.toList with
  | '+' :: r => hasLeadingZero r
  | '-' :: r => hasLeadingZero r
  | r => hasLeadingZero r

/-- What a plain scalar without tag stands for. -/
def foundPlain (s : String) : Found :=
  if s = "" || isNull s then foundNull
  else
    match bool? s, wideInteger? s with
    | some b, _ => .boolean b
    | none, some i => foundInteger i
    | none, none =>
      match float? s.toList with
      | some x => if isPaddedNumber s then .string s else foundFloat x
      | none => .string s

/-- What a scalar stands for; its tag may ask for what its text does not give. -/
def foundScalar (tag : Option String) (style : Style) (s : String) : Except DecodeError Found :=
  let asked {α : Type} (value : Option α) (found : α → Found) (expected : String) :
      Except DecodeError Found :=
    match value with
    | some a => .ok (found a)
    | none => .error (.invalidValue (.string s) expected)
  match tag with
  | none => .ok (if style = .plain then foundPlain s else .string s)
  | some t =>
    if t = boolTag then asked (bool? s) .boolean "a boolean"
    else if t = intTag then asked (wideInteger? s) foundInteger "an integer"
    else if t = floatTag then asked (float? s.toList) foundFloat "a float"
    else if t = nullTag then
      if isNull s then .ok foundNull else .error (.invalidValue (.string s) "null")
    else .ok (if t.startsWith "!" && style = .plain then foundPlain s else .string s)

/-- Fails with what was found in the place of what was expected. -/
def unexpected {α : Type} (site : Site) (expected : String) : Node → Except Failure α
  | .scalar _ tag style s =>
    match foundScalar tag style s with
    | .ok found => site.fail (.invalidType found expected)
    | .error cause => site.fail cause
  | .sequence _ _ => site.fail (.invalidType .sequence expected)
  | .mapping _ _ => site.fail (.invalidType .map expected)
  | _ => .error .malformed

/-! ## Decoders -/

/-- A string: any scalar, by its text. -/
def decodeText (expected : String) : Decoder String := fun site node =>
  match node.deref site.document with
  | .scalar _ _ _ s => .ok s
  | n => unexpected site expected n

/-- A string. -/
def decodeString : Decoder String := decodeText "a string"

/-- Whether a scalar may stand for an integer: it is plain, or a block with the tag of integers. -/
def mayBeInteger (tag : Option String) (style : Style) : Bool :=
  style = .plain || (style = .literal && tag = some intTag)

/-- A natural number below a limit, by the name of its type. -/
def decodeBelow (limit : Nat) (name : String) : Decoder Nat := fun site node =>
  match node.deref site.document with
  | .scalar anchor tag style s =>
    match natural? s.toList with
    | some n =>
      if mayBeInteger tag style && n < Text.wordLimit then
        if n < limit then .ok n else site.fail (.invalidValue (.integer n) name)
      else unexpected site name (.scalar anchor tag style s)
    | none => unexpected site name (.scalar anchor tag style s)
  | n => unexpected site name n

/-- Whether a scalar stands for the absent value; a tag may ask for it and the text not give it. -/
def isAbsent (tag : Option String) (style : Style) (s : String) : Except Failure Bool :=
  if style ≠ .plain then .ok false
  else
    match tag with
    | none => .ok (s = "" || isNull s)
    | some t =>
      if t ≠ nullTag then .ok false
      else if isNull s then .ok true
      else .error (.invalid none (.invalidValue (.string s) "null"))

/-- A value, or nothing for the absent value. -/
def decodeOption {α : Type} (item : Decoder α) : Decoder (Option α) := fun site node =>
  match node.deref site.document with
  | .scalar anchor tag style s => do
    if ← isAbsent tag style s then return none
    else return some (← item site (.scalar anchor tag style s))
  | n => (item site n).map some

/-- Whether a node is an empty collection of either kind: nothing at all was written for it. -/
def isBlankNode : Node → Bool
  | .scalar _ _ style s => style = .plain && s = ""
  | .void => true
  | _ => false

/-- Items in order, up to the first one that fails. -/
def decodeItems {α : Type} (item : Decoder α) (site : Site) :
    Nat → List Node → Except Failure (List α)
  | _, [] => .ok []
  | i, n :: ns => do
    let a ← item (site.item i) n
    return a :: (← decodeItems item site (i + 1) ns)

/-- A sequence of items. -/
def decodeList {α : Type} (item : Decoder α) : Decoder (List α) := fun site node =>
  match node.deref site.document with
  | .sequence _ items => (decodeItems item site 0 items).mapError (.locate site.path)
  | n => if isBlankNode n then .ok [] else unexpected site "a sequence" n

/-- Entries in order, up to the first one that fails; a repeated key keeps its last value. -/
def decodeEntries {α : Type} (value : Decoder α) (site : Site) (read : Dictionary α) :
    List (Node × Node) → Except Failure (Dictionary α)
  | [] => .ok read
  | (k, v) :: rest => do
    let key ← decodeString site k
    let a ← value (site.value k) v
    decodeEntries value site (read.insert key a) rest

/-- A mapping from strings. -/
def decodeDictionary {α : Type} (value : Decoder α) : Decoder (Dictionary α) := fun site node =>
  match node.deref site.document with
  | .mapping _ entries =>
    (decodeEntries value site .empty entries).mapError (.locate site.path)
  | n => if isBlankNode n then .ok .empty else unexpected site "a map" n

/-- A field of a record: how a value of it is stored in the part of the record read so far. -/
structure Field (σ : Type) where
  name : String
  store : σ → Decoder σ

/-- A record: its name in messages, its fields in declared order, and whether it refuses any
other field. -/
structure Record (σ : Type) where
  name : String
  fields : List (Field σ)
  closed : Bool

/-- Reads fields in the order of the document; none may be repeated. -/
def decodeFields {σ : Type} (r : Record σ) (site : Site) (seen : List String) (part : σ) :
    List (Node × Node) → Except Failure σ
  | [] => .ok part
  | (k, v) :: rest => do
    let key ← decodeText "field identifier" site k
    match r.fields.find? fun field => field.name = key with
    | some field =>
      if seen.contains key then site.fail (.duplicateField key)
      else
        let part ← field.store part (site.value k) v
        decodeFields r site (key :: seen) part rest
    | none =>
      if r.closed then site.fail (.unknownField key (r.fields.map (·.name)))
      else if v.isWhole then decodeFields r site seen part rest
      else .error .malformed

/-- A record, from the part of it that needs no fields. -/
def decodeRecord {σ α : Type} (r : Record σ) (start : σ) (finish : σ → Except DecodeError α) :
    Decoder α := fun site node =>
  let finished (part : Except Failure σ) : Except Failure α := do
    match finish (← part) with
    | .ok a => return a
    | .error cause => site.fail cause
  match node.deref site.document with
  | .mapping _ entries =>
    finished ((decodeFields r site [] start entries).mapError (.locate site.path))
  | n => if isBlankNode n then finished (.ok start) else unexpected site ("struct " ++ r.name) n

/-- A field that holds a value. -/
def Field.of {σ α : Type} (name : String) (item : Decoder α) (set : σ → α → σ) : Field σ :=
  ⟨name, fun part site node => (item site node).map (set part)⟩

/-- The value of a text that holds one document of a type. -/
def decode {α : Type} (item : Decoder α) (text : String) : Except Failure α := do
  let d := Document.ofText text
  let a ← item ⟨d.root, .root⟩ d.root
  if d.complete then return a else throw .malformed

end CursorPaging.Yaml
