import CursorPaging.Decoding
import CursorPaging.Json.Printer

/-!
# Decoding JSON values

Readers of typed values: strings, truth values, bounded natural numbers, optional values, arrays,
names from a list, and records written as objects or as arrays of their fields.
-/

namespace CursorPaging.Json

/-- What messages call a value. -/
def found : Json → Found
  | .null => .absent "null"
  | .bool b => .boolean b
  | .num (.integer i) => .integer i
  | .num (.float x) => .float x.text
  | .str s => .string s
  | .arr _ => .sequence
  | .obj _ => .map

/-- The error for a value of the wrong type. -/
def unexpected {α : Type} (v : Json) (expected : String) : Except DecodeError α :=
  .error (.invalidType v.found expected)

/-- A string. -/
def decodeString : Json → Except DecodeError String
  | .str s => .ok s
  | v => unexpected v "a string"

/-- A truth value. -/
def decodeBool : Json → Except DecodeError Bool
  | .bool b => .ok b
  | v => unexpected v "a boolean"

/-- A natural number below a limit, by the name of its type. -/
def decodeBelow (limit : Nat) (name : String) : Json → Except DecodeError Nat
  | .num (.integer i) =>
    if 0 ≤ i ∧ i < limit then .ok i.toNat else .error (.invalidValue (.integer i) name)
  | v => unexpected v name

/-- A size. -/
def decodeSize : Json → Except DecodeError Nat := decodeBelow Text.wordLimit "usize"

/-- A number of half a word. -/
def decodeHalfWord : Json → Except DecodeError Nat := decodeBelow (Nat.pow 2 32) "u32"

/-- A value, or nothing for null. -/
def decodeOption {α : Type} (item : Json → Except DecodeError α) :
    Json → Except DecodeError (Option α)
  | .null => .ok none
  | v => (item v).map some

/-- Items in order, up to the first one that fails. -/
def decodeItems {α : Type} (item : Json → Except DecodeError α) :
    List Json → Except DecodeError (List α)
  | [] => .ok []
  | v :: vs =>
    match item v with
    | .ok a => (decodeItems item vs).map (a :: ·)
    | .error e => .error e

/-- An array of items. -/
def decodeList {α : Type} (item : Json → Except DecodeError α) :
    Json → Except DecodeError (List α)
  | .arr items => decodeItems item items
  | v => unexpected v "a sequence"

/-- The value that goes with a name. -/
def decodeName {α : Type} (names : List (String × α)) (name : String) : Except DecodeError α :=
  match names.find? fun entry => entry.1 = name with
  | some (_, a) => .ok a
  | none => .error (.unknownVariant name (names.map (·.1)))

/-- One of a list of named values: its name, or an object that maps the name to null. -/
def decodeVariant {α : Type} (names : List (String × α)) : Json → Except DecodeError α
  | .str s => decodeName names s
  | .obj [(name, value)] =>
    match decodeName names name, value with
    | .ok a, .null => .ok a
    | .ok _, v => unexpected v "unit"
    | .error e, _ => .error e
  | .obj _ => .error (.invalidValue .map "map with a single key")
  | v => unexpected v "string or map"

/-- The fields of a record, from an object or from an array. -/
def decodeRecord {σ : Type} (f : RecordFormat Json σ) (start : σ) : Json → Except DecodeError σ
  | .obj fields => f.fromFields start fields
  | .arr items => f.fromItems start items
  | v => unexpected v ("struct " ++ f.name)

end CursorPaging.Json
