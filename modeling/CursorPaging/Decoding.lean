import CursorPaging.Text.Digits
import CursorPaging.Text.Quoted

/-!
# Decoding typed values

What can go wrong when a dynamic value is read as a typed one, and the format of records: fields
by name in any order, or by position in declared order. `RecordFormat.fromFields` visits the fields
in the order of the input, so the first of them that fails gives the error.
-/

namespace CursorPaging

/-- What a decoder found in the place of what it expected. -/
inductive Found where
  | boolean (b : Bool)
  | integer (i : Int)
  /-- An integer beyond the words of 64 bits. -/
  | wideInteger (text : String)
  /-- A number that is no integer, as written in messages. -/
  | float (text : String)
  | string (s : String)
  /-- The absent value, by the name that the format gives it. -/
  | absent (name : String)
  | sequence
  | map
  deriving DecidableEq

/-- A value in messages. -/
def Found.text : Found → String
  | .boolean b => "boolean `" ++ (if b then "true" else "false") ++ "`"
  | .integer i => "integer `" ++ Text.decimalInt i ++ "`"
  | .wideInteger s => "integer `" ++ s ++ "` as " ++ (if s.startsWith "-" then "i128" else "u128")
  | .float s => "floating point `" ++ s ++ "`"
  | .string s => "string " ++ Text.quoted s
  | .absent name => name
  | .sequence => "sequence"
  | .map => "map"

/-- Why a value cannot be read as one of a type. -/
inductive DecodeError where
  | invalidType (found : Found) (expected : String)
  | invalidValue (found : Found) (expected : String)
  | invalidLength (length : Nat) (expected : String)
  | missingField (field : String)
  | duplicateField (field : String)
  | unknownField (field : String) (known : List String)
  | unknownVariant (variant : String) (known : List String)
  deriving DecidableEq

namespace DecodeError

/-- Names between backquotes, as the end of a sentence that says what was expected. -/
def oneOf : List String → String
  | [] => "there are no variants"
  | [a] => "expected `" ++ a ++ "`"
  | [a, b] => "expected `" ++ a ++ "` or `" ++ b ++ "`"
  | names => "expected one of " ++ ", ".intercalate (names.map fun n => "`" ++ n ++ "`")

/-- The text of an error. -/
def message : DecodeError → String
  | .invalidType found expected => "invalid type: " ++ found.text ++ ", expected " ++ expected
  | .invalidValue found expected => "invalid value: " ++ found.text ++ ", expected " ++ expected
  | .invalidLength length expected =>
    "invalid length " ++ Text.decimal length ++ ", expected " ++ expected
  | .missingField field => "missing field `" ++ field ++ "`"
  | .duplicateField field => "duplicate field `" ++ field ++ "`"
  | .unknownField field known => "unknown field `" ++ field ++ "`, " ++ oneOf known
  | .unknownVariant variant known => "unknown variant `" ++ variant ++ "`, " ++ oneOf known

end DecodeError

/-- A field of a record: how a value of it is stored in the part of the record read so far, and
whether the record can do without it. -/
structure FieldFormat (ν : Type) (σ : Type) where
  name : String
  optional : Bool
  store : σ → ν → Except DecodeError σ

/-- The format of a record: its name in messages and its fields in declared order. -/
structure RecordFormat (ν : Type) (σ : Type) where
  name : String
  fields : List (FieldFormat ν σ)

namespace RecordFormat

variable {ν : Type} {σ : Type}

/-- Stores the value of a field; a name that is no field is passed over. -/
def storeNamed (f : RecordFormat ν σ) (part : σ) (name : String) (value : ν) :
    Except DecodeError σ :=
  match f.fields.find? fun field => field.name = name with
  | some field => field.store part value
  | none => .ok part

/-- Reads fields by name, in the order of the input. -/
def fromFields (f : RecordFormat ν σ) (start : σ) : List (String × ν) → Except DecodeError σ
  | [] => .ok start
  | (name, value) :: rest =>
    match f.storeNamed start name value with
    | .ok part => fromFields f part rest
    | .error e => .error e

/-- How messages call a sequence that holds the fields of a record. -/
def expectedSequence (f : RecordFormat ν σ) : String :=
  "struct " ++ f.name ++ " with " ++ Text.decimal f.fields.length ++
    (if f.fields.length = 1 then " element" else " elements")

/-- Reads fields by position; fields at the end may be missing if the record can do without. -/
def fromPositions (f : RecordFormat ν σ) (length : Nat) :
    List (FieldFormat ν σ) → σ → List ν → Except DecodeError σ
  | [], part, [] => .ok part
  | [], _, _ :: _ => .error (.invalidLength length "fewer elements in array")
  | field :: fields, part, [] =>
    if field.optional then fromPositions f length fields part []
    else .error (.invalidLength (f.fields.length - (fields.length + 1)) f.expectedSequence)
  | field :: fields, part, v :: vs =>
    match field.store part v with
    | .ok part => fromPositions f length fields part vs
    | .error e => .error e

/-- Reads the items of a sequence as the fields in declared order. -/
def fromItems (f : RecordFormat ν σ) (start : σ) (items : List ν) : Except DecodeError σ :=
  f.fromPositions items.length f.fields start items

end RecordFormat

/-- The value of a field that a record cannot do without. -/
def required {α : Type} (field : String) : Option α → Except DecodeError α
  | some a => .ok a
  | none => .error (.missingField field)

end CursorPaging
