import CursorPaging.Binary64
import CursorPaging.Dictionary

/-!
# JSON values

Values of the data format that requests, responses and messages are written in. The fields of an
object are entries in key order, so equal objects are equal lists.
-/

namespace CursorPaging

/-- A number: an integer that fits a word of 64 bits with or without sign, or a double. -/
inductive Json.Number where
  | integer (i : Int)
  | float (x : Binary64)
  deriving DecidableEq

/-- A JSON value. -/
inductive Json where
  | null
  | bool (b : Bool)
  | num (n : Json.Number)
  | str (s : String)
  | arr (items : List Json)
  | obj (fields : List (String × Json))

namespace Json

instance : Inhabited Json := ⟨.null⟩

/-- The number of a natural number. -/
def nat (n : Nat) : Json := .num (.integer n)

/-- The object of a list of fields, the last value of a repeated key counting. -/
def object (fields : List (String × Json)) : Json := .obj (Entries.ofList fields)

/-- A string, or null where there is none. -/
def optional : Option String → Json
  | some s => .str s
  | none => .null

/-- An array of strings. -/
def strings (ss : List String) : Json := .arr (ss.map .str)

/-- The value of a field, if this is an object that has it. -/
def get? (key : String) : Json → Option Json
  | .obj fields => Entries.get? key fields
  | _ => none

/-- The fields, if this is an object. -/
def asObject? : Json → Option (Entries Json)
  | .obj fields => some fields
  | _ => none

/-- The text, if this is a string. -/
def asString? : Json → Option String
  | .str s => some s
  | _ => none

end Json

end CursorPaging
