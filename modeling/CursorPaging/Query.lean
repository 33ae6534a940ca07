import CursorPaging.Json.Decode

/-!
# Queries

What a table asks for: filter tokens and how they are joined, and the column it is sorted by. The
forms that a request sends are `SortToken` and `WireToken`; `FilterQuery.grouped` arranges the
tokens of a query by property. Every type comes with its JSON form and the reader of that form.
-/

namespace CursorPaging

/-! ## Sorting -/

/-- The direction of an order. -/
inductive SortDirection where
  | asc
  | desc
  deriving DecidableEq

namespace SortDirection

/-- The direction, given whether it is descending. -/
def ofDescending (descending : Bool) : SortDirection := if descending then .desc else .asc

/-- The word for a direction. -/
def name : SortDirection → String
  | .asc => "asc"
  | .desc => "desc"

/-- The JSON form. -/
def toJson (d : SortDirection) : Json := .str d.name

/-- The directions by name. -/
def names : List (String × SortDirection) := [("asc", .asc), ("desc", .desc)]

/-- The direction of a JSON form. -/
def ofJson : Json → Except DecodeError SortDirection := Json.decodeVariant names

end SortDirection

/-- The column that a table is sorted by, and whether the order is descending. -/
structure Sorting where
  column : String
  descending : Bool
  deriving DecidableEq

/-- The sort token of a request. -/
structure SortToken where
  key : String
  direction : SortDirection
  deriving DecidableEq

namespace SortToken

/-- The JSON form. -/
def toJson (t : SortToken) : Json :=
  .object [("Key", .str t.key), ("Operator", t.direction.toJson)]

/-- The parts of a sort token read so far. -/
structure Parts where
  key : Option String
  direction : Option SortDirection

/-- The format of a sort token. -/
def format : RecordFormat Json Parts where
  name := "SortToken"
  fields :=
    [⟨"Key", false, fun p v => do return { p with key := some (← Json.decodeString v) }⟩,
     ⟨"Operator", false, fun p v => do
        return { p with direction := some (← SortDirection.ofJson v) }⟩]

/-- The sort token of a JSON form. -/
def ofJson (v : Json) : Except DecodeError SortToken := do
  let p ← Json.decodeRecord format ⟨none, none⟩ v
  return ⟨← required "Key" p.key, ← required "Operator" p.direction⟩

end SortToken

namespace Sorting

/-- The token that asks for this order. -/
def toToken (s : Sorting) : SortToken := ⟨s.column, .ofDescending s.descending⟩

/-- The JSON form. -/
def toJson (s : Sorting) : Json :=
  .object [("column", .str s.column), ("descending", .bool s.descending)]

/-- The parts of a sorting read so far. -/
structure Parts where
  column : Option String
  descending : Option Bool

/-- The format of a sorting. -/
def format : RecordFormat Json Parts where
  name := "SortingState"
  fields :=
    [⟨"column", false, fun p v => do return { p with column := some (← Json.decodeString v) }⟩,
     ⟨"descending", false, fun p v => do
        return { p with descending := some (← Json.decodeBool v) }⟩]

/-- The sorting of a JSON form. -/
def ofJson (v : Json) : Except DecodeError Sorting := do
  let p ← Json.decodeRecord format ⟨none, none⟩ v
  return ⟨← required "column" p.column, ← required "descending" p.descending⟩

end Sorting

/-! ## Filtering -/

/-- How the tokens of a query are joined. -/
inductive Join where
  | and
  | or
  deriving DecidableEq

namespace Join

/-- The word for a join. -/
def name : Join → String
  | .and => "and"
  | .or => "or"

/-- The JSON form. -/
def toJson (j : Join) : Json := .str j.name

/-- The joins by name. -/
def names : List (String × Join) := [("and", .and), ("or", .or)]

/-- The join of a JSON form. -/
def ofJson : Json → Except DecodeError Join := Json.decodeVariant names

end Join

/-- A filter as entered: a property, an operator and a value. -/
structure FilterToken where
  property : String
  operator : String
  value : String
  deriving DecidableEq

namespace FilterToken

/-- The JSON form. -/
def toJson (t : FilterToken) : Json :=
  .object [("propertyKey", .str t.property), ("operator", .str t.operator), ("value", .str t.value)]

/-- The parts of a filter token read so far. -/
structure Parts where
  property : Option String
  operator : Option String
  value : Option String

/-- The format of a filter token. -/
def format : RecordFormat Json Parts where
  name := "PropertyFilterToken"
  fields :=
    [⟨"propertyKey", false, fun p v => do
        return { p with property := some (← Json.decodeString v) }⟩,
     ⟨"operator", false, fun p v => do return { p with operator := some (← Json.decodeString v) }⟩,
     ⟨"value", false, fun p v => do return { p with value := some (← Json.decodeString v) }⟩]

/-- The filter token of a JSON form. -/
def ofJson (v : Json) : Except DecodeError FilterToken := do
  let p ← Json.decodeRecord format ⟨none, none, none⟩ v
  return ⟨← required "propertyKey" p.property, ← required "operator" p.operator,
    ← required "value" p.value⟩

end FilterToken

/-- A list of filter tokens, and how they are joined. -/
structure FilterQuery where
  tokens : List FilterToken
  operation : Join
  deriving DecidableEq

namespace FilterQuery

/-- The query that filters nothing. -/
def empty : FilterQuery := ⟨[], .and⟩

/-- Whether the query filters nothing. -/
def isEmpty (q : FilterQuery) : Bool := q.tokens.isEmpty

/-- The JSON form. -/
def toJson (q : FilterQuery) : Json :=
  .object [("tokens", .arr (q.tokens.map FilterToken.toJson)), ("operation", q.operation.toJson)]

/-- The parts of a query read so far. -/
structure Parts where
  tokens : Option (List FilterToken)
  operation : Option Join

/-- The format of a query. -/
def format : RecordFormat Json Parts where
  name := "PropertyFilterQuery"
  fields :=
    [⟨"tokens", false, fun p v => do
        return { p with tokens := some (← Json.decodeList FilterToken.ofJson v) }⟩,
     ⟨"operation", false, fun p v => do return { p with operation := some (← Join.ofJson v) }⟩]

/-- The query of a JSON form. -/
def ofJson (v : Json) : Except DecodeError FilterQuery := do
  let p ← Json.decodeRecord format ⟨none, none⟩ v
  return ⟨← required "tokens" p.tokens, ← required "operation" p.operation⟩

end FilterQuery

/-- A filter as sent: an operator and a value. -/
structure WireToken where
  operator : String
  value : String
  deriving DecidableEq

namespace WireToken

/-- The JSON form. -/
def toJson (t : WireToken) : Json :=
  .object [("Operator", .str t.operator), ("Value", .str t.value)]

/-- The parts of a wire token read so far. -/
structure Parts where
  operator : Option String
  value : Option String

/-- The format of a wire token. -/
def format : RecordFormat Json Parts where
  name := "ApiFilterToken"
  fields :=
    [⟨"Operator", false, fun p v => do return { p with operator := some (← Json.decodeString v) }⟩,
     ⟨"Value", false, fun p v => do return { p with value := some (← Json.decodeString v) }⟩]

/-- The wire token of a JSON form. -/
def ofJson (v : Json) : Except DecodeError WireToken := do
  let p ← Json.decodeRecord format ⟨none, none⟩ v
  return ⟨← required "Operator" p.operator, ← required "Value" p.value⟩

end WireToken

/-- The operator that a request sends for one that was entered: the colons become words. -/
def wireOperator (operator : String) : String :=
  if operator = ":" then "CONTAINS"
  else if operator = "!:" then "NOT_CONTAINS"
  else operator

/-- A filter token as sent. -/
def FilterToken.toWire (t : FilterToken) : WireToken := ⟨wireOperator t.operator, t.value⟩

namespace FilterQuery

/-- Appends a token to those of its property. -/
def addToGroup (groups : Dictionary (List WireToken)) (t : FilterToken) :
    Dictionary (List WireToken) :=
  groups.insert t.property ((groups.get? t.property).getD [] ++ [t.toWire])

/-- The tokens as sent, by property, those of one property in the order of entry. -/
def grouped (q : FilterQuery) : Dictionary (List WireToken) := q.tokens.foldl addToGroup .empty

end FilterQuery

end CursorPaging
