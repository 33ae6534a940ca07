import CursorPaging.Error
import CursorPaging.Query

/-!
# Listing requests and responses

One page of a list is asked for by a `ListRequest` and answered by a `ListPage`. The body of a
request is a flat object: the size of the page, its token, the order, the filters by property, and
extra parameters, where a later part overwrites an earlier one of the same key. A response holds the
items under the key of the resource and the token of the next page, or an error object.
-/

namespace CursorPaging

/-- A request for one page. -/
structure ListRequest where
  maxResults : Nat
  /-- The token of the page; the first page has none. -/
  nextToken : Option String
  sortToken : Option SortToken
  /-- The filters by property. -/
  filters : Dictionary (List WireToken)
  /-- Parameters that are sent besides. -/
  extraParams : Dictionary String
  deriving DecidableEq

namespace ListRequest

/-- The key of the size of the page. -/
def maxResultsKey : String := "MaxResults"

/-- The key of the token of a page. -/
def nextTokenKey : String := "NextToken"

/-- The key of the order. -/
def sortTokenKey : String := "SortToken"

/-- The parts of the body, a later one overwriting an earlier one of the same key. -/
def bodyParts (r : ListRequest) : List (String × Json) :=
  (maxResultsKey, .nat r.maxResults) ::
    (r.nextToken.toList.map fun t => (nextTokenKey, Json.str t)) ++
    (r.sortToken.toList.map fun s => (sortTokenKey, s.toJson)) ++
    (r.filters.entries.map fun (k, ts) => (k, Json.arr (ts.map WireToken.toJson))) ++
    (r.extraParams.entries.map fun (k, v) => (k, Json.str v))

/-- The body of the request. -/
def body (r : ListRequest) : Dictionary Json := .ofList r.bodyParts

/-- The body of the request as a value. -/
def toJson (r : ListRequest) : Json := .obj r.body.entries

end ListRequest

/-- The items of one page, and the token of the next one if there is one. -/
structure ListPage (α : Type) where
  items : List α
  nextToken : Option String

/-- The text of an error code. -/
def errorCode : Option Json → String
  | some (.str code) => code
  | some (.num n) => n.text
  | _ => ""

/-- The error object of a response, if it has one. -/
def apiError? (body : Json) : Option Error := do
  let fields ← (← body.get? "Error").asObject?
  let message := ((Entries.get? "message" fields).bind Json.asString?).getD ""
  return .api (errorCode (Entries.get? "code" fields)) message

namespace ListPage

variable {α : Type}

/-- The items of a response, under the given key. -/
def readItems (item : Json → Except DecodeError α) (key : String) :
    Option Json → Except Error (List α)
  | none | some .null => .ok []
  | some (.arr values) =>
    match Json.decodeItems item values with
    | .ok items => .ok items
    | .error e => .error (.response ("invalid item in '" ++ key ++ "': " ++ e.message))
  | some v =>
    .error (.response ("expected '" ++ key ++ "' to be an array, got " ++ v.compact))

/-- The token of a response. -/
def readToken : Option Json → Except Error (Option String)
  | none | some .null => .ok none
  | some (.str token) => .ok (some token)
  | some v =>
    .error (.response
      ("expected '" ++ ListRequest.nextTokenKey ++ "' to be a string, got " ++ v.compact))

/-- The page of a response, whose items are under the given key. -/
def ofResponse (item : Json → Except DecodeError α) (key : String) (body : Json) :
    Except Error (ListPage α) :=
  match body with
  | .obj fields =>
    match apiError? body with
    | some e => .error e
    | none => do
      let items ← readItems item key (Entries.get? key fields)
      let token ← readToken (Entries.get? ListRequest.nextTokenKey (Entries.erase key fields))
      return ⟨items, token⟩
  | _ => .error (.response "list response is not a JSON object")

end ListPage

end CursorPaging
