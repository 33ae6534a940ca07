import CursorPaging.Dictionary
import CursorPaging.Text.Base64
import CursorPaging.Text.Utf8

/-!
# Header fields

Header fields have a name that is a token, in which case does not matter, and a value without
control characters. A message may carry several values of one name; `Headers` keeps them in order.
-/

namespace CursorPaging.Http

/-- Whether a character may stand in the name of a header field. -/
def isTokenChar (c : Char) : Bool := c.isAlphanum || "!#$%&'*+-.^_`|~".toList.contains c

/-- The name of a header field in lower case, if it is a token. -/
def headerName? (name : String) : Option String :=
  if !name.isEmpty && name.toList.all isTokenChar then
    some (String.ofList (name.toList.map Char.toLower))
  else none

/-- Whether a character may stand in the value of a header field: no control character but tab. -/
def isValueChar (c : Char) : Bool := c = '\t' || (0x20 ≤ c.toNat && c.toNat ≠ 0x7F)

/-- The blanks of header fields are spaces and tabs; the other ones of Unicode are part of a
value. -/
def isPadding (c : Char) : Bool := c = ' ' || c = '\t'

/-- A value without the spaces and tabs around it. -/
def unpadded (value : String) : String :=
  String.ofList ((value.toList.dropWhile isPadding).reverse.dropWhile isPadding).reverse

/-- The value of a header field as it arrives, if it has no control characters. -/
def headerValue? (value : String) : Option String :=
  if value.toList.all isValueChar then some (unpadded value) else none

/-- Header fields: the values of each name in order. -/
abbrev Headers : Type := Dictionary (List String)

namespace Headers

/-- No header fields. -/
def none : Headers := Dictionary.empty

/-- Whether there is a value of a name. -/
def has (hs : Headers) (name : String) : Bool := (hs.get? name).isSome

/-- The fields with one more value of a name. -/
def add (hs : Headers) (name value : String) : Headers :=
  hs.insert name ((hs.get? name).getD [] ++ [value])

/-- The fields with a value of a name, if they have none. -/
def addDefault (hs : Headers) (name value : String) : Headers :=
  if hs.has name then hs else hs.add name value

/-- The fields with one more field, unless its name or its value is malformed. -/
def add? (hs : Headers) (name value : String) : Option Headers := do
  return hs.add (← headerName? name) (← headerValue? value)

/-- The fields with more fields, unless one of them is malformed. -/
def addAll? (hs : Headers) : Entries String → Option Headers
  | [] => some hs
  | (name, value) :: rest => do (← hs.add? name value).addAll? rest

end Headers

/-- The name of the field that says who asks. -/
def authorization : String := "authorization"

/-- The credentials of a bearer of a token. -/
def bearer (token : String) : String := "Bearer " ++ token

/-- The credentials of a user with a password. -/
def basic (user : List Char) (password : Option (List Char)) : String :=
  let text := user ++ ':' :: password.getD []
  "Basic " ++ String.ofList (Text.Base64.encode (Text.Utf8.encode text))

end CursorPaging.Http
