import CursorPaging.Error
import CursorPaging.Http.Header
import CursorPaging.Http.Settings
import CursorPaging.Json.Printer
import CursorPaging.Url

/-!
# Requests

A request as it is sent: method, address, header fields and body. `Request.prepare` makes one from
the settings of a client. A user in the address becomes the first credentials; configured fields
follow, then the access token, and what is still missing is filled in.
-/

namespace CursorPaging.Http

/-- A request. -/
structure Request where
  method : String
  url : Url
  headers : Headers
  /-- The text of the body; a request without body has none. -/
  body : String

namespace Request

/-- The user and password in front of a host, with percent-encoding undone. -/
def credentials? (url : Url) : Option (List Char × Option (List Char)) := do
  let user ← Text.Utf8.decode? (Url.unescape url.username)
  let password := url.password.bind fun p => Text.Utf8.decode? (Url.unescape p)
  if user = [] ∧ password = none then none else some (user, password)

/-- The address without credentials, and the header fields that carry them. -/
def signed (url : Url) : Url × Headers :=
  match credentials? url with
  | some (user, password) => (url.withoutUser, Headers.none.add authorization (basic user password))
  | none => (url, Headers.none)

/-- The header fields with the access token, if there is one. -/
def withToken? (hs : Headers) : Option String → Option Headers
  | some token => hs.add? authorization (bearer token)
  | none => some hs

/-- The header fields with those that are filled in if they are missing. -/
def completed (s : Settings) (body : Option Json) (hs : Headers) : Headers :=
  let hs := if body.isSome then hs.addDefault "content-type" "application/json" else hs
  hs.addDefault "user-agent" (unpadded s.userAgent)

/-- Whether requests can be sent to an address. -/
def isReachable (url : Url) : Bool := url.scheme = "http".toList || url.scheme = "https".toList

/-- The request for a path. -/
def prepare (s : Settings) (method path : String) (body : Option Json) : Except Failure Request :=
  match Url.parse (s.address path) with
  | .error _ => .error (.building none)
  | .ok url => do
    if !url.hasHost then throw (.building (some url.text))
    let (url, hs) := signed url
    match (hs.addAll? s.defaultHeaders.entries).bind fun hs => withToken? hs s.accessToken with
    | none => .error (.building none)
    | some hs =>
      if isReachable url then
        .ok ⟨method, url, completed s body hs, (body.map Json.compact).getD ""⟩
      else .error (.building (some url.text))

end Request

end CursorPaging.Http
