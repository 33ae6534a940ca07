import CursorPaging.Http.Network
import CursorPaging.Json.Reader

/-!
# Clients

A client sends requests over a network and tells the outcomes apart: a status between 400 and 599
is an error that carries the body, any other status is a response. Failed requests are not repeated.
-/

namespace CursorPaging.Http

/-- An answer that is no error. -/
structure Response where
  status : Nat
  body : List UInt8
  complete : Bool
  deriving DecidableEq

namespace Response

/-- Whether answers to a method with a status come without body. -/
def isBodiless (method : String) (status : Nat) : Bool :=
  method = "HEAD" || status = 204 || status = 304

/-- The answer to a request of a method. -/
def ofAnswer (method : String) (status : Nat) (body : List UInt8) (complete : Bool) : Response :=
  if isBodiless method status then ⟨status, [], true⟩ else ⟨status, body, complete⟩

/-- Whether a status reports an error of the client or of the server. -/
def isError (r : Response) : Bool := 400 ≤ r.status && r.status < 600

/-- The body as a text, in which bytes that are no characters are replaced. -/
def text (r : Response) : Except Failure String :=
  if r.complete then .ok (String.ofList (Text.Utf8.decodeLossy r.body)) else .error .body

/-- The body as a JSON value. -/
def json (r : Response) : Except Failure Json :=
  if r.complete then
    match (Text.Utf8.decode? r.body).bind Json.read? with
    | some v => .ok v
    | none => .error .body
  else .error .body

end Response

/-- A client. -/
structure Client where
  settings : Settings

namespace Client

/-- The client of some settings, which have to allow its introduction. -/
def ofSettings (s : Settings) : Except Error Client :=
  if s.userAgent.toList.all isValueChar then .ok ⟨s⟩ else .error (.http (.building none))

/-- Whether the client keeps to a rate. -/
def isLimited (c : Client) : Bool := c.settings.rateLimit.isSome

/-- Waiting times are reported as words of 64 bits. -/
def reportedTimeout (c : Client) : Nat := c.settings.timeout % Text.wordLimit

/-- What a response amounts to: its status may be an error. -/
def judge (r : Response) : Except Error Response :=
  if r.isError then
    .error (.httpStatus r.status (match r.text with
      | .ok body => body
      | .error _ => ""))
  else .ok r

/-- What became of a request. -/
def outcome (c : Client) (r : Request) : Reply → Except Error Response
  | .lost => .error (.http (.sending r.url.text))
  | .silence => .error (.timeout c.reportedTimeout)
  | .answer status body complete => judge (.ofAnswer r.method status body complete)

variable {σ : Type}

/-- Sends a request over a network. -/
def request (c : Client) (net : Network σ) (s : σ) (method path : String) (body : Option Json) :
    Except Error Response × σ :=
  match Request.prepare c.settings method path body with
  | .error e => (.error (.http e), s)
  | .ok r =>
    let (reply, s') := net s r
    (c.outcome r reply, s')

/-- The JSON value of a response. -/
def decoded (answer : Except Error Response) : Except Error Json := do
  match (← answer).json with
  | .ok v => return v
  | .error e => throw (.http e)

/-- Posts a JSON value, and reads the answer as one. -/
def postJson (c : Client) (net : Network σ) (s : σ) (path : String) (body : Json) :
    Except Error Json × σ :=
  let (answer, s') := c.request net s "POST" path (some body)
  (decoded answer, s')

/-! ## Clients in messages -/

/-- Thousandths as digits after a point, without zeros at the end. -/
def thousandths (n : Nat) : List Char :=
  match ((Text.padded 3 n).toList.reverse.dropWhile (· = '0')).reverse with
  | [] => []
  | digits => '.' :: digits

/-- A span of milliseconds in messages, in seconds from one second on. -/
def spanText (ms : Nat) : String :=
  if ms = 0 then "0ns"
  else if ms < 1000 then Text.decimal ms ++ "ms"
  else Text.decimal (ms / 1000) ++ String.ofList (thousandths (ms % 1000)) ++ "s"

/-- A truth value in messages. -/
def flagText (b : Bool) : String := if b then "true" else "false"

/-- How messages show a client; the access token does not appear. -/
def text (c : Client) : String :=
  let base := match c.settings.baseUrl with
    | some url => "Some(" ++ Text.quoted url ++ ")"
    | none => "None"
  "HttpClient \x7b base_url: " ++ base ++ ", timeout: " ++ spanText c.settings.timeout ++
    ", has_access_token: " ++ flagText c.settings.accessToken.isSome ++
    ", has_rate_limiter: " ++ flagText c.isLimited ++ ", .. \x7d"

end Client

end CursorPaging.Http
