import CursorPaging.Http.Settings
import CursorPaging.Preferences
import CursorPaging.Text.Blank
import CursorPaging.Url
import CursorPaging.Yaml.Decode

/-!
# Configuration

How to reach a console and what a table offers, as read from a YAML document. `Config.ofText` reads
and checks a document; the access token may stand in it or in an environment variable that it
names.
-/

namespace CursorPaging

/-- The configuration of a connection to a console. -/
structure Config where
  baseUrl : String
  timeoutSecs : Nat
  accessToken : Option String
  /-- The environment variable that holds the access token. -/
  accessTokenEnv : Option String
  rateLimit : Option Http.RateLimit
  pageSize : Nat
  pageSizeOptions : List Nat
  userAgent : Option String
  defaultHeaders : Dictionary String
  deriving DecidableEq

/-- The values of environment variables. -/
abbrev Environment := String → Option String

/-- What reading a file gives. -/
abbrev Files := String → Except FileError String

namespace Config

/-- The configuration that only says where the console is. -/
def ofUrl (baseUrl : String) : Config where
  baseUrl := baseUrl
  timeoutSecs := Http.Settings.defaultTimeout
  accessToken := none
  accessTokenEnv := none
  rateLimit := none
  pageSize := defaultPageSize
  pageSizeOptions := PageSizes.defaultSizes
  userAgent := none
  defaultHeaders := .empty

/-! ## Checks -/

/-- Refuses a value of zero. -/
def checkPositive (field message : String) (n : Nat) : Except Error Unit :=
  if n = 0 then .error (.invalidValue field message) else .ok ()

/-- What is said of a value that is zero. -/
def mustBePositive : String := "must be positive"

/-- Refuses an address that is blank or no URL. -/
def checkBaseUrl (baseUrl : String) : Except Error Unit :=
  if Text.trimmed baseUrl = "" then .error (.missingField "base_url")
  else
    match Url.parse baseUrl with
    | .ok _ => .ok ()
    | .error e => .error (.invalidUrl e)

/-- Refuses page sizes with a zero among them. -/
def checkOptions (sizes : List Nat) : Except Error Unit :=
  if sizes.contains 0 then .error (.invalidValue "page_size_options" "page sizes must be positive")
  else .ok ()

/-- Refuses a rate of zero. -/
def checkRate : Option Http.RateLimit → Except Error Unit
  | some r => checkPositive "rate_limit.requests_per_second" mustBePositive r.requestsPerSecond
  | none => .ok ()

/-- Refuses a configuration that cannot be used, for the first reason there is. -/
def check (c : Config) : Except Error Unit := do
  checkBaseUrl c.baseUrl
  checkPositive "timeout_secs" mustBePositive c.timeoutSecs
  checkPositive "page_size" mustBePositive c.pageSize
  checkOptions c.pageSizeOptions
  checkRate c.rateLimit

/-! ## Use -/

/-- The access token: the one in the configuration, or else the value of the variable it names. -/
def resolveAccessToken (c : Config) (env : Environment) : Except Error (Option String) :=
  match c.accessToken, c.accessTokenEnv with
  | some token, _ => .ok (some token)
  | none, some var =>
    match env var with
    | some token => .ok (some token)
    | none => .error (.config ("Environment variable '" ++ var ++ "' is not set"))
  | none, none => .ok none

/-- The page sizes that are offered. -/
def pageSizes (c : Config) : PageSizes := .ofList c.pageSizeOptions

/-- The settings of a client. -/
def httpSettings (c : Config) (env : Environment) : Except Error Http.Settings := do
  let token ← c.resolveAccessToken env
  return {
    baseUrl := some c.baseUrl
    timeout := c.timeoutSecs * 1000
    rateLimit := c.rateLimit
    accessToken := token
    defaultHeaders := c.defaultHeaders
    userAgent := c.userAgent.getD Http.Settings.defaultUserAgent }

/-- A field that is left out if it has no value. -/
def optionalField {α : Type} (name : String) (toJson : α → Json) :
    Option α → List (String × Json)
  | some a => [(name, toJson a)]
  | none => []

/-- The JSON form. -/
def toJson (c : Config) : Json :=
  .object <|
    [("base_url", .str c.baseUrl), ("timeout_secs", .nat c.timeoutSecs),
     ("page_size", .nat c.pageSize), ("page_size_options", .arr (c.pageSizeOptions.map .nat)),
     ("default_headers", .obj (c.defaultHeaders.entries.map fun (k, v) => (k, .str v)))] ++
    optionalField "access_token" .str c.accessToken ++
    optionalField "access_token_env" .str c.accessTokenEnv ++
    optionalField "rate_limit" Http.RateLimit.toJson c.rateLimit ++
    optionalField "user_agent" .str c.userAgent

/-! ## Reading -/

/-- A number of half a word. -/
def decodeHalfWord : Yaml.Decoder Nat := Yaml.decodeBelow (Nat.pow 2 32) "u32"

/-- A size. -/
def decodeSize : Yaml.Decoder Nat := Yaml.decodeBelow Text.wordLimit "usize"

/-- A number of a whole word. -/
def decodeWord : Yaml.Decoder Nat := Yaml.decodeBelow Text.wordLimit "u64"

/-- The record of a rate limit. -/
def rateLimitRecord : Yaml.Record Http.RateLimit.Parts where
  name := Http.RateLimit.format.name
  closed := false
  fields :=
    [.of "requests_per_second" decodeHalfWord fun p n => { p with requestsPerSecond := some n },
     .of "burst_size" decodeHalfWord fun p n => { p with burstSize := some n }]

/-- A rate limit. -/
def decodeRateLimit : Yaml.Decoder Http.RateLimit :=
  Yaml.decodeRecord rateLimitRecord ⟨none, none⟩ Http.RateLimit.Parts.finish

/-- The parts of a configuration read so far; what the document does not say is as in `ofUrl`. -/
structure Parts where
  baseUrl : Option String
  rest : Config

/-- A field that does not say where the console is. -/
def field {α : Type} (name : String) (item : Yaml.Decoder α) (set : Config → α → Config) :
    Yaml.Field Parts :=
  .of name item fun p a => { p with rest := set p.rest a }

/-- The record of a configuration. -/
def record : Yaml.Record Parts where
  name := "ConsoleConfig"
  closed := true
  fields :=
    [.of "base_url" Yaml.decodeString fun p s => { p with baseUrl := some s },
     field "timeout_secs" decodeWord fun c n => { c with timeoutSecs := n },
     field "access_token" (Yaml.decodeOption Yaml.decodeString) fun c s =>
       { c with accessToken := s },
     field "access_token_env" (Yaml.decodeOption Yaml.decodeString) fun c s =>
       { c with accessTokenEnv := s },
     field "rate_limit" (Yaml.decodeOption decodeRateLimit) fun c r => { c with rateLimit := r },
     field "page_size" decodeSize fun c n => { c with pageSize := n },
     field "page_size_options" (Yaml.decodeList decodeSize) fun c ns =>
       { c with pageSizeOptions := ns },
     field "user_agent" (Yaml.decodeOption Yaml.decodeString) fun c s => { c with userAgent := s },
     field "default_headers" (Yaml.decodeDictionary Yaml.decodeString) fun c d =>
       { c with defaultHeaders := d }]

/-- The configuration of its parts. -/
def Parts.finish (p : Parts) : Except DecodeError Config := do
  return { p.rest with baseUrl := ← required "base_url" p.baseUrl }

/-- A configuration. -/
def decode : Yaml.Decoder Config := Yaml.decodeRecord record ⟨none, ofUrl ""⟩ Parts.finish

/-- The error of a document that is no configuration. -/
def documentError (f : Yaml.Failure) : Error :=
  let said := "Failed to parse config YAML"
  .config (match f.text? with
    | some text => said ++ ": " ++ text
    | none => said)

/-- The configuration of a document, before it is checked. -/
def read (text : String) : Except Error Config :=
  match Yaml.decode decode text with
  | .ok c => .ok c
  | .error f => .error (documentError f)

/-- The configuration of a document. -/
def ofText (text : String) : Except Error Config := do
  let c ← read text
  c.check
  return c

/-- The text of a configuration file. -/
def fileText (files : Files) (path : String) : Except Error String :=
  match files path with
  | .ok text => .ok text
  | .error e => .error ((Error.file e).inContext ("Failed to read config file '" ++ path ++ "'"))

/-- The configuration in a file. -/
def load (files : Files) (path : String) : Except Error Config := do
  ofText (← fileText files path)

end Config

end CursorPaging
