import CursorPaging.Http.RateLimit

/-!
# Settings of a client

What a client needs to know of the server it talks to: its address, how long to wait for it, how
often to ask it, and what to send with every request. Unless it is told otherwise it introduces
itself by the name and version of the program.
-/

namespace CursorPaging

/-- The name of the program. -/
def productName : String := "console-pager"

/-- The version of the program. -/
def productVersion : String := "0.1.0"

end CursorPaging

namespace CursorPaging.Http

/-- The settings of a client. -/
structure Settings where
  /-- The address in front of all paths. -/
  baseUrl : Option String
  /-- How long to wait for an answer, in milliseconds. -/
  timeout : Nat
  rateLimit : Option RateLimit
  accessToken : Option String
  defaultHeaders : Dictionary String
  userAgent : String
  deriving DecidableEq

namespace Settings

/-- How long to wait unless something else is configured, in seconds. -/
def defaultTimeout : Nat := 30

/-- How a client introduces itself unless something else is configured. -/
def defaultUserAgent : String := productName ++ "/" ++ productVersion

/-- The settings without any configuration. -/
def default : Settings := ⟨none, defaultTimeout * 1000, none, none, .empty, defaultUserAgent⟩

/-- Whether a text is an address of its own, to be used without the one configured. -/
def isAddress (path : String) : Bool := path.startsWith "http://" || path.startsWith "https://"

/-- The address and the path joined by exactly one slash. -/
def joinPath (base path : String) : String :=
  let base := (base.toList.reverse.dropWhile (· = '/')).reverse
  String.ofList (base ++ '/' :: path.toList.dropWhile (· = '/'))

/-- The address that a request for a path goes to. -/
def address (s : Settings) (path : String) : String :=
  if isAddress path then path
  else
    match s.baseUrl with
    | some base => joinPath base path
    | none => path

end Settings

end CursorPaging.Http
