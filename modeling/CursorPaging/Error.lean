import CursorPaging.Decoding
import CursorPaging.Url.Domain

/-!
# Errors

Everything that can go wrong, by cause, and the text of each error. `isUnauthorized` recognises the
errors by which a server rejects the credentials of a request.
-/

namespace CursorPaging

/-- Why a request got no answer that could be used. -/
inductive Http.Failure where
  /-- The request could not be made: its address, or one of its headers, is malformed. -/
  | building (url : Option String)
  /-- The server could not be reached, or did not answer. -/
  | sending (url : String)
  /-- The body of the answer is no JSON text. -/
  | body
  deriving DecidableEq

/-- The text of a failure. -/
def Http.Failure.message : Http.Failure → String
  | .building none => "builder error"
  | .building (some url) => "builder error for url (" ++ url ++ ")"
  | .sending url => "error sending request for url (" ++ url ++ ")"
  | .body => "error decoding response body"

/-- Why a file could not be read. -/
inductive FileError where
  | notFound
  | isDirectory
  | notDirectory
  | nameTooLong
  | accessDenied
  /-- The bytes of the file are no text. -/
  | notText
  deriving DecidableEq

/-- The text of a file error. -/
def FileError.message : FileError → String
  | .notFound => "No such file or directory (os error 2)"
  | .isDirectory => "Is a directory (os error 21)"
  | .notDirectory => "Not a directory (os error 20)"
  | .nameTooLong => "File name too long (os error 36)"
  | .accessDenied => "Permission denied (os error 13)"
  | .notText => "stream did not contain valid UTF-8"

/-- An error of the library. -/
inductive Error where
  | config (message : String)
  | missingField (field : String)
  | invalidValue (field message : String)
  | decoding (cause : DecodeError)
  | http (failure : Http.Failure)
  | httpStatus (status : Nat) (body : String)
  | timeout (milliseconds : Nat)
  | invalidUrl (cause : Url.Error)
  | api (code message : String)
  | response (message : String)
  | invalidFilter (expression message : String)
  | unknownProperty (resource property : String)
  | invalidPage (page known : Nat)
  | file (cause : FileError)
  | other (message : String)
  deriving DecidableEq

namespace Error

/-- The text of an error. -/
def message : Error → String
  | .config m => "Configuration error: " ++ m
  | .missingField field => "Missing required config field: " ++ field
  | .invalidValue field m => "Invalid config value for '" ++ field ++ "': " ++ m
  | .decoding cause => "Failed to parse JSON: " ++ cause.message
  | .http failure => "HTTP request failed: " ++ failure.message
  | .httpStatus status body => "HTTP " ++ Text.decimal status ++ ": " ++ body
  | .timeout ms => "Request timeout after " ++ Text.decimal ms ++ "ms"
  | .invalidUrl cause => "Invalid URL: " ++ cause.message
  | .api code m => "API error " ++ code ++ ": " ++ m
  | .response m => "Failed to decode response: " ++ m
  | .invalidFilter expression m => "Invalid filter expression '" ++ expression ++ "': " ++ m
  | .unknownProperty resource property =>
    "Unknown property '" ++ property ++ "' for " ++ resource
  | .invalidPage page known =>
    "Page " ++ Text.decimal page ++ " is out of range (1..=" ++ Text.decimal known ++ ")"
  | .file cause => "IO error: " ++ cause.message
  | .other m => m

/-- Whether the server rejected the credentials of the caller. -/
def isUnauthorized : Error → Bool
  | .httpStatus status _ => status == 401 || status == 403
  | .api code _ => code == "401" || code == "403"
  | _ => false

/-- The error seen from outside: what was being done, and its text. -/
def inContext (doing : String) (e : Error) : Error := .other (doing ++ ": " ++ e.message)

end Error

/-- Says of an error what was being done. -/
def withContext {α : Type} (doing : String) : Except Error α → Except Error α
  | .ok a => .ok a
  | .error e => .error (e.inContext doing)

end CursorPaging
