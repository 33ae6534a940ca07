import CursorPaging.Json.Printer
import CursorPaging.Resource
import CursorPaging.Text.Blank

/-!
# Options of the command line

What a user can ask for on the command line: a command with its options, and the options that go
with every command.
-/

namespace CursorPaging.CommandLine

/-- How much is written to the log. -/
inductive LogLevel where
  | trace
  | debug
  | info
  | warn
  | error
  deriving DecidableEq

namespace LogLevel

/-- The level unless another one is chosen. -/
def default : LogLevel := .info

/-- The levels by name. -/
def names : List (String × LogLevel) :=
  [("trace", .trace), ("debug", .debug), ("info", .info), ("warn", .warn), ("error", .error)]

/-- The name of a level. -/
def name : LogLevel → String
  | .trace => "trace"
  | .debug => "debug"
  | .info => "info"
  | .warn => "warn"
  | .error => "error"

/-- The JSON form. -/
def toJson (l : LogLevel) : Json := .str l.name

/-- The level of a JSON form. -/
def ofJson : Json → Except DecodeError LogLevel := Json.decodeVariant names

end LogLevel

/-- How messages are written. -/
inductive OutputFormat where
  /-- One message on a line. -/
  | json
  /-- A message on several indented lines. -/
  | pretty
  deriving DecidableEq

namespace OutputFormat

/-- The formats by name. -/
def names : List (String × OutputFormat) := [("json", .json), ("pretty", .pretty)]

/-- The name of a format. -/
def name : OutputFormat → String
  | .json => "json"
  | .pretty => "pretty"

/-- A message in a format. -/
def render : OutputFormat → Json → String
  | .json, v => v.compact
  | .pretty, v => v.pretty

end OutputFormat

/-- The options of commands that show a table. -/
structure QueryOptions where
  /-- Expressions that the rows are filtered by. -/
  filters : List String
  /-- Whether a row may match any of the expressions. -/
  or : Bool
  sort : Option String
  desc : Bool
  pageSize : Option Nat
  /-- Parameters of every request, as they are written. -/
  params : List String
  deriving DecidableEq

/-- A command. -/
inductive Command where
  /-- Shows the catalogue of resources. -/
  | resources
  /-- Prints the rows of the first pages, or of all. -/
  | list (resource : Resource) (query : QueryOptions) (pages : Nat) (all : Bool)
  /-- Shows a table and reads commands to move in it. -/
  | browse (resource : Resource) (query : QueryOptions)
  deriving DecidableEq

/-- What a user asks for. -/
structure Invocation where
  /-- The path of the configuration file. -/
  config : Option String
  baseUrl : Option String
  accessToken : Option String
  format : OutputFormat
  logLevel : LogLevel
  verbose : Bool
  command : Command
  deriving DecidableEq

/-- The log level in effect. -/
def Invocation.effectiveLogLevel (i : Invocation) : LogLevel :=
  if i.verbose then .debug else i.logLevel

/-- The key and value of a parameter, which stand around the first equals sign. -/
def parseParam (param : String) : Except Error (String × String) :=
  let cs := param.toList
  let key := String.ofList (Text.trim (cs.takeWhile (· ≠ '=')))
  match cs.dropWhile (· ≠ '=') with
  | _ :: value =>
    if key = "" then refused else .ok (key, String.ofList value)
  | [] => refused
where
  /-- The error for a text that is no parameter. -/
  refused : Except Error (String × String) :=
    .error (.invalidValue "param" ("'" ++ param ++ "' is not KEY=VALUE"))

/-- The parameters of a list, the last value of a repeated key counting. -/
def parseParams (read : Dictionary String) : List String → Except Error (Dictionary String)
  | [] => .ok read
  | param :: rest => do
    let (key, value) ← parseParam param
    parseParams (read.insert key value) rest

end CursorPaging.CommandLine
