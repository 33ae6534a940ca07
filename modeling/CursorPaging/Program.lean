import CursorPaging.CommandLine.Arguments
import CursorPaging.Session

/-!
# The program

What the program does with its arguments, all told: the lines it writes to its output and to its
error output, and its exit code.
-/

namespace CursorPaging.Program

open CommandLine (Rejection)

/-- What a run of the program leaves behind. -/
structure Report where
  exitCode : Nat
  output : List String
  errors : List String

/-- How the program is used. -/
def usage : List String :=
  ["Usage: console-pager [OPTIONS] <COMMAND>", "",
   "Commands:",
   "  resources          List the resources that can be browsed",
   "  list RESOURCE      Print the rows of the first pages, or of all",
   "  browse RESOURCE    Move in a table by commands read from the input",
   "  help [COMMAND]     Show this help", "",
   "Options:",
   "  -C, --config FILE      Configuration file (YAML)",
   "      --base-url URL     Address of the list API, in place of the configured one",
   "      --access-token T   Access token, in place of the configured one",
   "  -f, --format FORMAT    json or pretty",
   "      --log-level LEVEL  trace, debug, info, warn or error",
   "  -v, --verbose          Log at level debug",
   "  -h, --help             Show this help",
   "  -V, --version          Show the version", "",
   "Options of list and browse:",
   "      --filter EXPR      Filter rows, as in SessionNames:dev",
   "      --or               Join filters with or",
   "      --sort COLUMN      Sort by a column",
   "      --desc             Sort in descending order",
   "      --page-size N      Rows on a page",
   "      --param KEY=VALUE  Parameter of every request", "",
   "Options of list:",
   "      --pages N          Number of pages to print",
   "      --all              Print every page"]

/-- What is said of a command line that is not carried out. -/
def complaint : Rejection → String
  | .displayHelp => ""
  | .displayVersion => ""
  | .displayHelpOnMissing => "nothing to do"
  | .missingSubcommand => "a command is required"
  | .invalidSubcommand => "unrecognized command"
  | .unknownArgument => "unexpected argument"
  | .invalidValue => "a value is missing or not allowed"
  | .valueValidation => "a value is not a number"
  | .tooManyValues => "unexpected value for an option"
  | .argumentConflict => "arguments exclude each other"
  | .missingRequiredArgument => "a resource is required"

/-- The report on a command line that is not carried out. -/
def rejected : Rejection → Report
  | .displayHelp => ⟨0, usage, []⟩
  | .displayVersion => ⟨0, [productName ++ " " ++ productVersion], []⟩
  | r => ⟨2, [], ("error: " ++ complaint r) :: "" :: usage⟩

/-- The lines of a text. -/
def linesOf (text : String) : List String := (text.toList.splitOn '\n').map String.ofList

/-- The report on a command that was carried out. -/
def reportOn {σ : Type} (i : CommandLine.Invocation) (o : Session.Outcome σ) : Report :=
  let output := o.messages.flatMap fun m => linesOf (Session.printed i m)
  match o.ending with
  | .failed e => ⟨1, output, ["Error: " ++ e.message]⟩
  | _ => ⟨0, output, []⟩

/-- Runs the program on its arguments and its input. -/
def run {σ : Type} (host : Session.Host) (net : Http.Network σ) (s : σ) (moves : Nat)
    (args : List String) (input : String) : Report :=
  match CommandLine.parse args with
  | .error r => rejected r
  | .ok i => reportOn i (Session.run host net s moves i (Session.inputLines input))

end CursorPaging.Program
