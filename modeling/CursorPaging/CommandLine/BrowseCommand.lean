import CursorPaging.Error
import CursorPaging.Text.Digits
import CursorPaging.Text.Blank

/-!
# Browse commands

The commands that a user types to move in a table: a keyword and its arguments, separated by
blanks. A blank line is no command.
-/

namespace CursorPaging.CommandLine

/-- A command to move in a table. -/
inductive BrowseCommand where
  | next
  | previous
  | go (page : Nat)
  | refresh
  /-- Rows were deleted. -/
  | deleted
  | sort (column : String) (descending : Bool)
  | filter (expressions : List String)
  | pageSize (size : Nat)
  | quit
  deriving DecidableEq

namespace BrowseCommand

/-- The number that a word stands for. -/
def parseNumber (word : String) : Except Error Nat :=
  match Text.unsigned? word with
  | some n => .ok n
  | none => .error (.other ("Expected a number, got '" ++ word ++ "'"))

/-- The command of words, unless they are none. -/
def ofWords : List String → Option (Except Error BrowseCommand)
  | ["n"] | ["next"] => some (.ok .next)
  | ["p"] | ["prev"] => some (.ok .previous)
  | ["g", page] | ["go", page] => some (.go <$> parseNumber page)
  | ["r"] | ["refresh"] => some (.ok .refresh)
  | ["d"] | ["deleted"] => some (.ok .deleted)
  | ["s", column] | ["sort", column] => some (.ok (.sort column false))
  | ["s", column, "desc"] | ["sort", column, "desc"] => some (.ok (.sort column true))
  | ["s", column, "asc"] | ["sort", column, "asc"] => some (.ok (.sort column false))
  | "f" :: expressions | "filter" :: expressions => some (.ok (.filter expressions))
  | ["size", size] => some (.pageSize <$> parseNumber size)
  | ["q"] | ["quit"] => some (.ok .quit)
  | _ => none

/-- The error for a line that is no command. -/
def unknown (line : String) : Error := .other ("Unknown command: " ++ Text.trimmed line)

/-- The command of a line; a blank line has none. -/
def parse (line : String) : Except Error (Option BrowseCommand) :=
  match Text.wordsOf line with
  | [] => .ok none
  | words =>
    match ofWords words with
    | some command => some <$> command
    | none => .error (unknown line)

end BrowseCommand

end CursorPaging.CommandLine
