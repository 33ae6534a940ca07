import CursorPaging.CommandLine.BrowseCommand
import CursorPaging.Session.Listing

/-!
# Browsing

The dialogue in which a user moves in a table by commands. Every command that is carried out shows
the current page; one that is refused leaves the table as it is, and its error is shown. The
dialogue ends with the input or with the command to quit.
-/

namespace CursorPaging.Session

open CommandLine (BrowseCommand)

variable {σ : Type}

/-- The event of a table that a command stands for; the command to quit stands for none. -/
def eventOf (resource : Resource) (dateOffset : Int) (table : Paging.Table σ Json) :
    BrowseCommand → Except Error (Option Paging.Table.Event)
  | .next => .ok (some .nextPage)
  | .previous => .ok (some .previousPage)
  | .go page => .ok (some (.changePage page))
  | .refresh => .ok (some .refresh)
  | .deleted => .ok (some .itemsDeleted)
  | .sort column descending => .ok (some (.changeSorting ⟨column, descending⟩))
  | .filter expressions => do
    let or := table.controller.query.operation = .or
    let query ← Query.ofExpressions resource dateOffset expressions or
    return some (.changeQuery query)
  | .pageSize size => .ok (some (.confirmPreferences (table.preferences.withPageSize size)))
  | .quit => .ok none

/-- The table after a command. -/
def apply (source : Paging.Source σ Json) (resource : Resource) (dateOffset : Int)
    (table : Paging.Table σ Json) (command : BrowseCommand) :
    Except Error (Paging.Table σ Json) := do
  match ← eventOf resource dateOffset table command with
  | some event => return (← table.handle source event).1
  | none => return table

/-- What a line of the input leads to. -/
inductive Reaction (σ : Type) where
  | quit
  /-- The messages that are shown, and the table afterwards. -/
  | goOn (messages : List Message) (table : Paging.Table σ Json)

/-- Reacts to a line of the input. -/
def react (source : Paging.Source σ Json) (resource : Resource) (dateOffset : Int)
    (table : Paging.Table σ Json) (line : String) : Reaction σ :=
  match BrowseCommand.parse line with
  | .ok none => .goOn [] table
  | .ok (some .quit) => .quit
  | .ok (some command) =>
    match apply source resource dateOffset table command with
    | .ok table' => .goOn (Message.ofPage resource table'.controller) table'
    | .error e => .goOn [.error e.message] table
  | .error e => .goOn [.error e.message] table

/-- Reacts to the lines of the input, up to the command to quit. -/
def dialogue (source : Paging.Source σ Json) (resource : Resource) (dateOffset : Int)
    (table : Paging.Table σ Json) : List String → Outcome σ
  | [] => ⟨[], .completed, table.source⟩
  | line :: rest =>
    match react source resource dateOffset table line with
    | .quit => ⟨[], .completed, table.source⟩
    | .goOn messages table' =>
      let later := dialogue source resource dateOffset table' rest
      { later with messages := messages ++ later.messages }

/-- Loads a table, shows it, and reacts to the lines of the input. -/
def browse (source : Paging.Source σ Json) (resource : Resource) (dateOffset : Int)
    (table : Paging.Table σ Json) (lines : List String) : Outcome σ :=
  let table := (table.settled source).1
  let later := dialogue source resource dateOffset table lines
  { later with messages := Message.ofPage resource table.controller ++ later.messages }

end CursorPaging.Session
