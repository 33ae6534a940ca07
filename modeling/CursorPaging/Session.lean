import CursorPaging.Session.Browsing

/-!
# Sessions

Carrying out a command of the command line: what it prints, how it ends, and what it asks of the
network. `run` is a function of the command line, the computer, the network and the input.
-/

namespace CursorPaging.Session

open CommandLine (Invocation)

variable {σ : Type}

/-- The pages of a service over a network. -/
def sourceOf (net : Http.Network σ) (service : Http.ListService) : Paging.Source σ Json :=
  service.list net .ok

/-- Carries out a command on a table, unless the table cannot be opened. -/
def withTable (s : σ) (opened : Except Error (Opened σ)) (f : Opened σ → Outcome σ) : Outcome σ :=
  match opened with
  | .ok o => f o
  | .error e => ⟨[], .failed e, s⟩

/-- Carries out a command. A walk through all pages makes at most the given number of moves. -/
def run (host : Host) (net : Http.Network σ) (s : σ) (moves : Nat) (i : Invocation)
    (lines : List String) : Outcome σ :=
  match i.command with
  | .resources => ⟨[.resources], .completed, s⟩
  | .list resource query pages all =>
    withTable s (openTable host i resource query s) fun o =>
      list (sourceOf net o.service) resource (if all then none else some pages) moves o.table
  | .browse resource query =>
    withTable s (openTable host i resource query s) fun o =>
      browse (sourceOf net o.service) resource host.dateOffset o.table lines

/-- A message as it is printed. -/
def printed (i : Invocation) (m : Message) : String := i.format.render m.toJson

/-- The lines of an input. -/
def inputLines (input : String) : List String :=
  let lines := (input.toList.splitOn '\n').map String.ofList
  if lines.getLast? = some "" then lines.dropLast else lines

end CursorPaging.Session
