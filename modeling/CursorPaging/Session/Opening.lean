import CursorPaging.CommandLine.Options
import CursorPaging.Config
import CursorPaging.Http.ListService
import CursorPaging.Paging.Table
import CursorPaging.Query.Builder

/-!
# Opening a table

A command that shows a table first needs the configuration, in which options of the command line
count more than the configuration file, then the client, and then a table on the resource it names.
`openTable` refuses a command for the first of these that fails.
-/

namespace CursorPaging.Session

open CommandLine (Invocation QueryOptions)

/-- What a command can learn of the computer it runs on. -/
structure Host where
  env : Environment
  files : Files
  /-- How far local time is ahead, in seconds. -/
  dateOffset : Int

/-- The configuration that a command line names. -/
def configured (host : Host) (i : Invocation) : Except Error Config :=
  match i.config, i.baseUrl with
  | some path, _ => Config.load host.files path
  | none, some baseUrl => .ok (.ofUrl baseUrl)
  | none, none => .error (.config "No console configured (use -C <file> or --base-url)")

/-- The configuration with the options of the command line in it. -/
def override (i : Invocation) (c : Config) : Config :=
  { c with
    baseUrl := i.baseUrl.getD c.baseUrl
    accessToken := i.accessToken.or c.accessToken }

/-- The configuration of a command. -/
def configuration (host : Host) (i : Invocation) : Except Error Config := do
  let c := override i (← configured host i)
  c.check
  return c

/-- The client of a configuration. -/
def clientOf (host : Host) (c : Config) : Except Error Http.Client := do
  Http.Client.ofSettings (← c.httpSettings host.env)

/-- The order that options ask for. -/
def sortingOf (resource : Resource) (q : QueryOptions) : Sorting :=
  ⟨q.sort.getD resource.defaultSortColumn, q.desc⟩

/-- The page size that options ask for. -/
def pageSizeOf (c : Config) (q : QueryOptions) : Except Error Nat :=
  let size := q.pageSize.getD c.pageSize
  if size = 0 then .error (.invalidValue "page_size" Config.mustBePositive) else .ok size

/-- A service and a table on it. -/
structure Opened (σ : Type) where
  service : Http.ListService
  table : Paging.Table σ Json

/-- The table that a command shows, over the network in the given state. -/
def openTable {σ : Type} (host : Host) (i : Invocation) (resource : Resource) (q : QueryOptions)
    (s : σ) : Except Error (Opened σ) := do
  let config ← configuration host i
  let client ← clientOf host config
  let query ← Query.ofExpressions resource host.dateOffset q.filters q.or
  let pageSize ← pageSizeOf config q
  let params ← CommandLine.parseParams .empty q.params
  let controller :=
    ((Paging.Controller.new pageSize (sortingOf resource q)).withQuery query).withExtraParams params
  let table := Paging.Table.withController s controller (Preferences.default.withPageSize pageSize)
  return ⟨⟨client, resource⟩, table.withPageSizes config.pageSizes⟩

end CursorPaging.Session
