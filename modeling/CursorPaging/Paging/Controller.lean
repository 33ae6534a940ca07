import CursorPaging.Paging.Fetch
import CursorPaging.Preferences
import CursorPaging.Text.Digits

/-!
# The pagination controller

A list is handed out page by page: each response holds the token of the page after it, and no
other. The controller turns this into numbered pages. It remembers the token of every page it has
seen, so that `pageTokens` at place `i` fetches page `i + 1`; the first page has no token. How many
pages there are is found out one page at a time, and until a response without token arrives the end
is open.

The controller performs no fetch itself. `nextFetch` says what is to be fetched, `complete` takes
the answer, and the other operations are the events of a table. An answer counts only if it is that
of the fetch in flight and nothing that makes a new fetch necessary has happened since.
-/

namespace CursorPaging.Paging

/-- The state of a table that is fetched page by page. -/
structure Controller (α : Type) where
  pageSize : Nat
  sorting : Sorting
  query : FilterQuery
  extraParams : Dictionary String
  /-- The tokens of the known pages, in order. -/
  pageTokens : List (Option String)
  /-- The number of the current page, counted from one. -/
  page : Nat
  pagesCount : Nat
  /-- Whether there may be pages after the known ones. -/
  openEnd : Bool
  /-- The number of items on the pages up to the last known one. -/
  totalCount : Nat
  /-- Raised by one for every wish to fetch the same page again. -/
  refreshKey : Nat
  /-- The items of the page that was fetched last. -/
  items : List α
  loading : Bool
  failed : Bool
  /-- The text of the error of the last fetch. -/
  failure : Option String
  /-- The number of fetches issued. -/
  generation : Nat
  /-- The number of the fetch whose answer is awaited. -/
  inFlight : Option Nat
  /-- The key of the fetch issued last. -/
  lastKey : Option FetchKey

namespace Controller

variable {α : Type}

/-- A controller on the first page, before its first fetch; a page size of zero becomes the default
one. -/
def new (pageSize : Nat) (sorting : Sorting) : Controller α where
  pageSize := if pageSize = 0 then defaultPageSize else pageSize
  sorting := sorting
  query := .empty
  extraParams := .empty
  pageTokens := [none]
  page := 1
  pagesCount := 1
  openEnd := true
  totalCount := 0
  refreshKey := 0
  items := []
  loading := false
  failed := false
  failure := none
  generation := 0
  inFlight := none
  lastKey := none

/-- The controller with a query to start with. -/
def withQuery (c : Controller α) (query : FilterQuery) : Controller α := { c with query := query }

/-- The controller with parameters that every request sends besides. -/
def withExtraParams (c : Controller α) (params : Dictionary String) : Controller α :=
  { c with extraParams := params }

/-- The token of the current page. -/
def currentToken (c : Controller α) : Option String := (c.pageTokens[c.page - 1]?).join

/-- What makes a new fetch necessary when it changes. -/
def key (c : Controller α) : FetchKey := ⟨c.page, c.sorting, c.query, c.refreshKey⟩

/-- What a fetch of the current page brings is determined by this. -/
def params (c : Controller α) : FetchParams where
  pagination := ⟨c.page, c.pageSize, c.currentToken⟩
  sorting := c.sorting
  query := c.query
  refreshKey := c.refreshKey
  extraParams := c.extraParams

/-! ## Fetches -/

/-- The state after issuing a fetch of the current page. -/
def issue (c : Controller α) : Controller α :=
  { c with
    lastKey := some c.key
    generation := c.generation + 1
    inFlight := some (c.generation + 1)
    loading := true }

/-- The fetch that is necessary, and the state after issuing it; none if nothing has changed since
the last one. A new fetch takes the place of one still in flight. -/
def nextFetch (c : Controller α) : Option (Fetch × Controller α) :=
  if c.lastKey = some c.key then none else some (⟨c.generation + 1, c.params⟩, c.issue)

/-- The number of items up to the current page, if the pages before it are full. It is computed in
words of 64 bits, and nothing checks that it fits one. -/
def countUpTo (c : Controller α) (onPage : Nat) : Nat :=
  Text.toWord ((c.page - 1) * c.pageSize + onPage)

/-- Shows an empty page: on a later page the controller steps back to the page before it and
forgets the tokens from it on, on the first page the list is empty. -/
def applyEmpty (c : Controller α) : Controller α :=
  if 1 < c.page then
    { c with
      items := []
      pageTokens := c.pageTokens.take (c.page - 1)
      pagesCount := (c.pageTokens.take (c.page - 1)).length
      page := c.page - 1
      openEnd := false
      totalCount := c.countUpTo 0 }
  else
    { c with
      items := []
      pageTokens := c.pageTokens.take 1
      pagesCount := 1
      openEnd := false
      totalCount := 0 }

/-- Learns from the token that came with the last known page: the next page, or that there is
none. A closed end stays closed. -/
def learn (c : Controller α) (nextToken : Option String) : Controller α :=
  if c.openEnd then
    match nextToken with
    | none => { c with pagesCount := c.pageTokens.length, openEnd := false }
    | some t =>
      { c with pageTokens := c.pageTokens ++ [some t], pagesCount := c.pageTokens.length + 1 }
  else c

/-- Shows a page that has items. Only the last known page says something about the end, and only
if its token is not the empty text. -/
def applyItems (c : Controller α) (p : ListPage α) : Controller α :=
  let shown := { c with items := p.items }
  if c.page ≠ c.pageTokens.length ∨ p.nextToken = some "" then shown
  else { shown.learn p.nextToken with totalCount := c.countUpTo p.items.length }

/-- Shows a page. -/
def applyPage (c : Controller α) (p : ListPage α) : Controller α :=
  let c := { c with failed := false, failure := none }
  if p.items.isEmpty then c.applyEmpty else c.applyItems p

/-- Shows the answer of a fetch. -/
def applyAnswer (c : Controller α) (answer : Except Error (ListPage α)) : Controller α :=
  let c := { c with inFlight := none, loading := false }
  match answer with
  | .ok p => c.applyPage p
  | .error e => { c with failed := true, failure := some e.message }

/-- Whether an answer to the fetch of this number counts now. -/
def awaits (c : Controller α) (generation : Nat) : Bool :=
  decide (c.inFlight = some generation) && decide (c.lastKey = some c.key)

/-- Takes the answer of a fetch, and says whether it counted. -/
def complete (c : Controller α) (generation : Nat) (answer : Except Error (ListPage α)) :
    Bool × Controller α :=
  if c.awaits generation then (true, c.applyAnswer answer) else (false, c)

/-! ## Events -/

/-- Moves to a page whose token is known. -/
def setPage (c : Controller α) (page : Nat) : Except Error (Controller α) :=
  if page = 0 ∨ c.pageTokens.length < page then .error (.invalidPage page c.pageTokens.length)
  else .ok { c with page := page }

/-- Moves one page forward. -/
def nextPage (c : Controller α) : Except Error (Controller α) := c.setPage (c.page + 1)

/-- Moves one page back. -/
def previousPage (c : Controller α) : Except Error (Controller α) := c.setPage (c.page - 1)

/-- Changes the order; the known tokens are kept. -/
def setSorting (c : Controller α) (sorting : Sorting) : Controller α :=
  { c with sorting := sorting }

/-- Forgets every token and goes back to the first page, so that one fetch follows. -/
def resetPagination (c : Controller α) : Controller α :=
  { c with
    pageTokens := [none]
    openEnd := true
    totalCount := 0
    pagesCount := 1
    page := 1
    refreshKey := if c.page = 1 then c.refreshKey + 1 else c.refreshKey }

/-- Changes the query, which starts the list anew if it is another one. -/
def setQuery (c : Controller α) (query : FilterQuery) : Controller α :=
  if query = c.query then c else { c with query := query }.resetPagination

/-- Changes the page size, which starts the list anew if it is another one. -/
def setPageSize (c : Controller α) (pageSize : Nat) : Except Error (Controller α) :=
  if pageSize = 0 then .error (.invalidValue "page_size" "must be positive")
  else if pageSize = c.pageSize then .ok c
  else .ok { c with pageSize := pageSize }.resetPagination

/-- Wishes for the current page again; on the last known page the end is open again, so that new
pages can be found. -/
def refresh (c : Controller α) : Controller α :=
  { c with
    refreshKey := c.refreshKey + 1
    openEnd := if c.page = c.pageTokens.length then true else c.openEnd }

/-- Forgets the pages after the current one, some items of which were deleted, and wishes for the
current page again. -/
def itemsDeleted (c : Controller α) : Controller α :=
  { c with
    openEnd := if c.page < c.pageTokens.length then true else c.openEnd
    totalCount := c.countUpTo c.items.length
    pageTokens := c.pageTokens.take c.page
    pagesCount := (c.pageTokens.take c.page).length
    refreshKey := c.refreshKey + 1 }

/-! ## Runs -/

/-- What can happen to a controller. -/
inductive Event (α : Type) where
  | nextFetch
  | complete (generation : Nat) (answer : Except Error (ListPage α))
  | setPage (page : Nat)
  | nextPage
  | previousPage
  | setPageSize (pageSize : Nat)
  | setSorting (sorting : Sorting)
  | setQuery (query : FilterQuery)
  | resetPagination
  | refresh
  | itemsDeleted

/-- The state after an operation that may be refused; a refused one changes nothing. -/
def orSame (c : Controller α) : Except Error (Controller α) → Controller α
  | .ok c' => c'
  | .error _ => c

/-- The state after an event. -/
def step (c : Controller α) : Event α → Controller α
  | .nextFetch => match c.nextFetch with
    | some (_, c') => c'
    | none => c
  | .complete g answer => (c.complete g answer).2
  | .setPage page => c.orSame (c.setPage page)
  | .nextPage => c.orSame c.nextPage
  | .previousPage => c.orSame c.previousPage
  | .setPageSize pageSize => c.orSame (c.setPageSize pageSize)
  | .setSorting sorting => c.setSorting sorting
  | .setQuery query => c.setQuery query
  | .resetPagination => c.resetPagination
  | .refresh => c.refresh
  | .itemsDeleted => c.itemsDeleted

/-- The state after a sequence of events. -/
def run (c : Controller α) (events : List (Event α)) : Controller α := events.foldl step c

/-- The states that a new controller can reach. -/
def Reachable (c : Controller α) : Prop :=
  ∃ (pageSize : Nat) (sorting : Sorting) (query : FilterQuery) (params : Dictionary String)
    (events : List (Event α)),
    c = (((new pageSize sorting).withQuery query).withExtraParams params).run events

end Controller

end CursorPaging.Paging
