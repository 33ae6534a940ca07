import CursorPaging.Listing

/-!
# Fetches

A fetch is what a controller asks to be done: everything that determines a page, under the number
of the fetch. `FetchKey` holds the part of it whose change makes a new fetch necessary.
-/

namespace CursorPaging.Paging

/-- The page that is fetched. -/
structure PageParams where
  page : Nat
  pageSize : Nat
  nextToken : Option String
  deriving DecidableEq

/-- Everything that determines what a fetch brings. -/
structure FetchParams where
  pagination : PageParams
  sorting : Sorting
  query : FilterQuery
  refreshKey : Nat
  extraParams : Dictionary String
  deriving DecidableEq

namespace FetchParams

/-- The request for the page. -/
def toRequest (p : FetchParams) : ListRequest where
  maxResults := p.pagination.pageSize
  nextToken := p.pagination.nextToken
  sortToken := some p.sorting.toToken
  filters := p.query.grouped
  extraParams := p.extraParams

/-- The JSON form. -/
def toJson (p : FetchParams) : Json :=
  .object
    [("pagination", .object
      [("currentPageIndex", .nat p.pagination.page), ("pageSize", .nat p.pagination.pageSize),
       ("nextToken", .optional p.pagination.nextToken)]),
     ("sorting", p.sorting.toJson),
     ("filtering", p.query.toJson),
     ("refreshKey", .nat p.refreshKey),
     ("extraParams", .obj (p.extraParams.entries.map fun (k, v) => (k, .str v)))]

end FetchParams

/-- A fetch under its number. -/
structure Fetch where
  generation : Nat
  params : FetchParams
  deriving DecidableEq

/-- What makes a new fetch necessary when it changes. -/
structure FetchKey where
  page : Nat
  sorting : Sorting
  query : FilterQuery
  refreshKey : Nat
  deriving DecidableEq

end CursorPaging.Paging
