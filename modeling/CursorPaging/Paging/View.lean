import CursorPaging.Paging.Controller

/-!
# Views of a table

What a table shows of its controller: the state of the page buttons, the counter above the rows,
and the values that a display needs.
-/

namespace CursorPaging.Paging

/-- The state of the page buttons. -/
structure PaginationView where
  page : Nat
  pagesCount : Nat
  openEnd : Bool
  /-- Pages cannot be changed while one is being fetched. -/
  disabled : Bool
  deriving DecidableEq

/-- The JSON form. -/
def PaginationView.toJson (v : PaginationView) : Json :=
  .object
    [("currentPageIndex", .nat v.page), ("pagesCount", .nat v.pagesCount),
     ("openEnd", .bool v.openEnd), ("disabled", .bool v.disabled)]

namespace Controller

variable {α : Type}

/-- The state of the page buttons. -/
def paginationView (c : Controller α) : PaginationView :=
  ⟨c.page, c.pagesCount, c.openEnd, c.loading⟩

/-- The counter above the rows, with a plus sign while there may be more of them. -/
def counter (c : Controller α) : String :=
  "(" ++ Text.decimal c.totalCount ++ (if c.openEnd then "+)" else ")")

/-- The JSON form of what a display needs, given that of an item. -/
def viewJson (item : α → Json) (c : Controller α) : Json :=
  .object
    [("items", .arr (c.items.map item)), ("loading", .bool c.loading),
     ("totalCount", .nat c.totalCount), ("pagesCount", .nat c.pagesCount),
     ("currentPageIndex", .nat c.page), ("nextToken", .optional c.currentToken),
     ("error", .bool c.failed), ("errorMessage", .optional c.failure),
     ("openEnd", .bool c.openEnd)]

end Controller

end CursorPaging.Paging
