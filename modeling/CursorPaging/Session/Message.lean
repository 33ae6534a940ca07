import CursorPaging.Paging.View
import CursorPaging.Resource

/-!
# Messages

What the program tells its user: rows, pages, a summary, errors and the catalogue of resources,
each as one JSON object with its kind under `type`.
-/

namespace CursorPaging.Session

/-- What is told of a page besides its rows. -/
structure PageReport where
  pagination : Paging.PaginationView
  items : Nat
  totalCount : Nat
  counter : String
  failure : Option String

/-- A message. -/
inductive Message where
  /-- The catalogue of resources. -/
  | resources
  /-- A row of a page. -/
  | record (resource : Resource) (page : Nat) (item : Json)
  | page (resource : Resource) (report : PageReport)
  /-- The end of a list: how many pages and rows were printed. -/
  | summary (resource : Resource) (pages records totalCount : Nat) (counter : String)
  | error (text : String)

namespace Message

/-- What the catalogue says of a resource. -/
def catalogueEntry (r : Resource) : Json :=
  .object
    [("name", .str r.name), ("endpoint", .str r.endpoint), ("items_key", .str r.itemsKey),
     ("default_sort", .str r.defaultSortColumn), ("properties", .strings r.filterProperties),
     ("date_properties", .strings (r.filterProperties.filter r.isDate))]

/-- The JSON form of a message. -/
def toJson : Message → Json
  | .resources =>
    .object [("type", .str "RESOURCES"), ("resources", .arr (Resource.all.map catalogueEntry))]
  | .record resource number item =>
    .object
      [("type", .str "RECORD"), ("resource", .str resource.name), ("page", .nat number),
       ("record", item)]
  | .page resource report =>
    .object
      [("type", .str "PAGE"), ("resource", .str resource.name),
       ("pagination", report.pagination.toJson), ("items", .nat report.items),
       ("total_count", .nat report.totalCount), ("counter", .str report.counter),
       ("error", .optional report.failure)]
  | .summary resource pages records totalCount counter =>
    .object
      [("type", .str "SUMMARY"), ("resource", .str resource.name), ("pages", .nat pages),
       ("records", .nat records), ("total_count", .nat totalCount), ("counter", .str counter)]
  | .error text => .object [("type", .str "ERROR"), ("message", .str text)]

/-- What is told of the current page of a table. -/
def report (c : Paging.Controller Json) : PageReport :=
  ⟨c.paginationView, c.items.length, c.totalCount, c.counter, c.failure⟩

/-- The messages that show the current page of a table: its rows, and then the page. -/
def ofPage (resource : Resource) (c : Paging.Controller Json) : List Message :=
  c.items.map (.record resource c.page) ++ [.page resource (report c)]

end Message

end CursorPaging.Session
