import CursorPaging.Http.Client
import CursorPaging.Paging.Source
import CursorPaging.Resource

/-!
# The list service

The pages of a resource, served by a console over HTTP. An error that the console puts into the
body of its answer counts more than the status of the answer.
-/

namespace CursorPaging.Http

/-- The pages of a resource, fetched by a client. -/
structure ListService where
  client : Client
  resource : Resource

namespace ListService

/-- The error of the console in the body of an error, if it has one. -/
def promote : Error → Error
  | .httpStatus status body =>
    (((Json.ofString? body).bind apiError?)).getD (.httpStatus status body)
  | e => e

/-- The page of an answer. -/
def pageOf {α : Type} (r : Resource) (item : Json → Except DecodeError α) :
    Except Error Json → Except Error (ListPage α)
  | .ok body => ListPage.ofResponse item r.itemsKey body
  | .error e => .error (promote e)

variable {σ α : Type}

/-- Fetches one page over a network. -/
def list (l : ListService) (net : Network σ) (item : Json → Except DecodeError α) :
    Paging.Source σ α := fun s request =>
  let (answer, s') := l.client.postJson net s l.resource.endpoint request.toJson
  (pageOf l.resource item answer, s')

/-- How messages show a list service; a resource goes by the key of its items. -/
def text (l : ListService) : String :=
  "ConsoleApi \x7b resource: " ++ l.resource.itemsKey ++ ", http: " ++ l.client.text ++ " \x7d"

end ListService

end CursorPaging.Http
