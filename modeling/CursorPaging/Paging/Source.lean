import CursorPaging.Listing

/-!
# Sources of pages

A source answers requests for pages, and may change with every answer. Three of them need no
network: a script of answers, a list kept in memory whose tokens are positions in it, and any
source while it is out of order.
-/

namespace CursorPaging.Paging

/-- A source with states `σ` and items `α`: the answer to a request, and the state after it. -/
abbrev Source (σ α : Type) := σ → ListRequest → Except Error (ListPage α) × σ

namespace Source

variable {σ α : Type}

/-- The error of a script without answers left. -/
def scriptExhausted : Error := .other "script exhausted"

/-- Gives the answers of a list in order. -/
def script : Source (List (Except Error (ListPage α))) α
  | [], _ => (.error scriptExhausted, [])
  | answer :: rest, _ => (answer, rest)

/-- The source while it is out of order: as long as there is an error, every answer is that error
and the source stays as it is. -/
def interruptible (source : Source σ α) : Source (Option Error × σ) α
  | (some e, s), _ => (.error e, (some e, s))
  | (none, s), request =>
    let (answer, s') := source s request
    (answer, (none, s'))

/-- The source that keeps the requests it answered, the latest first. -/
def recording (source : Source σ α) : Source (List ListRequest × σ) α := fun (log, s) request =>
  let (answer, s') := source s request
  (answer, (request :: log, s'))

end Source

/-- A list kept in memory. -/
structure Memory (α : Type) where
  items : List α
  /-- Whether a full page always comes with a token, even if it is the last one. -/
  tokenOnFullPage : Bool

namespace Memory

variable {α : Type}

/-- The position that a token stands for; a request without token is for the start. -/
def offset : Option String → Nat
  | some token => (Text.unsigned? token).getD 0
  | none => 0

/-- The page of a request. -/
def page (m : Memory α) (request : ListRequest) : ListPage α :=
  let offset := offset request.nextToken
  let stop := min (offset + request.maxResults) m.items.length
  let items := (m.items.take stop).drop offset
  let more := stop < m.items.length ∨ (m.tokenOnFullPage ∧ items.length = request.maxResults)
  ⟨items, if more then some (Text.decimal stop) else none⟩

/-- The list as a source. -/
def source : Source (Memory α) α := fun m request => (.ok (m.page request), m)

end Memory

end CursorPaging.Paging
