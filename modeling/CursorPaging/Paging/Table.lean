import CursorPaging.Paging.Source
import CursorPaging.Paging.View

/-!
# Tables

A table joins a controller with a source of pages. Every event of a table changes the controller
and then performs fetches until none is necessary, so that the table is settled afterwards.
`settle` ends because each further fetch is for the page before: the only answer that makes a fetch
necessary is an empty page, on which the controller steps back.
-/

namespace CursorPaging.Paging

namespace Controller

variable {α : Type}

/-- How many fetches may be necessary now. -/
def pending (c : Controller α) : Nat := if c.lastKey = some c.key then 0 else c.page + 1

/-- Whether one controller is another one, as far as fetches go, on the same page or the page
before it. -/
structure StepsBack (c c' : Controller α) : Prop where
  lastKey : c'.lastKey = c.lastKey
  key : c'.key = c.key ∨ (1 < c.page ∧ c'.page = c.page - 1)

theorem stepsBack_applyEmpty (c : Controller α) : StepsBack c c.applyEmpty := by
  unfold applyEmpty
  split
  · exact ⟨rfl, .inr ⟨by assumption, rfl⟩⟩
  · exact ⟨rfl, .inl rfl⟩

theorem stepsBack_learn (c : Controller α) (t : Option String) : StepsBack c (c.learn t) := by
  unfold learn
  split
  · split <;> exact ⟨rfl, .inl rfl⟩
  · exact ⟨rfl, .inl rfl⟩

theorem stepsBack_applyItems (c : Controller α) (p : ListPage α) :
    StepsBack c (c.applyItems p) := by
  have h := stepsBack_learn { c with items := p.items } p.nextToken
  unfold applyItems
  dsimp only
  split
  · exact ⟨rfl, .inl rfl⟩
  · exact ⟨h.lastKey, h.key⟩

theorem stepsBack_applyPage (c : Controller α) (p : ListPage α) : StepsBack c (c.applyPage p) := by
  have h₁ := stepsBack_applyEmpty { c with failed := false, failure := none }
  have h₂ := stepsBack_applyItems { c with failed := false, failure := none } p
  unfold applyPage
  dsimp only
  split
  · exact ⟨h₁.lastKey, h₁.key⟩
  · exact ⟨h₂.lastKey, h₂.key⟩

theorem stepsBack_applyAnswer (c : Controller α) (answer : Except Error (ListPage α)) :
    StepsBack c (c.applyAnswer answer) := by
  unfold applyAnswer
  dsimp only
  split
  · next p =>
    have h := stepsBack_applyPage { c with inFlight := none, loading := false } p
    exact ⟨h.lastKey, h.key⟩
  · exact ⟨rfl, .inl rfl⟩

theorem stepsBack_complete (c : Controller α) (g : Nat) (answer : Except Error (ListPage α)) :
    StepsBack c (c.complete g answer).2 := by
  unfold complete
  split
  · exact stepsBack_applyAnswer c answer
  · exact ⟨rfl, .inl rfl⟩

theorem pending_complete_lt {c c' : Controller α} {fetch : Fetch}
    (h : c.nextFetch = some (fetch, c')) (answer : Except Error (ListPage α)) :
    (c'.complete fetch.generation answer).2.pending < c.pending := by
  unfold nextFetch at h
  split at h
  · cases h
  · next hk =>
    simp only [Option.some.injEq, Prod.mk.injEq] at h
    obtain ⟨-, rfl⟩ := h
    have hs := stepsBack_complete c.issue fetch.generation answer
    have hp : c.pending = c.page + 1 := by simp [pending, hk]
    have hl : c.issue.lastKey = some c.key := rfl
    rw [hp]
    unfold pending
    split
    · omega
    · next hne =>
      rcases hs.key with he | ⟨hlt, hpage⟩
      · exact absurd (by rw [hs.lastKey, hl, he]; rfl) hne
      · have hi : c.issue.page = c.page := rfl
        omega

end Controller

/-- A fetch and its answer. -/
structure Exchange (α : Type) where
  fetch : Fetch
  answer : Except Error (ListPage α)

variable {σ α : Type}

/-- What is there after fetches: the controller, the source, and the fetches in order. -/
structure Settled (σ α : Type) where
  controller : Controller α
  source : σ
  exchanges : List (Exchange α)

/-- Performs fetches until none is necessary. -/
def settle (source : Source σ α) (c : Controller α) (s : σ) : Settled σ α :=
  match _h : c.nextFetch with
  | none => ⟨c, s, []⟩
  | some (fetch, issued) =>
    let reply := source s fetch.params.toRequest
    let rest := settle source (issued.complete fetch.generation reply.1).2 reply.2
    { rest with exchanges := ⟨fetch, reply.1⟩ :: rest.exchanges }
termination_by c.pending
decreasing_by exact Controller.pending_complete_lt _h _

/-- A table: its controller, the state of its source, what its user chose and what is offered. -/
structure Table (σ α : Type) where
  source : σ
  controller : Controller α
  preferences : Preferences
  pageSizes : PageSizes

namespace Table

/-- A table around a controller, with the default page sizes. -/
def withController (source : σ) (controller : Controller α) (preferences : Preferences) :
    Table σ α :=
  ⟨source, controller, preferences, .default⟩

/-- A table with the default preferences. -/
def new (source : σ) (sorting : Sorting) : Table σ α :=
  withController source (.new Preferences.default.pageSize sorting) .default

/-- The table with other page sizes offered. -/
def withPageSizes (t : Table σ α) (pageSizes : PageSizes) : Table σ α :=
  { t with pageSizes := pageSizes }

/-- What a user can do with a table. -/
inductive Event where
  | load
  | changePage (page : Nat)
  | nextPage
  | previousPage
  | changeSorting (sorting : Sorting)
  | changeQuery (query : FilterQuery)
  | confirmPreferences (preferences : Preferences)
  | resetPagination
  | refresh
  | itemsDeleted
  deriving DecidableEq

/-- The table after the change that an event makes before any fetch. -/
def update (t : Table σ α) : Event → Except Error (Table σ α)
  | .load => .ok t
  | .changePage page => do return { t with controller := ← t.controller.setPage page }
  | .nextPage => do return { t with controller := ← t.controller.nextPage }
  | .previousPage => do return { t with controller := ← t.controller.previousPage }
  | .changeSorting sorting => .ok { t with controller := t.controller.setSorting sorting }
  | .changeQuery query => .ok { t with controller := t.controller.setQuery query }
  | .confirmPreferences preferences => do
    preferences.check t.pageSizes
    let controller ← t.controller.setPageSize preferences.pageSize
    return { t with controller := controller, preferences := preferences }
  | .resetPagination => .ok { t with controller := t.controller.resetPagination }
  | .refresh => .ok { t with controller := t.controller.refresh }
  | .itemsDeleted => .ok { t with controller := t.controller.itemsDeleted }

/-- The table after the fetches that are necessary, and these fetches. -/
def settled (source : Source σ α) (t : Table σ α) : Table σ α × List (Exchange α) :=
  let s := settle source t.controller t.source
  ({ t with controller := s.controller, source := s.source }, s.exchanges)

/-- The table after an event, and the fetches that the event caused. -/
def handle (source : Source σ α) (t : Table σ α) (e : Event) :
    Except Error (Table σ α × List (Exchange α)) := do
  return (← t.update e).settled source

/-- The table after an event; one that is refused changes nothing. -/
def step (source : Source σ α) (t : Table σ α) (e : Event) : Table σ α :=
  match t.handle source e with
  | .ok (t', _) => t'
  | .error _ => t

/-- Moves forward while the end is open, at most the given number of times: the table afterwards,
the fetches of each move, and the error that ended the walk if one did. -/
def walk (source : Source σ α) : Nat → Table σ α →
    Table σ α × List (List (Exchange α)) × Option Error
  | 0, t => (t, [], none)
  | n + 1, t =>
    if t.controller.openEnd then
      match t.handle source .nextPage with
      | .error e => (t, [], some e)
      | .ok (t', exchanges) =>
        let (t'', moves, failure) := walk source n t'
        (t'', exchanges :: moves, failure)
    else (t, [], none)

end Table

end CursorPaging.Paging
