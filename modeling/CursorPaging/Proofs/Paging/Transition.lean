import CursorPaging.Paging.Controller

/-!
# What an event can do to a controller

The ways in which a page changes a controller (`Shows`) and in which an event does (`Transition`),
each with the conditions under which it happens. Proofs about controllers go through these cases
and open neither `applyPage` nor `step`:

* `shows_applyPage`, `transition_step`: the cases are complete;
* `Shows.keeps`: what no page changes;
* `run_append`, `run_induction`: runs, event by event.
-/

namespace CursorPaging.Paging.Controller

variable {α : Type}

/-- The controller once the answer of the fetch in flight is there. -/
def landed (c : Controller α) : Controller α := { c with inFlight := none, loading := false }

/-- The controller with the items of a page and without an error. -/
def showing (c : Controller α) (items : List α) : Controller α :=
  { c with items := items, failed := false, failure := none }

/-! ## Pages -/

/-- The ways in which a page changes a controller. -/
inductive Shows (c : Controller α) (p : ListPage α) : Controller α → Prop where
  /-- An empty page after the first one is given up, with the tokens from it on. -/
  | back (empty : p.items = []) (later : 1 < c.page) :
    Shows c p
      { c.showing [] with
        pageTokens := c.pageTokens.take (c.page - 1)
        pagesCount := (c.pageTokens.take (c.page - 1)).length
        page := c.page - 1
        openEnd := false
        totalCount := c.countUpTo 0 }
  /-- An empty first page is an empty list. -/
  | void (empty : p.items = []) (first : c.page ≤ 1) :
    Shows c p
      { c.showing [] with
        pageTokens := c.pageTokens.take 1
        pagesCount := 1
        openEnd := false
        totalCount := 0 }
  /-- A page before the last known one says nothing about the end, nor does the empty token. -/
  | inside (full : p.items ≠ [])
      (silent : c.page ≠ c.pageTokens.length ∨ p.nextToken = some "") :
    Shows c p (c.showing p.items)
  /-- The last known page of a list whose end is known. -/
  | counted (full : p.items ≠ []) (last : c.page = c.pageTokens.length)
      (token : p.nextToken ≠ some "") (ended : c.openEnd = false) :
    Shows c p
      { c.showing p.items with totalCount := c.countUpTo p.items.length }
  /-- The last known page has no page after it. -/
  | ended (full : p.items ≠ []) (last : c.page = c.pageTokens.length)
      (token : p.nextToken = none) (opened : c.openEnd = true) :
    Shows c p
      { c.showing p.items with
        pagesCount := c.pageTokens.length
        openEnd := false
        totalCount := c.countUpTo p.items.length }
  /-- The last known page has a page after it. -/
  | grown (t : String) (full : p.items ≠ []) (last : c.page = c.pageTokens.length)
      (token : p.nextToken = some t) (resolved : t ≠ "") (opened : c.openEnd = true) :
    Shows c p
      { c.showing p.items with
        pageTokens := c.pageTokens ++ [some t]
        pagesCount := c.pageTokens.length + 1
        totalCount := c.countUpTo p.items.length }

/-- Every page changes a controller in one of these ways. -/
theorem shows_applyPage (c : Controller α) (p : ListPage α) : Shows c p (c.applyPage p) := by
  obtain ⟨items, nextToken⟩ := p
  cases items with
  | nil =>
    simp only [applyPage, List.isEmpty_nil, applyEmpty, if_true]
    split
    · exact .back rfl (by assumption)
    · exact .void rfl (by omega)
  | cons x xs =>
    simp only [applyPage, List.isEmpty_cons, applyItems, Bool.false_eq_true, if_false]
    split
    · exact .inside (by simp) (by assumption)
    · rename_i hs
      obtain ⟨hl, ht⟩ := not_or.mp hs
      have hl := Classical.not_not.mp hl
      simp only [learn]
      split
      · rename_i ho
        cases nextToken with
        | none => exact .ended (by simp) hl rfl ho
        | some t => exact .grown t (by simp) hl rfl (fun e => ht (by rw [e])) ho
      · rename_i ho
        exact .counted (by simp) hl ht (by simpa using ho)

/-- What no page changes. -/
structure Keeps (c c' : Controller α) : Prop where
  pageSize : c'.pageSize = c.pageSize
  sorting : c'.sorting = c.sorting
  query : c'.query = c.query
  extraParams : c'.extraParams = c.extraParams
  refreshKey : c'.refreshKey = c.refreshKey
  loading : c'.loading = c.loading
  generation : c'.generation = c.generation
  inFlight : c'.inFlight = c.inFlight
  lastKey : c'.lastKey = c.lastKey

/-- What a fetch is made of and what is remembered of it does not depend on its answer. -/
theorem Shows.keeps {c c' : Controller α} {p : ListPage α} (h : Shows c p c') : Keeps c c' := by
  cases h <;> exact ⟨rfl, rfl, rfl, rfl, rfl, rfl, rfl, rfl, rfl⟩

/-! ## Events -/

/-- The page that an event moves to, if it is a move. -/
def target (c : Controller α) : Event α → Option Nat
  | .setPage page => some page
  | .nextPage => some (c.page + 1)
  | .previousPage => some (c.page - 1)
  | _ => none

/-- The ways in which an event changes a controller. -/
inductive Transition (c : Controller α) : Event α → Controller α → Prop where
  | idle (fetched : c.lastKey = some c.key) : Transition c .nextFetch c
  | issued (due : c.lastKey ≠ some c.key) : Transition c .nextFetch c.issue
  /-- The answer of another fetch than the one in flight, or of one that has been overtaken. -/
  | ignored {g : Nat} {answer : Except Error (ListPage α)}
      (stale : c.inFlight = some g → c.lastKey ≠ some c.key) :
    Transition c (.complete g answer) c
  | broken {g : Nat} {e : Error} (awaited : c.inFlight = some g)
      (current : c.lastKey = some c.key) :
    Transition c (.complete g (.error e))
      { c.landed with failed := true, failure := some e.message }
  | shown {g : Nat} {p : ListPage α} {c' : Controller α} (awaited : c.inFlight = some g)
      (current : c.lastKey = some c.key) (shows : Shows c.landed p c') :
    Transition c (.complete g (.ok p)) c'
  | moved {e : Event α} {page : Nat} (move : c.target e = some page) (pos : 1 ≤ page)
      (known : page ≤ c.pageTokens.length) : Transition c e { c with page := page }
  | unmoved {e : Event α} {page : Nat} (move : c.target e = some page)
      (unknown : page = 0 ∨ c.pageTokens.length < page) : Transition c e c
  | sorted (sorting : Sorting) : Transition c (.setSorting sorting) { c with sorting := sorting }
  | sameQuery : Transition c (.setQuery c.query) c
  | queried {query : FilterQuery} (other : query ≠ c.query) :
    Transition c (.setQuery query) { c with query := query }.resetPagination
  | sameSize {pageSize : Nat} (same : pageSize = 0 ∨ pageSize = c.pageSize) :
    Transition c (.setPageSize pageSize) c
  | resized {pageSize : Nat} (pos : 1 ≤ pageSize) (other : pageSize ≠ c.pageSize) :
    Transition c (.setPageSize pageSize) { c with pageSize := pageSize }.resetPagination
  | reset : Transition c .resetPagination c.resetPagination
  | refreshed : Transition c .refresh c.refresh
  | deleted : Transition c .itemsDeleted c.itemsDeleted

theorem awaits_iff {c : Controller α} {g : Nat} :
    c.awaits g = true ↔ c.inFlight = some g ∧ c.lastKey = some c.key := by
  simp [awaits]

theorem awaits_of_complete {c : Controller α} {g : Nat} {answer : Except Error (ListPage α)}
    (h : (c.complete g answer).1 = true) : c.awaits g = true := by
  unfold complete at h
  split at h
  · assumption
  · cases h

theorem complete_of_stale {c : Controller α} {g : Nat} (answer : Except Error (ListPage α))
    (h : c.inFlight = some g → c.lastKey ≠ some c.key) : c.complete g answer = (false, c) := by
  have ha : ¬c.awaits g = true := fun ha => h (awaits_iff.mp ha).1 (awaits_iff.mp ha).2
  simp only [complete, ha, if_false, Bool.false_eq_true]

theorem complete_of_current {c : Controller α} {g : Nat} (answer : Except Error (ListPage α))
    (hf : c.inFlight = some g) (hk : c.lastKey = some c.key) :
    c.complete g answer = (true, c.applyAnswer answer) := by
  simp only [complete, awaits_iff.mpr ⟨hf, hk⟩, if_true]

theorem inFlight_applyAnswer (c : Controller α) (answer : Except Error (ListPage α)) :
    (c.applyAnswer answer).inFlight = none := by
  cases answer with
  | error e => rfl
  | ok p => exact (shows_applyPage c.landed p).keeps.inFlight

/-- An answer is ignored, or it is an error, or a page is shown. -/
theorem transition_complete (c : Controller α) (g : Nat) (answer : Except Error (ListPage α)) :
    Transition c (.complete g answer) (c.complete g answer).2 := by
  unfold complete
  split
  · rename_i h
    obtain ⟨hf, hk⟩ := awaits_iff.mp h
    cases answer with
    | error e => exact .broken hf hk
    | ok p => exact .shown hf hk (shows_applyPage c.landed p)
  · rename_i h
    exact .ignored fun hf hk => h (awaits_iff.mpr ⟨hf, hk⟩)

theorem transition_setPage {c : Controller α} {e : Event α} {page : Nat}
    (h : c.target e = some page) : Transition c e (c.orSame (c.setPage page)) := by
  unfold setPage
  split
  · exact .unmoved h (by assumption)
  · exact .moved h (by omega) (by omega)

/-- Every event changes a controller in one of these ways. -/
theorem transition_step (c : Controller α) (e : Event α) : Transition c e (c.step e) := by
  cases e with
  | nextFetch =>
    simp only [step, nextFetch]
    by_cases h : c.lastKey = some c.key
    · simp only [h, if_true]; exact .idle h
    · simp only [h, if_false]; exact .issued h
  | complete g answer => exact transition_complete c g answer
  | setPage page => exact transition_setPage rfl
  | nextPage => exact transition_setPage rfl
  | previousPage => exact transition_setPage rfl
  | setPageSize pageSize =>
    simp only [step, setPageSize]
    split
    · exact .sameSize (.inl (by assumption))
    · split
      · exact .sameSize (.inr (by assumption))
      · exact .resized (by omega) (by assumption)
  | setSorting sorting => exact .sorted sorting
  | setQuery query =>
    simp only [step, setQuery]
    split
    · rename_i h
      rw [h]; exact .sameQuery
    · exact .queried (by assumption)
  | resetPagination => exact .reset
  | refresh => exact .refreshed
  | itemsDeleted => exact .deleted

/-! ## Runs -/

@[simp] theorem run_nil (c : Controller α) : c.run [] = c := rfl

@[simp] theorem run_cons (c : Controller α) (e : Event α) (es : List (Event α)) :
    c.run (e :: es) = (c.step e).run es := rfl

theorem run_append (c : Controller α) (es es' : List (Event α)) :
    c.run (es ++ es') = (c.run es).run es' := List.foldl_append

theorem run_concat (c : Controller α) (es : List (Event α)) (e : Event α) :
    c.run (es ++ [e]) = (c.run es).step e := run_append c es [e]

/-- What every event keeps, every run keeps. -/
theorem run_induction {P : Controller α → Prop} (hs : ∀ c e, P c → P (c.step e)) {c : Controller α}
    (h : P c) (es : List (Event α)) : P (c.run es) := by
  induction es generalizing c with
  | nil => exact h
  | cons e es ih => exact ih (hs c e h)

end CursorPaging.Paging.Controller
