import CursorPaging.Proofs.Paging.Tokens

/-!
# Starting the list anew

After a reset, another page size or another query, the first page is to be fetched once more
(`Restart`). On the first page a restart raises the refresh key, elsewhere it relies on the page
number to differ from that of the last fetch. That fetch may have been for the first page as well,
if the table has left it since without a fetch (`LeftFirstPage`); then nothing is fetched:

* `Restart.step`, `WellFormed.lastKey_restarted_iff`: what a restart does to the key;
* `restart_fetches_iff`: when a restart is followed by a fetch;
* `restart_without_fetch`: one that is not.
-/

namespace CursorPaging.Paging.Controller

variable {α : Type} {c : Controller α} {e : Event α} {pageSize : Nat} {query : FilterQuery}

/-- The events that start the list anew, with the page size and the query that it then has. -/
inductive Restart (c : Controller α) : Event α → Nat → FilterQuery → Prop where
  | reset : Restart c .resetPagination c.pageSize c.query
  | resized {pageSize : Nat} (pos : 1 ≤ pageSize) (other : pageSize ≠ c.pageSize) :
    Restart c (.setPageSize pageSize) pageSize c.query
  | queried {query : FilterQuery} (other : query ≠ c.query) :
    Restart c (.setQuery query) c.pageSize query

/-- The controller asks for the first page, and for nothing after that. -/
def FetchesFirstPage (c : Controller α) (pageSize : Nat) (query : FilterQuery) : Prop :=
  ∃ f c', c.nextFetch = some (f, c') ∧ f.params.pagination = ⟨1, pageSize, none⟩ ∧
    f.params.query = query ∧ c'.nextFetch = none

/-- The last fetch of a run was for the first page, with the given query and all else as it is now,
and the controller is on another page. -/
def LeftFirstPage (c : Controller α) (es : List (Event α)) (query : FilterQuery) : Prop :=
  (c.run es).page ≠ 1 ∧ ∃ f, (c.fetches es).getLast? = some f ∧
    f.key = { (c.run es).key with page := 1, query := query }

/-- The controller after a restart. -/
def restarted (c : Controller α) (pageSize : Nat) (query : FilterQuery) : Controller α :=
  { c with pageSize := pageSize, query := query }.resetPagination

theorem Restart.step (h : Restart c e pageSize query) : c.step e = c.restarted pageSize query := by
  cases h with
  | reset => rfl
  | resized pos other =>
    have hpos : pageSize ≠ 0 := by omega
    simp only [Controller.step, setPageSize, hpos, other, if_false, orSame, restarted]
  | queried other => simp only [Controller.step, setQuery, other, if_false, restarted]

theorem nextFetch_eq_none_iff : c.nextFetch = none ↔ c.lastKey = some c.key := by
  simp only [nextFetch, ite_eq_left_iff, reduceCtorEq, imp_false, Classical.not_not]

theorem fetchesFirstPage_iff :
    FetchesFirstPage (c.restarted pageSize query) pageSize query ↔
      (c.restarted pageSize query).lastKey ≠ some (c.restarted pageSize query).key := by
  constructor
  · rintro ⟨f, c', hn, -⟩ hk
    rw [nextFetch_eq_none_iff.mpr hk] at hn
    cases hn
  · intro hk
    refine ⟨_, _, if_neg hk, rfl, rfl, ?_⟩
    exact nextFetch_eq_none_iff.mpr rfl

/-- On the first page the refresh key sets the restarted list apart, and no fetch is ahead of it. -/
theorem WellFormed.lastKey_restarted_iff (h : WellFormed c) :
    (c.restarted pageSize query).lastKey = some (c.restarted pageSize query).key ↔
      c.page ≠ 1 ∧ c.lastKey = some { c.key with page := 1, query := query } := by
  show c.lastKey = some ⟨1, c.sorting, query, if c.page = 1 then c.refreshKey + 1 else c.refreshKey⟩
    ↔ c.page ≠ 1 ∧ c.lastKey = some ⟨1, c.sorting, query, c.refreshKey⟩
  by_cases hp : c.page = 1
  · rw [if_pos hp]
    exact ⟨fun hk => absurd hk (h.lastKey_ne (Nat.lt_succ_self _)), fun hk => absurd hp hk.1⟩
  · rw [if_neg hp]
    exact ⟨fun hk => ⟨hp, hk⟩, fun hk => hk.2⟩

theorem Initial.leftFirstPage_iff (hc : Initial c) (es : List (Event α)) :
    LeftFirstPage c es query ↔
      (c.run es).page ≠ 1 ∧
        (c.run es).lastKey = some { (c.run es).key with page := 1, query := query } := by
  rw [LeftFirstPage, lastKey_run hc, Option.map_eq_some_iff]

/-- Another query than that of the last fetch is met on the first page only. -/
theorem Initial.query_of_leftFirstPage (hc : Initial c) {es : List (Event α)}
    (h : LeftFirstPage c es query) : query = (c.run es).query := by
  obtain ⟨hp, hk⟩ := (hc.leftFirstPage_iff es).mp h
  have hwf := hc.wellFormed_run es
  by_contra hq
  have hlen := hc.length_pageTokens es hk hq
  have hpos := hwf.page_pos
  have hle := hwf.page_le
  omega

/-- After an event that starts the list anew, the first page is fetched, without a token and with
the new page size and query, and nothing else is; unless the last fetch was for the first page and
nothing but the page has changed since, when no fetch is due at all. A change of the query is always
followed by the fetch. -/
theorem restart_fetches_iff (size : Nat) (sorting : Sorting) (first : FilterQuery)
    (params : Dictionary String) (es : List (Event α))
    (restart : Restart ((start size sorting first params).run es) e pageSize query) :
    let c := start size sorting first params
    let now := (c.run es).step e
    (FetchesFirstPage now pageSize query ↔ ¬LeftFirstPage c es query) ∧
      (LeftFirstPage c es query → now.nextFetch = none) ∧
      (query ≠ (c.run es).query → FetchesFirstPage now pageSize query) := by
  intro c now
  have hc : Initial c := initial_start size sorting first params
  have hnow : now = (c.run es).restarted pageSize query := restart.step
  have hkey : now.lastKey = some now.key ↔ LeftFirstPage c es query := by
    rw [hnow, (hc.wellFormed_run es).lastKey_restarted_iff, hc.leftFirstPage_iff]
  have hiff : FetchesFirstPage now pageSize query ↔ ¬LeftFirstPage c es query := by
    rw [← hkey, hnow]; exact fetchesFirstPage_iff
  refine ⟨hiff, fun h => nextFetch_eq_none_iff.mpr (hkey.mpr h), fun hq => hiff.mpr fun h => ?_⟩
  exact hq (hc.query_of_leftFirstPage h)

/-- The page size changes while the second page is being fetched. -/
theorem restart_fetches_on_second_page :
    let c : Controller Nat := start 20 ⟨"Name", false⟩ .empty .empty
    let es : List (Event Nat) :=
      [.nextFetch, .complete 1 (.ok ⟨[1, 2], some "t"⟩), .nextPage, .nextFetch]
    let now := (c.run es).step (.setPageSize 50)
    Restart (c.run es) (.setPageSize 50) 50 .empty ∧
      (FetchesFirstPage now 50 .empty ↔ ¬LeftFirstPage c es .empty) ∧
      (LeftFirstPage c es .empty → now.nextFetch = none) ∧
      (.empty ≠ (c.run es).query → FetchesFirstPage now 50 .empty) :=
  have h : Restart _ (.setPageSize 50) 50 .empty := .resized (by decide) (by decide)
  ⟨h, restart_fetches_iff 20 ⟨"Name", false⟩ .empty .empty _ h⟩

/-- The page size changes on the second page before that is fetched: the table shows the first page
in the old size, and no fetch is due. -/
theorem restart_without_fetch :
    let c : Controller Nat := start 20 ⟨"Name", false⟩ .empty .empty
    let es : List (Event Nat) :=
      [.nextFetch, .complete 1 (.ok ⟨[1, 2], some "t"⟩), .nextPage]
    Restart (c.run es) (.setPageSize 50) 50 .empty ∧
      ((c.run es).step (.setPageSize 50)).nextFetch = none := by
  refine ⟨.resized (by decide) (by decide), ?_⟩
  rw [nextFetch_eq_none_iff]
  decide

end CursorPaging.Paging.Controller
