import CursorPaging.Proofs.Paging.Freshness
import CursorPaging.Proofs.Paging.Settling

/-!
# Failures that are made up for

When a fetch fails, a refresh asks for the page again. The failure leaves a mark that the next
answer takes away, and the refresh opens the end on the last known page, which changes nothing
unless that page was known to be the last one. Showing a page does not depend on what is remembered
of fetches (`applyPage_remembering`), so that the second answer does what the first one would have
done:

* `retried_eq`: the controller after the failure and the refresh;
* `Initial.awaited`: what is left of the first request;
* `retry_makes_up`: the second answer, and when the second request is the first one again;
* `retry_other_pageSize`: one that is another.
-/

namespace CursorPaging.Paging.Controller

variable {α : Type} {c : Controller α} {g : Nat}

/-! ## Pages and the memory of fetches -/

/-- The controller with another memory of its fetches. -/
def remembering (c : Controller α) (refreshKey generation : Nat) (lastKey : Option FetchKey) :
    Controller α :=
  { c with refreshKey := refreshKey, generation := generation, lastKey := lastKey }

section Remembering

variable (c : Controller α) (refreshKey generation : Nat) (lastKey : Option FetchKey)

theorem applyEmpty_remembering :
    (c.remembering refreshKey generation lastKey).applyEmpty =
      c.applyEmpty.remembering refreshKey generation lastKey := by
  unfold applyEmpty
  rw [apply_ite fun c' => remembering c' refreshKey generation lastKey]
  rfl

theorem learn_remembering (token : Option String) :
    (c.remembering refreshKey generation lastKey).learn token =
      (c.learn token).remembering refreshKey generation lastKey := by
  unfold learn
  rw [apply_ite fun c' => remembering c' refreshKey generation lastKey]
  cases token <;> rfl

theorem applyItems_remembering (p : ListPage α) :
    (c.remembering refreshKey generation lastKey).applyItems p =
      (c.applyItems p).remembering refreshKey generation lastKey := by
  have hlearn := learn_remembering { c with items := p.items } refreshKey generation lastKey
    p.nextToken
  unfold applyItems
  rw [apply_ite fun c' => remembering c' refreshKey generation lastKey]
  exact congrArg (ite _ _) (congrArg (fun c' : Controller α =>
    { c' with totalCount := c.countUpTo p.items.length }) hlearn)

/-- What a page changes depends on nothing that is remembered of fetches. -/
theorem applyPage_remembering (p : ListPage α) :
    (c.remembering refreshKey generation lastKey).applyPage p =
      (c.applyPage p).remembering refreshKey generation lastKey := by
  unfold applyPage
  cases p.items.isEmpty with
  | true => exact applyEmpty_remembering { c with failed := false, failure := none } ..
  | false => exact applyItems_remembering { c with failed := false, failure := none } _ _ _ p

end Remembering

/-! ## The second try -/

/-- The controller once the fetch in flight has failed and the page is wished for again. -/
def retried (c : Controller α) (e : Error) : Controller α :=
  { c.landed with failed := true, failure := some e.message, refreshKey := c.refreshKey + 1 }

/-- The end is left as it is unless the last known page was known to be the last one. -/
theorem retried_eq (awaited : c.inFlight = some g) (current : c.lastKey = some c.key)
    (goesOn : c.openEnd = true ∨ c.page < c.pageTokens.length) (e : Error) :
    (c.complete g (.error e)).2.refresh = c.retried e := by
  have hend : (if c.page = c.pageTokens.length then true else c.openEnd) = c.openEnd := by
    rcases goesOn with opened | inside
    · rw [opened, ite_self]
    · rw [if_neg (Nat.ne_of_lt inside)]
  rw [complete_of_current _ awaited current]
  show { c.retried e with openEnd := if c.page = c.pageTokens.length then true else c.openEnd } = _
  rw [hend]
  rfl

theorem WellFormed.retried_due (h : WellFormed c) (e : Error) :
    (c.retried e).lastKey ≠ some (c.retried e).key :=
  h.lastKey_ne (Nat.lt_succ_self _)

/-- The second answer does what the first one would have done. -/
theorem complete_retried (awaited : c.inFlight = some g) (current : c.lastKey = some c.key)
    (e : Error) (p : ListPage α) :
    (c.retried e).issue.complete (c.generation + 1) (.ok p) =
      (true, (c.complete g (.ok p)).2.remembering (c.refreshKey + 1) (c.generation + 1)
        (some { c.key with refreshKey := c.refreshKey + 1 })) := by
  rw [complete_of_current _ awaited current]
  refine (complete_issue (c.retried e) (.ok p)).trans (Prod.ext rfl ?_)
  exact applyPage_remembering c.landed (c.refreshKey + 1) (c.generation + 1)
    (some { c.key with refreshKey := c.refreshKey + 1 }) p

/-- The fetch in flight asks for what the controller shows, but for a page size that may have
changed. -/
theorem Initial.awaited {c : Controller α} (hc : Initial c) {es : List (Event α)} {g : Nat}
    (awaited : (c.run es).inFlight = some g) (current : (c.run es).lastKey = some (c.run es).key) :
    ∃ f ∈ c.fetches es, f.generation = g ∧
      f.params = { (c.run es).params with
        pagination := { (c.run es).params.pagination with
          pageSize := f.params.pagination.pageSize } } ∧
      (f.params.pagination.pageSize = (c.run es).pageSize ↔ ¬Resizes g c es) := by
  obtain ⟨f, hl, rfl, hk⟩ := hc.exists_getLast awaited
  have hm := List.mem_of_getLast? hl
  have hkey : f.key = (c.run es).key := Option.some.inj (hk.symm.trans current)
  obtain ⟨hfit, hsame, hout⟩ := hc.fits hm awaited
  refine ⟨f, hm, rfl, hfit.params_eq (hc.wellFormed_run es) hkey, fun hs hr => ?_, hsame⟩
  have hr' : f.params.refreshKey = (c.run es).refreshKey := congrArg FetchKey.refreshKey hkey
  exact ((hout hr).resolve_left (by omega)).2 hs

/-- A failure is made up for by a refresh, as long as there may be pages after the current one: the
answer to the second fetch does all that the answer to the first one would have done, and leaves
other numbers of fetches and nothing else. The second request is the first one with the next refresh
key, unless the page size has changed while the first one was in flight. -/
theorem retry_makes_up (pageSize : Nat) (sorting : Sorting) (query : FilterQuery)
    (params : Dictionary String) (es : List (Event α)) {g : Nat}
    (awaited : ((start pageSize sorting query params).run es).inFlight = some g)
    (current : ((start pageSize sorting query params).run es).lastKey =
      some ((start pageSize sorting query params).run es).key)
    (goesOn : ((start pageSize sorting query params).run es).openEnd = true ∨
      ((start pageSize sorting query params).run es).page <
        ((start pageSize sorting query params).run es).pageTokens.length)
    (e : Error) (p : ListPage α) :
    let c := start pageSize sorting query params
    let now := c.run es
    ∃ f ∈ c.fetches es, f.generation = g ∧ (∀ f' ∈ c.fetches es, f'.generation = g → f' = f) ∧
      ∃ f' again, (now.complete g (.error e)).2.refresh.nextFetch = some (f', again) ∧
        f'.generation = g + 1 ∧
        f'.params = { f.params with
          refreshKey := f.params.refreshKey + 1
          pagination := { f.params.pagination with pageSize := now.pageSize } } ∧
        (f'.params = { f.params with refreshKey := f.params.refreshKey + 1 } ↔ ¬Resizes g c es) ∧
        now.complete g (.ok p) = (true, (now.complete g (.ok p)).2) ∧
        again.complete f'.generation (.ok p) =
          (true, { (now.complete g (.ok p)).2 with
            refreshKey := now.refreshKey + 1
            generation := now.generation + 1
            lastKey := some { now.key with refreshKey := now.refreshKey + 1 } }) := by
  intro c now
  have hc : Initial c := initial_start pageSize sorting query params
  have hwf : WellFormed now := hc.wellFormed_run es
  obtain ⟨f, hm, rfl, heq, hsize⟩ := hc.awaited awaited current
  have hretried := retried_eq awaited current goesOn e
  have hparams : (now.retried e).params = { f.params with
      refreshKey := f.params.refreshKey + 1
      pagination := { f.params.pagination with pageSize := now.pageSize } } := by
    rw [heq]; rfl
  have hg : now.generation + 1 = f.generation + 1 :=
    congrArg (· + 1) (hwf.inFlight f.generation awaited).1.symm
  refine ⟨f, hm, rfl, fun f' hf' he => fetch_unique hf' hm he, ⟨now.generation + 1, _⟩, _,
    (congrArg nextFetch hretried).trans (nextFetch_of_due (hwf.retried_due e)), hg, hparams, ?_, ?_,
    complete_retried awaited current e p⟩
  · rw [← hsize]
    refine ⟨fun h => ?_, fun h => ?_⟩
    · exact (congrArg (fun q => q.pagination.pageSize) h).symm
    · rw [hparams, ← h]
  · rw [complete_of_current _ awaited current]

/-- The second page fails, and has no items when it is fetched again. -/
theorem retry_makes_up_second_page :
    let c : Controller Nat := start 20 ⟨"Name", false⟩ .empty .empty
    let es : List (Event Nat) :=
      [.nextFetch, .complete 1 (.ok ⟨[1, 2], some "t"⟩), .nextPage, .nextFetch]
    let now := c.run es
    let broken := (now.complete 2 (.error (.other "down"))).2
    let p : ListPage Nat := ⟨[], none⟩
    (now.inFlight = some 2 ∧ now.lastKey = some now.key ∧ now.openEnd = true) ∧
      ∃ f ∈ c.fetches es, f.generation = 2 ∧ (∀ f' ∈ c.fetches es, f'.generation = 2 → f' = f) ∧
        ∃ f' again, broken.refresh.nextFetch = some (f', again) ∧
          f'.generation = 3 ∧
          f'.params = { f.params with
            refreshKey := f.params.refreshKey + 1
            pagination := { f.params.pagination with pageSize := now.pageSize } } ∧
          (f'.params = { f.params with refreshKey := f.params.refreshKey + 1 } ↔
            ¬Resizes 2 c es) ∧
          now.complete 2 (.ok p) = (true, (now.complete 2 (.ok p)).2) ∧
          again.complete f'.generation (.ok p) =
            (true, { (now.complete 2 (.ok p)).2 with
              refreshKey := now.refreshKey + 1
              generation := now.generation + 1
              lastKey := some { now.key with refreshKey := now.refreshKey + 1 } }) :=
  ⟨by decide, retry_makes_up 20 ⟨"Name", false⟩ .empty .empty _ (by decide) (by decide)
    (.inl (by decide)) (.other "down") ⟨[], none⟩⟩

/-- The page size changes on the second page while the first one is fetched again. That fetch has
the key of the controller, and when it has failed, a refresh asks for another page size. -/
theorem retry_other_pageSize :
    let c : Controller Nat := start 20 ⟨"Name", false⟩ .empty .empty
    let es : List (Event Nat) :=
      [.nextFetch, .complete 1 (.ok ⟨[1, 2], some "t"⟩), .refresh, .nextFetch, .nextPage,
        .setPageSize 50]
    let now := c.run es
    (now.inFlight = some 2 ∧ now.lastKey = some now.key ∧ now.openEnd = true) ∧
      ∃ f ∈ c.fetches es, f.generation = 2 ∧ f.params.pagination.pageSize = 20 ∧
        ∃ f', (now.complete 2 (.error (.other "down"))).2.refresh.issues .nextFetch = some f' ∧
          f'.params.pagination.pageSize = 50 := by
  decide

end CursorPaging.Paging.Controller
