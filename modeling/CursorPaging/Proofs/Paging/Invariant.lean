import CursorPaging.Proofs.Paging.History

/-!
# The invariant of a controller

`WellFormed` says how the fields of a controller hang together: the current page is a known one,
every known page but the first has a token, and the marks for fetches and errors agree with what
they mark. Every event keeps it, whatever the answers are and whenever they come:

* `WellFormed.step`, `WellFormed.run`: one event and a run;
* `run_consistent`: the same with the fetches of the run.
-/

namespace CursorPaging.Paging

/-! ## Tokens -/

/-- The tokens of known pages: none for the first page, a text that is not empty for every other
one. -/
def TokenList (ts : List (Option String)) : Prop :=
  ∃ later : List String, ts = none :: later.map some ∧ ∀ t ∈ later, t ≠ ""

theorem tokenList_first : TokenList [none] := ⟨[], rfl, by simp⟩

namespace TokenList

variable {ts : List (Option String)}

theorem length_pos (h : TokenList ts) : 1 ≤ ts.length := by
  obtain ⟨later, rfl, -⟩ := h
  exact Nat.le_add_left 1 _

theorem take (h : TokenList ts) {n : Nat} (hn : 1 ≤ n) : TokenList (ts.take n) := by
  obtain ⟨later, rfl, hl⟩ := h
  obtain ⟨n, rfl⟩ := Nat.exists_eq_add_of_le' hn
  refine ⟨later.take n, ?_, fun t ht => hl t (List.mem_of_mem_take ht)⟩
  rw [List.take_succ_cons, List.map_take]

theorem concat (h : TokenList ts) {t : String} (ht : t ≠ "") : TokenList (ts ++ [some t]) := by
  obtain ⟨later, rfl, hl⟩ := h
  refine ⟨later ++ [t], by simp, fun s hs => ?_⟩
  rcases List.mem_append.mp hs with hs | hs
  · exact hl s hs
  · rw [List.mem_singleton.mp hs]; exact ht

end TokenList

section Places

variable {ts ts' : List (Option String)} {i : Nat} {t t' : Option String}

theorem getElem?_mono (hp : ts' <+: ts) (h : ts'[i]? = some t) : ts[i]? = some t := by
  obtain ⟨hi, rfl⟩ := List.getElem?_eq_some_iff.mp h
  exact List.prefix_iff_getElem?.mp hp i hi

theorem getElem?_concat_cases (h : (ts ++ [t'])[i]? = some t) :
    i < ts.length ∧ ts[i]? = some t ∨ i = ts.length ∧ t = t' := by
  rcases Nat.lt_or_ge i ts.length with hi | hi
  · rw [List.getElem?_append_left hi] at h
    exact .inl ⟨hi, h⟩
  · obtain rfl : i = ts.length := by
      have := (List.getElem?_eq_some_iff.mp h).1
      rw [List.length_append, List.length_singleton] at this
      omega
    rw [List.getElem?_concat_length, Option.some.injEq] at h
    exact .inr ⟨rfl, h.symm⟩

end Places

namespace Controller

variable {α : Type}

/-- What holds of the fields of a controller at all times. -/
structure WellFormed (c : Controller α) : Prop where
  page_pos : 1 ≤ c.page
  page_le : c.page ≤ c.pageTokens.length
  tokens : TokenList c.pageTokens
  pagesCount : c.pagesCount = c.pageTokens.length
  pageSize_pos : 1 ≤ c.pageSize
  loading : c.loading = true ↔ c.inFlight.isSome = true
  /-- The fetch in flight is the one issued last, and fetches are numbered from one. -/
  inFlight : ∀ g, c.inFlight = some g → g = c.generation ∧ 1 ≤ g
  failed : c.failed = true ↔ c.failure.isSome = true
  lastKey : ∀ k, c.lastKey = some k → k.refreshKey ≤ c.refreshKey

theorem wellFormed_start (pageSize : Nat) (sorting : Sorting) (query : FilterQuery)
    (params : Dictionary String) :
    WellFormed (start pageSize sorting query params : Controller α) where
  page_pos := Nat.le_refl 1
  page_le := Nat.le_refl 1
  tokens := tokenList_first
  pagesCount := rfl
  pageSize_pos := by
    show 1 ≤ if pageSize = 0 then defaultPageSize else pageSize
    split
    · decide
    · omega
  loading := by simp [start, withQuery, withExtraParams, new]
  inFlight := by simp [start, withQuery, withExtraParams, new]
  failed := by simp [start, withQuery, withExtraParams, new]
  lastKey := by simp [start, withQuery, withExtraParams, new]

namespace WellFormed

variable {c c' : Controller α}

/-- The token of the current page is among the known ones. -/
theorem getElem_page (h : WellFormed c) : c.pageTokens[c.page - 1]? = some c.currentToken := by
  have hp := h.page_pos
  have hl := h.page_le
  rw [currentToken, List.getElem?_eq_getElem (show c.page - 1 < c.pageTokens.length by omega)]
  rfl

/-- A key that is ahead of the refresh key is that of no fetch. -/
theorem lastKey_ne (h : WellFormed c) {k : FetchKey} (hk : c.refreshKey < k.refreshKey) :
    c.lastKey ≠ some k :=
  fun he => Nat.not_le.mpr hk (h.lastKey k he)

theorem landed (h : WellFormed c) : WellFormed c.landed :=
  { h with
    loading := by simp [Controller.landed]
    inFlight := by simp [Controller.landed] }

theorem showing (h : WellFormed c) (items : List α) : WellFormed (c.showing items) :=
  { h with failed := by simp [Controller.showing] }

theorem shows {p : ListPage α} (h : WellFormed c) (hs : Shows c p c') : WellFormed c' := by
  cases hs with
  | back empty later =>
    have hl := h.page_le
    exact { h.showing [] with
      page_pos := show 1 ≤ c.page - 1 by omega
      page_le := by
        show c.page - 1 ≤ (c.pageTokens.take (c.page - 1)).length
        rw [List.length_take]; omega
      tokens := h.tokens.take (by omega)
      pagesCount := rfl }
  | void empty first =>
    have hp := h.tokens.length_pos
    have hl : (c.pageTokens.take 1).length = 1 := by rw [List.length_take]; omega
    exact { h.showing [] with
      page_le := show c.page ≤ (c.pageTokens.take 1).length by rw [hl]; exact first
      tokens := h.tokens.take (Nat.le_refl 1)
      pagesCount := hl.symm }
  | inside full silent => exact h.showing _
  | counted full last token ended => exact { h.showing p.items with }
  | ended full last token opened => exact { h.showing p.items with pagesCount := rfl }
  | grown t full last token resolved opened =>
    have hl : (c.pageTokens ++ [some t]).length = c.pageTokens.length + 1 := by
      rw [List.length_append, List.length_singleton]
    exact { h.showing p.items with
      page_le := show c.page ≤ (c.pageTokens ++ [some t]).length by rw [hl]; omega
      tokens := h.tokens.concat resolved
      pagesCount := hl.symm }

theorem issue (h : WellFormed c) : WellFormed c.issue :=
  { h with
    loading := by simp [Controller.issue]
    inFlight := by simp [Controller.issue]
    lastKey := by simp [Controller.issue, key] }

theorem resetPagination (h : WellFormed c) : WellFormed c.resetPagination :=
  { h with
    page_pos := Nat.le_refl 1
    page_le := Nat.le_refl 1
    tokens := tokenList_first
    pagesCount := rfl
    lastKey := fun k hk => by
      have := h.lastKey k hk
      show k.refreshKey ≤ if c.page = 1 then c.refreshKey + 1 else c.refreshKey
      split <;> omega }

theorem refresh (h : WellFormed c) : WellFormed c.refresh :=
  { h with lastKey := fun k hk => Nat.le_succ_of_le (h.lastKey k hk) }

theorem itemsDeleted (h : WellFormed c) : WellFormed c.itemsDeleted :=
  { h with
    page_le := by
      have := h.page_le
      show c.page ≤ (c.pageTokens.take c.page).length
      rw [List.length_take]; omega
    tokens := h.tokens.take h.page_pos
    pagesCount := rfl
    lastKey := fun k hk => Nat.le_succ_of_le (h.lastKey k hk) }

/-- Every way in which an event can change a controller keeps it well-formed. -/
theorem transition {e : Event α} (h : WellFormed c) (ht : Transition c e c') : WellFormed c' := by
  cases ht with
  | idle | ignored | unmoved | sameQuery | sameSize => exact h
  | issued => exact h.issue
  | broken => exact { h.landed with failed := by simp }
  | shown _ _ shows => exact h.landed.shows shows
  | moved _ pos known => exact { h with page_pos := pos, page_le := known }
  | sorted sorting => exact { h with }
  | @queried query other =>
    have hq : WellFormed { c with query := query } := { h with }
    exact hq.resetPagination
  | @resized pageSize pos other =>
    have hs : WellFormed { c with pageSize := pageSize } := { h with pageSize_pos := pos }
    exact hs.resetPagination
  | reset => exact h.resetPagination
  | refreshed => exact h.refresh
  | deleted => exact h.itemsDeleted

theorem step (h : WellFormed c) (e : Event α) : WellFormed (c.step e) :=
  h.transition (transition_step c e)

theorem run (h : WellFormed c) (es : List (Event α)) : WellFormed (c.run es) :=
  run_induction (fun _ e hc => hc.step e) h es

end WellFormed

section Runs

variable {c : Controller α} {es : List (Event α)}

theorem Initial.wellFormed (h : Initial c) : WellFormed c := by
  obtain ⟨_, _, _, _, rfl⟩ := h
  exact wellFormed_start ..

theorem Initial.wellFormed_run (h : Initial c) (es : List (Event α)) : WellFormed (c.run es) :=
  h.wellFormed.run es

/-- Every controller that can be reached is well-formed. -/
theorem Reachable.wellFormed (h : c.Reachable) : WellFormed c := by
  obtain ⟨pageSize, sorting, query, params, es, rfl⟩ := h
  exact (initial_start pageSize sorting query params).wellFormed_run es

/-- The fetch in flight is the last one of the run, and its key is the one remembered. -/
theorem Initial.exists_getLast (h : Initial c) {g : Nat} (hg : (c.run es).inFlight = some g) :
    ∃ f, (c.fetches es).getLast? = some f ∧ f.generation = g ∧
      (c.run es).lastKey = some f.key := by
  obtain ⟨rfl, hp⟩ := (h.wellFormed_run es).inFlight g hg
  have hn := generation_run c es
  cases hl : (c.fetches es).getLast? with
  | none =>
    rw [List.getLast?_eq_none_iff.mp hl, h.generation, List.length_nil] at hn
    omega
  | some f => exact ⟨f, rfl, generation_getLast hl, by rw [lastKey_run h, hl]; rfl⟩

/-- While a fetch is in flight, its key is the one remembered. -/
theorem Initial.lastKey_of_inFlight (h : Initial c) {f : Fetch} (hf : f ∈ c.fetches es)
    (hg : (c.run es).inFlight = some f.generation) : (c.run es).lastKey = some f.key := by
  obtain ⟨f', hl, he, hk⟩ := h.exists_getLast hg
  rw [hk, fetch_unique (List.mem_of_getLast? hl) hf he]

end Runs

/-- Whatever events and answers a new controller gets, in whatever order, its fields agree; the
fetch in flight is the last one issued, no refresh key of a fetch is ahead of the controller, and
the current page, whose token is always found, is counted from one. -/
theorem run_consistent (pageSize : Nat) (sorting : Sorting) (query : FilterQuery)
    (params : Dictionary String) (es : List (Event α)) :
    let c := (start pageSize sorting query params : Controller α).run es
    let last := ((start pageSize sorting query params : Controller α).fetches es).getLast?
    WellFormed c ∧
      (∀ g, c.inFlight = some g → last.map Fetch.generation = some g) ∧
      (∀ f, last = some f → c.lastKey = some f.key ∧ f.params.refreshKey ≤ c.refreshKey) ∧
      c.page - 1 + 1 = c.page ∧ c.pageTokens[c.page - 1]? = some c.currentToken := by
  intro c last
  have hi := initial_start (α := α) pageSize sorting query params
  have h : WellFormed c := hi.wellFormed_run es
  refine ⟨h, fun g hg => ?_, fun f hf => ?_, Nat.sub_add_cancel h.page_pos, h.getElem_page⟩
  · obtain ⟨f, hf, rfl, -⟩ := hi.exists_getLast hg
    exact congrArg (Option.map Fetch.generation) hf
  · have hk : c.lastKey = some f.key := (lastKey_run hi es).trans (congrArg _ hf)
    exact ⟨hk, h.lastKey _ hk⟩

end Controller

end CursorPaging.Paging
