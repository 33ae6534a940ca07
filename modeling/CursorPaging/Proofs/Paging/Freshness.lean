import CursorPaging.Proofs.Paging.Invariant

/-!
# Answers that count

An answer counts if the fetch in flight has the key of the controller. The key leaves out the page
size, the token and the extra parameters, so that these have to follow from what can happen while a
fetch is in flight (`Waits`): tokens are only forgotten, the refresh key only grows, and a change of
the page size either raises the refresh key or leaves the first page alone. The last case is the one
hole, when the fetch is for the first page and the table has moved on from it:

* `WellFormed.transition_waits`: what an event does while a fetch is in flight;
* `Initial.fits`: how a fetch in flight fits the controller;
* `complete_params_iff`: an answer that counts is that of the request the controller would make now,
  unless the page size changed in between;
* `complete_old_pageSize`: one that is not.
-/

namespace CursorPaging.Paging.Controller

variable {α : Type} {c c' : Controller α} {e : Event α} {f : Fetch} {g : Nat}

/-! ## One event -/

/-- What an event can do to the request of a controller that waits for an answer. -/
structure Waits (c c' : Controller α) : Prop where
  pageTokens : c'.pageTokens <+: c.pageTokens
  refreshKey : c.refreshKey ≤ c'.refreshKey
  extraParams : c'.extraParams = c.extraParams
  /-- Another page size raises the refresh key on the first page, and leads back to it from
  another one. -/
  pageSize : c'.pageSize ≠ c.pageSize →
    c.refreshKey < c'.refreshKey ∨ 1 < c.page ∧ c'.pageTokens.length = 1

theorem Waits.refl (c : Controller α) : Waits c c :=
  ⟨List.prefix_rfl, Nat.le_refl _, rfl, fun h => absurd rfl h⟩

theorem WellFormed.waits_resetPagination (h : WellFormed c) (pageSize : Nat) (query : FilterQuery) :
    Waits c { c with pageSize := pageSize, query := query }.resetPagination where
  pageTokens := by
    obtain ⟨later, hl, -⟩ := h.tokens
    rw [hl]; exact ⟨later.map some, rfl⟩
  refreshKey := by
    show c.refreshKey ≤ if c.page = 1 then c.refreshKey + 1 else c.refreshKey
    split <;> omega
  extraParams := rfl
  pageSize _ := by
    have hp := h.page_pos
    show c.refreshKey < (if c.page = 1 then c.refreshKey + 1 else c.refreshKey) ∨ _
    by_cases h1 : c.page = 1
    · rw [if_pos h1]; exact .inl (Nat.lt_succ_self _)
    · exact .inr ⟨by omega, rfl⟩

/-- An event after which a fetch is still in flight leaves the controller waiting. -/
theorem WellFormed.transition_waits (h : WellFormed c) (ht : Transition c e c')
    (hg : g ≤ c.generation) (hf : c'.inFlight = some g) : Waits c c' := by
  cases ht with
  | idle | ignored | unmoved | sameQuery | sameSize => exact .refl c
  | issued =>
    have : c.generation + 1 = g := Option.some.inj hf
    omega
  | broken => cases hf
  | shown _ _ shows => rw [shows.keeps.inFlight] at hf; cases hf
  | moved | sorted => exact { Waits.refl c with }
  | queried => exact h.waits_resetPagination c.pageSize _
  | resized => exact h.waits_resetPagination _ c.query
  | reset => exact h.waits_resetPagination c.pageSize c.query
  | refreshed =>
    exact { Waits.refl c with
      refreshKey := Nat.le_succ _
      pageSize := fun _ => .inl (Nat.lt_succ_self _) }
  | deleted =>
    exact {
      pageTokens := List.take_prefix _ _
      refreshKey := Nat.le_succ _
      extraParams := rfl
      pageSize := fun _ => .inl (Nat.lt_succ_self _) }

/-! ## Fetches in flight -/

/-- How a fetch in flight fits the controller, as far as the key does not tell. -/
structure Fits (f : Fetch) (c : Controller α) : Prop where
  refreshKey : f.params.refreshKey ≤ c.refreshKey
  token : ∀ t, c.pageTokens[f.params.pagination.page - 1]? = some t →
    t = f.params.pagination.nextToken
  extraParams : f.params.extraParams = c.extraParams

/-- A page size that has changed since the fetch does not come back before the refresh key grows. -/
def Outgrown (f : Fetch) (c : Controller α) : Prop :=
  f.params.refreshKey < c.refreshKey ∨
    c.pageTokens.length = 1 ∧ f.params.pagination.pageSize ≠ c.pageSize

/-- A fetch fits the controller that issues it. -/
theorem WellFormed.fits_issue (h : WellFormed c) : Fits ⟨c.generation + 1, c.params⟩ c.issue where
  refreshKey := Nat.le_refl _
  token _ ht := Option.some.inj (ht.symm.trans h.getElem_page)
  extraParams := rfl

/-- It fits the controller as long as this waits for its answer. -/
theorem Fits.waits (h : Fits f c) (hw : Waits c c') : Fits f c' where
  refreshKey := Nat.le_trans h.refreshKey hw.refreshKey
  token t ht := h.token t (getElem?_mono hw.pageTokens ht)
  extraParams := h.extraParams.trans hw.extraParams.symm

/-- A fetch that fits and has the current key asks for what is shown, but for the page size. -/
theorem Fits.params_eq (h : Fits f c) (hc : WellFormed c) (hk : f.key = c.key) :
    f.params = { c.params with
      pagination := { c.params.pagination with pageSize := f.params.pagination.pageSize } } := by
  simp only [Fetch.key, key, FetchKey.mk.injEq] at hk
  obtain ⟨hp, hs, hq, hr⟩ := hk
  have ht : c.currentToken = f.params.pagination.nextToken :=
    h.token _ (by rw [hp]; exact hc.getElem_page)
  have he := h.extraParams
  obtain ⟨g, ⟨page, size, token⟩, sorting, query, refresh, extra⟩ := f
  dsimp only at hp hs hq hr ht he
  simp only [params, hp, hs, hq, hr, ht, he]

theorem Outgrown.waits (h : Outgrown f c) (hc : WellFormed c) (hc' : WellFormed c')
    (hf : Fits f c) (hw : Waits c c') : Outgrown f c' := by
  have hk := hw.refreshKey
  rcases h with h | ⟨h1, hs⟩
  · exact .inl (by omega)
  · have hle := hw.pageTokens.length_le
    have hpos := hc'.tokens.length_pos
    by_cases he : c'.pageSize = c.pageSize
    · exact .inr ⟨by omega, by rw [he]; exact hs⟩
    · have hr := hf.refreshKey
      have hp := hc.page_le
      rcases hw.pageSize he with h | ⟨h, -⟩
      · exact .inl (by omega)
      · omega

theorem outgrown_of_resized (hs : f.params.pagination.pageSize = c.pageSize) (hf : Fits f c)
    (hw : Waits c c') (he : c'.pageSize ≠ c.pageSize) : Outgrown f c' := by
  have hr := hf.refreshKey
  rcases hw.pageSize he with h | ⟨-, h⟩
  · exact .inl (by omega)
  · exact .inr ⟨h, by rw [hs]; exact he.symm⟩

/-- Whether the page size changes at some time in a run while a fetch is in flight. -/
def Resizes (g : Nat) (c : Controller α) : List (Event α) → Prop
  | [] => False
  | e :: es => c.inFlight = some g ∧ (c.step e).pageSize ≠ c.pageSize ∨ Resizes g (c.step e) es

theorem resizes_concat (g : Nat) (c : Controller α) (es : List (Event α)) (e : Event α) :
    Resizes g c (es ++ [e]) ↔ Resizes g c es ∨
      (c.run es).inFlight = some g ∧ ((c.run es).step e).pageSize ≠ (c.run es).pageSize := by
  induction es generalizing c with
  | nil => simp [Resizes]
  | cons e' es ih => rw [List.cons_append, Resizes, Resizes, ih, run_cons, or_assoc]

theorem WellFormed.le_of_resizes (h : WellFormed c) {es : List (Event α)} (hr : Resizes g c es) :
    g ≤ (c.run es).generation := by
  induction es generalizing c with
  | nil => cases hr
  | cons e es ih =>
    rcases hr with ⟨hg, -⟩ | hr
    · rw [(h.inFlight g hg).1]; exact generation_le_run c (e :: es)
    · exact ih (h.step e) hr

/-- A fetch in flight fits the controller; the page size is that of the fetch as long as it does not
change, and outgrown once it has. -/
theorem Initial.fits (hc : Initial c) {es : List (Event α)} (hm : f ∈ c.fetches es)
    (hf : (c.run es).inFlight = some f.generation) :
    Fits f (c.run es) ∧
      (¬Resizes f.generation c es → f.params.pagination.pageSize = (c.run es).pageSize) ∧
      (Resizes f.generation c es → Outgrown f (c.run es)) := by
  induction es using List.reverseRecOn with
  | nil => cases hm
  | append_singleton es e ih =>
    have hwf := hc.wellFormed_run es
    rw [resizes_concat]
    rw [run_concat] at hf ⊢
    rw [fetches_concat] at hm
    rcases step_fetch (c.run es) e with ⟨hi, hs⟩ | ⟨hi, -⟩
    · rw [hs] at hf ⊢
      have hg : (c.run es).generation + 1 = f.generation := Option.some.inj hf
      have hnew : f = ⟨(c.run es).generation + 1, (c.run es).params⟩ := by
        rw [hi, Option.toList_some] at hm
        rcases List.mem_append.mp hm with hm | hm
        · have := (exists_fetch_iff.mp ⟨f, hm, rfl⟩).2
          omega
        · exact List.mem_singleton.mp hm
      refine ⟨hnew ▸ hwf.fits_issue, fun _ => by rw [hnew]; rfl, fun hr => ?_⟩
      rcases hr with hr | ⟨hr, -⟩
      · have := hc.wellFormed.le_of_resizes hr
        omega
      · have := (hwf.inFlight _ hr).1
        omega
    · rw [hi, Option.toList_none, List.append_nil] at hm
      have hle := (exists_fetch_iff.mp ⟨f, hm, rfl⟩).2
      have hw := hwf.transition_waits (transition_step _ e) hle hf
      obtain ⟨hfit, hsame, hout⟩ := ih hm (inFlight_of_step hle hf)
      have hin := inFlight_of_step hle hf
      refine ⟨hfit.waits hw, fun hn => ?_, fun hr => ?_⟩
      · obtain ⟨hn, hne⟩ := not_or.mp hn
        rw [hsame hn]
        exact (Classical.not_not.mp fun h => hne ⟨hin, h⟩).symm
      · by_cases hr' : Resizes f.generation c es
        · exact (hout hr').waits hwf (hwf.step e) hfit hw
        · exact outgrown_of_resized (hsame hr') hfit hw (hr.resolve_left hr').2

/-- An answer that counts is that of the request which the controller would make now, but for the
page size. That agrees too if and only if it did not change while the fetch was in flight, and if it
did, the fetch is for the first page. -/
theorem complete_params_iff (pageSize : Nat) (sorting : Sorting) (query : FilterQuery)
    (params : Dictionary String) (es : List (Event α)) {g : Nat} {p : ListPage α}
    (counts : (((start pageSize sorting query params).run es).complete g (.ok p)).1 = true) :
    let c := start pageSize sorting query params
    let now := (c.run es).params
    ∃ f ∈ c.fetches es, f.generation = g ∧ (∀ f' ∈ c.fetches es, f'.generation = g → f' = f) ∧
      f.params = { now with
        pagination := { now.pagination with pageSize := f.params.pagination.pageSize } } ∧
      (f.params = now ↔ ¬Resizes g c es) ∧ (Resizes g c es → now.pagination.page = 1) := by
  intro c now
  have hc : Initial c := initial_start pageSize sorting query params
  have hwf := hc.wellFormed_run es
  obtain ⟨hin, hkey⟩ := awaits_iff.mp (awaits_of_complete counts)
  obtain ⟨f, hl, rfl, hk⟩ := hc.exists_getLast hin
  have hm := List.mem_of_getLast? hl
  have hkey : f.key = (c.run es).key := Option.some.inj (hk.symm.trans hkey)
  obtain ⟨hfit, hsame, hout⟩ := hc.fits hm hin
  have heq := hfit.params_eq hwf hkey
  have hgrown : Resizes f.generation c es →
      (c.run es).pageTokens.length = 1 ∧ f.params.pagination.pageSize ≠ (c.run es).pageSize :=
    fun hr => (hout hr).resolve_left (by
      have : f.params.refreshKey = (c.run es).refreshKey := congrArg FetchKey.refreshKey hkey
      omega)
  refine ⟨f, hm, rfl, fun f' hf' he => fetch_unique hf' hm he, heq, ⟨fun h hr => ?_, fun hn => ?_⟩,
    fun hr => ?_⟩
  · exact (hgrown hr).2 (congrArg (fun q => q.pagination.pageSize) h)
  · rw [heq, hsame hn]; rfl
  · have hlen := (hgrown hr).1
    have hle := hwf.page_le
    have hpos := hwf.page_pos
    show (c.run es).page = 1
    omega

/-- The table leaves the first page and comes back to it while that is fetched again. -/
theorem complete_params_round_trip :
    let c : Controller Nat := start 20 ⟨"Name", false⟩ .empty .empty
    let es : List (Event Nat) :=
      [.nextFetch, .complete 1 (.ok ⟨[1, 2], some "t"⟩), .refresh, .nextFetch, .nextPage,
        .setPageSize 20, .previousPage]
    let now := (c.run es).params
    ((c.run es).complete 2 (.ok ⟨[1], none⟩)).1 = true ∧
      ∃ f ∈ c.fetches es, f.generation = 2 ∧ (∀ f' ∈ c.fetches es, f'.generation = 2 → f' = f) ∧
        f.params = { now with
          pagination := { now.pagination with pageSize := f.params.pagination.pageSize } } ∧
        (f.params = now ↔ ¬Resizes 2 c es) ∧ (Resizes 2 c es → now.pagination.page = 1) :=
  ⟨by decide,
    complete_params_iff 20 ⟨"Name", false⟩ .empty .empty _ (p := ⟨[1], none⟩) (by decide)⟩

/-- The page size changes on the second page while the first one is fetched again: the table is back
on the first page, at the key of the fetch, whose answer counts. -/
theorem complete_old_pageSize :
    let c : Controller Nat := start 20 ⟨"Name", false⟩ .empty .empty
    let es : List (Event Nat) :=
      [.nextFetch, .complete 1 (.ok ⟨[1, 2], some "t"⟩), .refresh, .nextFetch, .nextPage,
        .setPageSize 50]
    ((c.run es).complete 2 (.ok ⟨[1, 2], some "t"⟩)).1 = true ∧
      ∃ f ∈ c.fetches es, f.generation = 2 ∧ f.params ≠ (c.run es).params ∧
        f.params.pagination.pageSize = 20 ∧ (c.run es).pageSize = 50 := by
  decide

end CursorPaging.Paging.Controller
