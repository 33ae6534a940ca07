import CursorPaging.Proofs.Listing
import CursorPaging.Proofs.Paging.Rounds

/-!
# Fetching the page after the known ones

A controller that fetches the page after those it has fetched (`Frontier`) either finds it, with or
without the token of another one, or falls back on a page before it, which then is the last one:

* `Rounds.failed_iff`: errors of fetches show;
* `Closed.applyAnswer`: a list that has come to its end stays there;
* `Descends.requests`: fetches that go down repeat the known tokens;
* `Frontier.arrival`: the ways in which the fetch turns out;
* `Frontier.next`: moving on to a page that was found.
-/

namespace CursorPaging

/-- No page follows one without items, nor one whose token is missing or the empty text. -/
def ListPage.Final {α : Type} (p : ListPage α) : Prop :=
  p.items = [] ∨ p.nextToken = none ∨ p.nextToken = some ""

namespace Paging

variable {σ α : Type} {source : Source σ α} {c c' : Controller α} {s s' : σ}
  {xs : List (Exchange α)}

namespace Controller

variable {p : ListPage α}

theorem Shows.failed (h : Shows c p c') : c'.failed = false := by
  cases h <;> rfl

/-- The error of the last answer shows, and nothing else does. -/
theorem failed_applyAnswer (c : Controller α) (answer : Except Error (ListPage α)) :
    (c.issue.applyAnswer answer).failed = true ↔ ∃ e, answer = .error e := by
  cases answer with
  | error e => exact ⟨fun _ => ⟨e, rfl⟩, fun _ => rfl⟩
  | ok p =>
    rw [show (c.issue.applyAnswer (.ok p)).failed = false from
      (shows_applyPage c.issue.landed p).failed]
    exact ⟨nofun, nofun⟩

/-- What a request asks for apart from the page stays as it is. -/
theorem request_applyAnswer (c : Controller α) (answer : Except Error (ListPage α))
    (token : Option String) :
    (c.issue.applyAnswer answer).params.toRequest.withToken token =
      c.params.toRequest.withToken token := by
  cases answer with
  | error e => rfl
  | ok p =>
    have hk := (shows_applyPage c.issue.landed p).keeps
    show (c.issue.landed.applyPage p).params.toRequest.withToken token = _
    simp only [ListRequest.withToken, FetchParams.toRequest, params, hk.pageSize, hk.sorting,
      hk.query, hk.extraParams]
    rfl

/-! ## The end of a list -/

/-- The current page is the last one, and the end is known. -/
structure Closed (c : Controller α) : Prop where
  ended : c.openEnd = false
  last : c.page = c.pageTokens.length

theorem closed_givenUp (last : c.page = c.pageTokens.length) : Closed c.givenUp where
  ended := rfl
  last := by
    show c.page - 1 = (c.pageTokens.take (c.page - 1)).length
    rw [List.length_take]
    omega

/-- A list that has come to its end stays there, whatever the answer. -/
theorem Closed.applyAnswer (h : Closed c) (answer : Except Error (ListPage α)) :
    Closed (c.issue.applyAnswer answer) := by
  have hl := lands_applyAnswer c answer
  generalize c.issue.applyAnswer answer = c' at hl
  cases hl with
  | failed e => exact ⟨h.ended, h.last⟩
  | shown stays key shows =>
    cases shows with
    | back empty later => exact closed_givenUp h.last
    | void empty first =>
      refine ⟨rfl, ?_⟩
      have hp : c.page ≤ 1 := first
      show c.page = (c.pageTokens.take 1).length
      rw [List.length_take, ← h.last]
      omega
    | inside | counted => exact ⟨h.ended, h.last⟩
    | ended _ _ _ opened => exact absurd (h.ended.symm.trans opened) Bool.false_ne_true
    | grown _ _ _ _ _ opened => exact absurd (h.ended.symm.trans opened) Bool.false_ne_true
  | back empty later => exact closed_givenUp h.last

end Controller

open Controller (WellFormed Closed)

namespace Rounds

/-- A table shows an error after its fetches if one of them failed. -/
theorem failed_iff (h : Rounds source c s xs c' s') :
    c'.failed = true ↔ (∃ x ∈ xs, ∃ e, x.answer = .error e) ∨ (xs = [] ∧ c.failed = true) := by
  induction h with
  | idle => simp
  | @round c issued c₁ c' s s₁ s' fetch answer xs due reply counts rest ih =>
    obtain ⟨-, rfl, rfl⟩ := Controller.round_eq due counts
    rw [ih, Controller.failed_applyAnswer]
    constructor
    · rintro (⟨x, hx, he⟩ | ⟨-, he⟩)
      · exact .inl ⟨x, List.mem_cons_of_mem _ hx, he⟩
      · exact .inl ⟨_, List.mem_cons_self, he⟩
    · rintro (⟨x, hx, e, he⟩ | ⟨hnil, -⟩)
      · rcases List.mem_cons.mp hx with rfl | hx
        · obtain rfl : answer = .error e := he
          exact .inr ⟨(rest.of_idle rfl).1, e, rfl⟩
        · exact .inl ⟨x, hx, e, he⟩
      · cases hnil

theorem request (h : Rounds source c s xs c' s') (token : Option String) :
    c'.params.toRequest.withToken token = c.params.toRequest.withToken token :=
  h.keep (P := fun c' => c'.params.toRequest.withToken token = c.params.toRequest.withToken token)
    (fun c answer hc => (Controller.request_applyAnswer c answer token).trans hc) rfl

theorem closed (h : Rounds source c s xs c' s') (hc : Closed c) : Closed c' :=
  h.keep (fun _ answer hc => hc.applyAnswer answer) hc

end Rounds

namespace Descends

/-- The page of the last fetch. -/
theorem page_getLast (h : Descends c xs c') {x : Exchange α} (hx : xs.getLast? = some x) :
    x.fetch.params.pagination.page + xs.length = c.page + 1 := by
  have hpos := List.length_pos_of_ne_nil h.made
  have hle := h.length_le
  rw [List.getLast?_eq_getElem?, List.getElem?_eq_getElem (by omega)] at hx
  rw [← Option.some.inj hx, h.params _ (by omega)]
  show c.page - (xs.length - 1) + xs.length = c.page + 1
  omega

/-- The fetches from the last known page on send the known tokens, the last one first. -/
theorem requests (h : Descends c xs c') (last : c.page = c.pageTokens.length) :
    xs.map (·.fetch.params.toRequest) <+:
      c.pageTokens.reverse.map c.params.toRequest.withToken := by
  have hle := h.length_le
  rw [List.prefix_iff_getElem?]
  intro i hi
  rw [List.length_map] at hi
  have htoken := h.token i hi
  have hrequest : xs[i].fetch.params.toRequest =
      c.params.toRequest.withToken xs[i].fetch.params.pagination.nextToken := by
    rw [h.params i hi]
    rfl
  rw [List.getElem?_map, List.getElem?_reverse (by omega), List.getElem_map, hrequest, ← last,
    Nat.sub_right_comm, htoken]
  rfl

end Descends

namespace Controller

/-! ## The next page -/

/-- The controller is about to fetch the page after those it has fetched. -/
structure Frontier (c : Controller α) : Prop extends WellFormed c where
  due : c.lastKey ≠ some c.key
  last : c.page = c.pageTokens.length
  opened : c.openEnd = true

theorem frontier_start (pageSize : Nat) (sorting : Sorting) (query : FilterQuery)
    (params : Dictionary String) :
    Frontier (start pageSize sorting query params : Controller α) :=
  ⟨wellFormed_start .., nofun, rfl, rfl⟩

/-- The ways in which the fetch of the next page turns out. -/
inductive Arrival (c : Controller α) : List (Exchange α) → Controller α → Prop where
  /-- The page cannot be fetched, or it is empty and one before it cannot be fetched. -/
  | failed {xs : List (Exchange α)} {c' : Controller α} (descends : Descends c xs c')
    (failed : c'.failed = true) (error : ∃ x ∈ xs, ∃ e, x.answer = .error e) : Arrival c xs c'
  /-- The page is empty, and one before it is the last one. -/
  | returned {xs : List (Exchange α)} {c' : Controller α} (descends : Descends c xs c')
    (failed : c'.failed = false) (answered : ∀ x ∈ xs, ∃ p, x.answer = .ok p)
    (page : c'.page < c.page) (last : c'.page = c'.pageTokens.length) : Arrival c xs c'
  /-- The page is the last one. -/
  | ended {x : Exchange α} {p : ListPage α} {c' : Controller α} (params : x.fetch.params = c.params)
    (answer : x.answer = .ok p) (failed : c'.failed = false) (page : c'.page = c.page)
    (items : c'.items = p.items) (last : c'.page = c'.pageTokens.length) (final : p.Final)
    (shown : p.items ≠ [] ∨ c.page = 1) : Arrival c [x] c'
  /-- There is a page after it. -/
  | found {x : Exchange α} {p : ListPage α} {t : String} {c' : Controller α}
    (params : x.fetch.params = c.params) (answer : x.answer = .ok p) (failed : c'.failed = false)
    (page : c'.page = c.page) (items : c'.items = p.items) (full : p.items ≠ [])
    (follows : p.nextToken = some t) (tokens : c'.pageTokens = c.pageTokens ++ [some t])
    (opened : c'.openEnd = true) : Arrival c [x] c'

/-- The fetch of the next page turns out in one of these ways. -/
theorem Frontier.arrival (hc : Frontier c) (h : Rounds source c s xs c' s') :
    Arrival c xs c' := by
  have hd := h.descends hc.toWellFormed hc.due
  have hf := h.failed_iff
  obtain ⟨answer, s₁, xs', -, rfl, rest⟩ := h.of_due hc.due
  have hkey := lastKey_applyAnswer c answer
  have hl := lands_applyAnswer c answer
  generalize c.issue.applyAnswer answer = c₁ at rest hkey hl
  cases hl with
  | failed e =>
    obtain ⟨rfl, rfl⟩ := rest.of_idle rfl
    exact .failed hd rfl ⟨_, List.mem_cons_self, e, rfl⟩
  | @shown p _ stays key shows =>
    obtain ⟨rfl, rfl⟩ := rest.of_idle (hkey.trans (congrArg some key.symm))
    cases shows with
    | back empty later => exact absurd empty (stays.resolve_right (Nat.not_le.mpr later))
    | void empty first =>
      have hp : c.page = 1 := Nat.le_antisymm first hc.page_pos
      refine .ended rfl rfl rfl rfl empty.symm ?_ (.inl empty) (.inr hp)
      show c.page = (c.pageTokens.take 1).length
      rw [List.length_take, ← hc.last, hp]
      rfl
    | inside full silent =>
      have hempty := silent.resolve_left fun hne => hne hc.last
      exact .ended rfl rfl rfl rfl rfl hc.last (.inr (.inr hempty)) (.inl full)
    | counted _ _ _ ended => exact absurd (hc.opened.symm.trans ended) Bool.false_ne_true.symm
    | ended full _ token =>
      exact .ended rfl rfl rfl rfl rfl hc.last (.inr (.inl token)) (.inl full)
    | grown t full last token => exact .found rfl rfl rfl rfl rfl full token rfl hc.opened
  | @back p empty later =>
    obtain ⟨answer', s₂, xs'', -, rfl, -⟩ := rest.of_due (givenUp_due later)
    have hpage := hd.page
    simp only [List.length_cons] at hpage
    by_cases failed : c'.failed = true
    · exact .failed hd failed ((hf.mp failed).resolve_right nofun)
    · refine .returned hd (Bool.eq_false_iff.mpr failed) (fun y hy => ?_) (by omega)
        (rest.closed (closed_givenUp hc.last)).last
      cases ha : y.answer with
      | error e => exact absurd (hf.mpr (.inl ⟨y, hy, e, ha⟩)) failed
      | ok p => exact ⟨p, rfl⟩

/-- The controller after a page was found, once it moves on. -/
theorem Frontier.next (hc : Frontier c) (h : Rounds source c s xs c' s') (page : c'.page = c.page)
    {t : String} (tokens : c'.pageTokens = c.pageTokens ++ [some t]) (opened : c'.openEnd = true) :
    Frontier { c' with page := c'.page + 1 } where
  toWellFormed := { h.wellFormed hc.toWellFormed with
    page_pos := Nat.le_add_left 1 _
    page_le := by
      have hlast := hc.last
      show c'.page + 1 ≤ c'.pageTokens.length
      rw [tokens, List.length_append, List.length_singleton]
      omega }
  due := by
    rw [nextFetch_eq_none_iff.mp h.nextFetch_eq_none]
    intro hk
    have : c'.page = c'.page + 1 := congrArg FetchKey.page (Option.some.inj hk)
    omega
  last := by
    show c'.page + 1 = c'.pageTokens.length
    rw [tokens, List.length_append, List.length_singleton, page, hc.last]
  opened := opened

/-- The request for a page that was found has its token. -/
theorem Frontier.token (hc : Frontier c) (page : c'.page = c.page) {t : String}
    (tokens : c'.pageTokens = c.pageTokens ++ [some t]) :
    { c' with page := c'.page + 1 }.currentToken = some t := by
  show (c'.pageTokens[c'.page + 1 - 1]?).join = some t
  rw [tokens, Nat.add_sub_cancel, page, hc.last, List.getElem?_concat_length]
  rfl

end Controller

end Paging

end CursorPaging
