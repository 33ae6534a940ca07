import CursorPaging.Proofs.Paging.Restart
import CursorPaging.Proofs.Paging.Settling

/-!
# Rounds of fetches

A table fetches until nothing is due: first the current page, and after each empty page the one
before it, so that the pages of the fetches go down one by one:

* `Lands`, `lands_applyAnswer`: what the answer of a fetch does to the controller that asked for it;
* `rounds_settle`: each fetch is due when it is made, and its answer counts;
* `Rounds.keep`: what every answer keeps;
* `Rounds.descends`: pages and tokens of the fetches, and where they end;
* `Rounds.resting`: nothing is awaited afterwards.
-/

namespace CursorPaging.Paging

variable {σ α : Type} {source : Source σ α} {c c' : Controller α} {s s' : σ}
  {xs : List (Exchange α)}

/-! ## One answer -/

namespace Controller

/-- The controller once the fetch that is due has found no items on a page after the first one. -/
def givenUp (c : Controller α) : Controller α :=
  { c.issue.landed.showing [] with
    pageTokens := c.pageTokens.take (c.page - 1)
    pagesCount := (c.pageTokens.take (c.page - 1)).length
    page := c.page - 1
    openEnd := false
    totalCount := c.countUpTo 0 }

/-- The ways in which the answer of the fetch that is due changes a controller: it cannot be had,
or it is shown on the page it was asked for, or that page is given up. -/
inductive Lands (c : Controller α) : Except Error (ListPage α) → Controller α → Prop where
  | failed (e : Error) :
    Lands c (.error e) { c.issue.landed with failed := true, failure := some e.message }
  | shown {p : ListPage α} {c' : Controller α} (stays : p.items ≠ [] ∨ c.page ≤ 1)
      (key : c'.key = c.key) (shows : Shows c.issue.landed p c') : Lands c (.ok p) c'
  | back {p : ListPage α} (empty : p.items = []) (later : 1 < c.page) :
    Lands c (.ok p) c.givenUp

/-- Every answer to a fetch that is due has one of these effects. -/
theorem lands_applyAnswer (c : Controller α) (answer : Except Error (ListPage α)) :
    Lands c answer (c.issue.applyAnswer answer) := by
  cases answer with
  | error e => exact .failed e
  | ok p =>
    have hs := shows_applyPage c.issue.landed p
    show Lands c (.ok p) (c.issue.landed.applyPage p)
    generalize c.issue.landed.applyPage p = c' at hs
    cases hs with
    | back empty later => exact .back empty later
    | void empty first => exact .shown (.inr first) rfl (.void empty first)
    | inside full silent => exact .shown (.inl full) rfl (.inside full silent)
    | counted full last token ended => exact .shown (.inl full) rfl (.counted full last token ended)
    | ended full last token opened => exact .shown (.inl full) rfl (.ended full last token opened)
    | grown t full last token resolved opened =>
      exact .shown (.inl full) rfl (.grown t full last token resolved opened)

/-- The pages before the one that is given up stay as they are. -/
theorem params_givenUp {page : Nat} (pos : 1 ≤ page) (before : page < c.page) :
    { c.givenUp with page := page }.params = { c with page := page }.params := by
  show FetchParams.mk ⟨page, c.pageSize, ((c.pageTokens.take (c.page - 1))[page - 1]?).join⟩
    c.sorting c.query c.refreshKey c.extraParams = _
  rw [List.getElem?_take_of_lt (by omega)]
  rfl

/-- The page before one that is given up is to be fetched. -/
theorem givenUp_due (later : 1 < c.page) : c.givenUp.lastKey ≠ some c.givenUp.key := by
  intro h
  have : c.page = c.page - 1 := congrArg FetchKey.page (Option.some.inj h)
  omega

theorem WellFormed.applyAnswer (h : WellFormed c) (answer : Except Error (ListPage α)) :
    WellFormed (c.issue.applyAnswer answer) := by
  have ht := transition_complete c.issue (c.generation + 1) answer
  rw [complete_issue] at ht
  exact h.issue.transition ht

theorem lastKey_applyAnswer (c : Controller α) (answer : Except Error (ListPage α)) :
    (c.issue.applyAnswer answer).lastKey = some c.key := by
  cases answer with
  | error e => rfl
  | ok p => exact (shows_applyPage c.issue.landed p).keeps.lastKey

end Controller

open Controller (WellFormed)

/-! ## Rounds -/

/-- Fetches one after the other until none is due: each of them is the one that is due, the source
answers its request, and its answer counts. -/
inductive Rounds (source : Source σ α) :
    Controller α → σ → List (Exchange α) → Controller α → σ → Prop where
  | idle {c : Controller α} {s : σ} (none : c.nextFetch = none) : Rounds source c s [] c s
  | round {c issued c₁ c' : Controller α} {s s₁ s' : σ} {fetch : Fetch}
      {answer : Except Error (ListPage α)} {xs : List (Exchange α)}
      (due : c.nextFetch = some (fetch, issued))
      (reply : source s fetch.params.toRequest = (answer, s₁))
      (counts : issued.complete fetch.generation answer = (true, c₁))
      (rest : Rounds source c₁ s₁ xs c' s') : Rounds source c s (⟨fetch, answer⟩ :: xs) c' s'

namespace Controller

/-- A fetch that is due is that of the current page, and its answer always counts. -/
theorem round_eq {issued c₁ : Controller α} {fetch : Fetch} {answer : Except Error (ListPage α)}
    (due : c.nextFetch = some (fetch, issued))
    (counts : issued.complete fetch.generation answer = (true, c₁)) :
    c.lastKey ≠ some c.key ∧ fetch = ⟨c.generation + 1, c.params⟩ ∧
      c₁ = c.issue.applyAnswer answer := by
  have hd : c.lastKey ≠ some c.key := fun hk => by
    rw [nextFetch_of_idle hk] at due
    cases due
  rw [nextFetch_of_due hd] at due
  cases due
  rw [complete_issue] at counts
  cases counts
  exact ⟨hd, rfl, rfl⟩

end Controller

/-- Performing the fetches that are due is a sequence of rounds. -/
theorem rounds_settle (source : Source σ α) (c : Controller α) (s : σ) :
    Rounds source c s (settle source c s).exchanges (settle source c s).controller
      (settle source c s).source := by
  induction c, s using settle.induct source with
  | case1 c s none =>
    rw [settle_of_idle (Controller.nextFetch_eq_none_iff.mp none)]
    exact .idle none
  | case2 c s fetch issued due reply ih =>
    have hd : c.lastKey ≠ some c.key := fun hk => by
      rw [Controller.nextFetch_of_idle hk] at due
      cases due
    rw [Controller.nextFetch_of_due hd] at due
    cases due
    rw [Controller.complete_issue] at ih
    rw [settle_of_due hd]
    exact .round (Controller.nextFetch_of_due hd) rfl (Controller.complete_issue c reply.1) ih

namespace Rounds

theorem of_idle (h : Rounds source c s xs c' s') (idle : c.lastKey = some c.key) :
    xs = [] ∧ c' = c := by
  cases h with
  | idle => exact ⟨rfl, rfl⟩
  | round due =>
    rw [Controller.nextFetch_of_idle idle] at due
    cases due

/-- The fetch that is due, and the rounds after it. -/
theorem of_due (h : Rounds source c s xs c' s') (due : c.lastKey ≠ some c.key) :
    ∃ answer s₁ xs', source s c.params.toRequest = (answer, s₁) ∧
      xs = ⟨⟨c.generation + 1, c.params⟩, answer⟩ :: xs' ∧
      Rounds source (c.issue.applyAnswer answer) s₁ xs' c' s' := by
  cases h with
  | idle none => exact absurd (Controller.nextFetch_eq_none_iff.mp none) due
  | round hn reply counts rest =>
    obtain ⟨-, rfl, rfl⟩ := Controller.round_eq hn counts
    exact ⟨_, _, _, reply, rfl, rest⟩

/-- What every answer to a fetch that is due keeps, all rounds keep. -/
theorem keep {P : Controller α → Prop}
    (hP : ∀ c answer, P c → P (c.issue.applyAnswer answer)) (h : Rounds source c s xs c' s')
    (hc : P c) : P c' := by
  induction h with
  | idle => exact hc
  | round due reply counts rest ih =>
    obtain ⟨-, -, rfl⟩ := Controller.round_eq due counts
    exact ih (hP _ _ hc)

theorem wellFormed (h : Rounds source c s xs c' s') (hc : WellFormed c) : WellFormed c' :=
  h.keep (fun _ answer hc => hc.applyAnswer answer) hc

/-- After the rounds no fetch is due. -/
theorem nextFetch_eq_none (h : Rounds source c s xs c' s') : c'.nextFetch = none := by
  induction h with
  | idle none => exact none
  | round _ _ _ _ ih => exact ih

/-- The controller remembers the key of the last one. -/
theorem lastKey (h : Rounds source c s xs c' s') :
    c'.lastKey = (xs.getLast?.map fun x => x.fetch.key).or c.lastKey := by
  induction h with
  | idle => rfl
  | @round c issued c₁ c' s s₁ s' fetch answer xs due reply counts rest ih =>
    obtain ⟨-, rfl, rfl⟩ := Controller.round_eq due counts
    rw [ih, Controller.lastKey_applyAnswer]
    cases xs with
    | nil => rfl
    | cons x xs => rw [List.getLast?_cons_cons, List.getLast?_cons]; rfl

theorem inFlight (h : Rounds source c s xs c' s') (hc : c.inFlight = none) :
    c'.inFlight = none :=
  h.keep (P := fun c => c.inFlight = none)
    (fun c answer _ => Controller.inFlight_applyAnswer c.issue answer) hc

end Rounds

/-- The source answers the requests of fetches, one after the other. -/
inductive Replies (source : Source σ α) : σ → List (Exchange α) → σ → Prop where
  | nil {s : σ} : Replies source s [] s
  | cons {x : Exchange α} {xs : List (Exchange α)} {s s₁ s' : σ}
      (reply : source s x.fetch.params.toRequest = (x.answer, s₁))
      (rest : Replies source s₁ xs s') : Replies source s (x :: xs) s'

theorem Replies.append {xs' : List (Exchange α)} {s₁ : σ} (h : Replies source s xs s₁)
    (h' : Replies source s₁ xs' s') : Replies source s (xs ++ xs') s' := by
  induction h with
  | nil => exact h'
  | cons reply _ ih => exact .cons reply (ih h')

/-- The answers of the rounds are those of the source, in order. -/
theorem Rounds.replies (h : Rounds source c s xs c' s') : Replies source s xs s' := by
  induction h with
  | idle => exact .nil
  | round _ reply _ _ ih => exact .cons reply ih

/-! ## Pages of the rounds -/

namespace Exchange

variable {x : Exchange α}

/-- The answer is a page without items. -/
def Empty (x : Exchange α) : Prop := ∃ p, x.answer = .ok p ∧ p.items = []

/-- The answer is an error or a page with items, or the fetch was for the first page. -/
def Stops (x : Exchange α) : Prop :=
  (∃ e, x.answer = .error e) ∨ (∃ p, x.answer = .ok p ∧ p.items ≠ []) ∨
    x.fetch.params.pagination.page = 1

end Exchange

/-- Fetches of the current page and of those before it, one page back for each answer without
items, up to the page that the controller is on afterwards. -/
structure Descends (c : Controller α) (xs : List (Exchange α)) (c' : Controller α) : Prop where
  made : xs ≠ []
  length_le : xs.length ≤ c.page
  params : ∀ i (h : i < xs.length), xs[i].fetch.params = { c with page := c.page - i }.params
  /-- The tokens are the known ones. -/
  token : ∀ i (h : i < xs.length),
    c.pageTokens[c.page - i - 1]? = some xs[i].fetch.params.pagination.nextToken
  empty : ∀ x ∈ xs.dropLast, x.Empty
  stops : ∀ x, xs.getLast? = some x → x.Stops
  page : c'.page + xs.length = c.page + 1

variable {x : Exchange α}

/-- A single fetch that does not step back is a descent of its own. -/
theorem descends_single (due : x.fetch.params = c.params) (hc : WellFormed c) (stops : x.Stops)
    (page : c'.page = c.page) : Descends c [x] c' where
  made := List.cons_ne_nil _ _
  length_le := hc.page_pos
  params := by
    intro i h
    obtain rfl : i = 0 := by simpa using h
    exact due
  token := by
    intro i h
    obtain rfl : i = 0 := by simpa using h
    show _ = some x.fetch.params.pagination.nextToken
    rw [due]
    exact hc.getElem_page
  empty := by simp
  stops := by
    intro y hy
    obtain rfl : x = y := by simpa using hy
    exact stops
  page := by rw [page]; rfl

/-- An empty page in front: the page before it is asked for in the same way. -/
theorem Descends.cons {c₁ : Controller α} (h : Descends c₁ xs c') (due : x.fetch.params = c.params)
    (hc : WellFormed c) (empty : x.Empty) (page : c₁.page + 1 = c.page)
    (params : ∀ i < c₁.page, { c₁ with page := c₁.page - i }.params =
      { c with page := c₁.page - i }.params)
    (tokens : c₁.pageTokens <+: c.pageTokens) : Descends c (x :: xs) c' where
  made := List.cons_ne_nil _ _
  length_le := by
    have := h.length_le
    rw [List.length_cons]; omega
  params := by
    intro i hi
    cases i with
    | zero => exact due
    | succ i =>
      have hi : i < xs.length := Nat.lt_of_succ_lt_succ hi
      rw [List.getElem_cons_succ, h.params i hi, params i (Nat.lt_of_lt_of_le hi h.length_le)]
      congr 2
      omega
  token := by
    intro i hi
    cases i with
    | zero =>
      show _ = some x.fetch.params.pagination.nextToken
      rw [due]
      exact hc.getElem_page
    | succ i =>
      have hi : i < xs.length := Nat.lt_of_succ_lt_succ hi
      have ht := getElem?_mono tokens (h.token i hi)
      rw [List.getElem_cons_succ, ← ht]
      congr 1
      omega
  empty := by
    intro y hy
    rw [List.dropLast_cons_of_ne_nil h.made] at hy
    rcases List.mem_cons.mp hy with rfl | hy
    · exact empty
    · exact h.empty y hy
  stops := by
    intro y hy
    obtain ⟨x', xs', rfl⟩ := List.exists_cons_of_ne_nil h.made
    exact h.stops y (by rwa [List.getLast?_cons_cons] at hy)
  page := by
    have := h.page
    rw [List.length_cons]; omega

/-- Rounds that start with a fetch go down page by page. -/
theorem Rounds.descends (h : Rounds source c s xs c' s') (hc : WellFormed c)
    (due : c.lastKey ≠ some c.key) : Descends c xs c' := by
  induction h with
  | idle none => exact absurd (Controller.nextFetch_eq_none_iff.mp none) due
  | @round c issued c₁ c' s s₁ s' fetch answer xs hn reply counts rest ih =>
    obtain ⟨-, rfl, rfl⟩ := Controller.round_eq hn counts
    have hwf := hc.applyAnswer answer
    have hkey := Controller.lastKey_applyAnswer c answer
    have hl := Controller.lands_applyAnswer c answer
    generalize c.issue.applyAnswer answer = c₁ at *
    cases hl with
    | failed e =>
      obtain ⟨rfl, rfl⟩ := rest.of_idle rfl
      exact descends_single rfl hc (.inl ⟨e, rfl⟩) rfl
    | @shown p _ stays key =>
      obtain ⟨rfl, rfl⟩ := rest.of_idle (hkey.trans (congrArg some key.symm))
      refine descends_single rfl hc (.inr ?_) (congrArg FetchKey.page key)
      rcases stays with full | first
      · exact .inl ⟨p, rfl, full⟩
      · exact .inr (Nat.le_antisymm first hc.page_pos)
    | @back p empty later =>
      exact (ih hwf (Controller.givenUp_due later)).cons rfl hc ⟨p, rfl, empty⟩
        (Nat.sub_add_cancel hc.page_pos)
        (fun i (hi : i < c.page - 1) => Controller.params_givenUp
          (show 1 ≤ c.page - 1 - i by omega) (show c.page - 1 - i < c.page by omega))
        (List.take_prefix _ _)

/-- From the first page no way leads back. -/
theorem Descends.eq_singleton (h : Descends c xs c') (first : c.page = 1) :
    ∃ x, xs = [x] ∧ x.fetch.params = c.params := by
  have hpos := List.length_pos_of_ne_nil h.made
  have hle := h.length_le
  obtain ⟨x, rfl⟩ := List.length_eq_one_iff.mp (show xs.length = 1 by omega)
  exact ⟨x, rfl, h.params 0 Nat.one_pos⟩

/-! ## Controllers at rest -/

namespace Controller

/-- No answer is awaited, and if there was a fetch, the last one was for what is shown. -/
structure Resting (c : Controller α) : Prop extends WellFormed c where
  unawaited : c.inFlight = none
  fetched : ∀ k, c.lastKey = some k → k = c.key

theorem resting_start (pageSize : Nat) (sorting : Sorting) (query : FilterQuery)
    (params : Dictionary String) : Resting (start pageSize sorting query params : Controller α) :=
  ⟨wellFormed_start .., rfl, nofun⟩

theorem WellFormed.not_loading (h : WellFormed c) (hf : c.inFlight = none) : c.loading = false := by
  rw [← Bool.not_eq_true, h.loading, hf]
  exact Bool.false_ne_true

/-- The first page is fetched anew: if it was the page of the last fetch, the refresh key is another
one. -/
theorem Resting.restarted_due (h : Resting c) (pageSize : Nat) (query : FilterQuery) :
    c.lastKey ≠ some (c.restarted pageSize query).key := by
  intro hk
  obtain ⟨hp, hk⟩ := h.lastKey_restarted_iff.mp hk
  exact hp (congrArg FetchKey.page (h.fetched _ hk)).symm

end Controller

/-- The rounds leave a controller at rest. -/
theorem Rounds.resting (h : Rounds source c s xs c' s') (hc : WellFormed c)
    (hf : c.inFlight = none) : c'.Resting where
  toWellFormed := h.wellFormed hc
  unawaited := h.inFlight hf
  fetched := fun _ hk =>
    Option.some.inj (hk.symm.trans (Controller.nextFetch_eq_none_iff.mp h.nextFetch_eq_none))

end CursorPaging.Paging
