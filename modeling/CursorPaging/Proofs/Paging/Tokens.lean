import CursorPaging.Proofs.Paging.Freshness

/-!
# Where known tokens come from

Events forget tokens from the end of the list or all at once, and learn them one at a time: from an
answer that counts and has items, while the last known page is the current one. So the known tokens
are always a chain that the source handed out, each in the answer to a request with the one before:

* `TokenStep`, `tokenStep`: what an event can do to the known tokens;
* `Chain.concat`, `Initial.chain`: how a chain grows, and that the known tokens are one;
* `run_tokens_brought`: the same with the tokens that were sent.
-/

namespace CursorPaging.Paging.Controller

variable {α : Type} {c c' : Controller α} {e : Event α}

/-! ## One event -/

/-- The ways in which an event changes the known tokens. -/
inductive TokenStep (c : Controller α) : Event α → Controller α → Prop where
  | kept {e : Event α} {c' : Controller α} (tokens : c'.pageTokens <+: c.pageTokens)
      (query : c'.query = c.query) : TokenStep c e c'
  | restarted {e : Event α} {c' : Controller α} (tokens : c'.pageTokens = [none]) :
    TokenStep c e c'
  | learned {g : Nat} {p : ListPage α} {t : String} {c' : Controller α}
      (awaited : c.inFlight = some g) (current : c.lastKey = some c.key) (full : p.items ≠ [])
      (token : p.nextToken = some t) (last : c.page = c.pageTokens.length)
      (tokens : c'.pageTokens = c.pageTokens ++ [some t]) (query : c'.query = c.query) :
    TokenStep c (.complete g (.ok p)) c'

theorem TokenStep.refl (c : Controller α) (e : Event α) : TokenStep c e c :=
  .kept List.prefix_rfl rfl

/-- A page either adds the token that came with it, or no token at all. -/
theorem Shows.tokenStep {p : ListPage α} (h : Shows c.landed p c') {g : Nat}
    (awaited : c.inFlight = some g) (current : c.lastKey = some c.key) :
    TokenStep c (.complete g (.ok p)) c' := by
  cases h with
  | back | void => exact .kept (List.take_prefix _ _) rfl
  | inside | counted | ended => exact .kept List.prefix_rfl rfl
  | grown t full last token => exact .learned awaited current full token last rfl rfl

/-- Every event keeps the tokens, cuts them off, starts anew or learns one more. -/
theorem Transition.tokenStep (h : Transition c e c') : TokenStep c e c' := by
  cases h with
  | idle | ignored | unmoved | sameQuery | sameSize => exact .refl c _
  | issued | broken | moved | sorted | refreshed => exact .kept List.prefix_rfl rfl
  | shown awaited current shows => exact shows.tokenStep awaited current
  | queried | resized | reset => exact .restarted rfl
  | deleted => exact .kept (List.take_prefix _ _) rfl

theorem tokenStep (c : Controller α) (e : Event α) : TokenStep c e (c.step e) :=
  (transition_step c e).tokenStep

/-- A controller that has changed its query since the last fetch knows the first page only. -/
theorem Initial.length_pageTokens (hc : Initial c) (es : List (Event α)) {k : FetchKey}
    (hk : (c.run es).lastKey = some k) (hq : k.query ≠ (c.run es).query) :
    (c.run es).pageTokens.length = 1 := by
  induction es using List.reverseRecOn generalizing k with
  | nil => rw [run_nil, hc.lastKey] at hk; cases hk
  | append_singleton es e ih =>
    have hpos := (hc.wellFormed_run (es ++ [e])).tokens.length_pos
    rw [run_concat] at hk hq hpos ⊢
    have ht := tokenStep (c.run es) e
    rcases step_fetch (c.run es) e with ⟨-, hs⟩ | ⟨-, -, hl, -⟩
    · rw [hs] at hk hq
      cases hk
      exact absurd rfl hq
    · rw [hl] at hk
      generalize (c.run es).step e = c' at ht hq hpos ⊢
      cases ht with
      | kept tokens query =>
        have hle := tokens.length_le
        rw [query] at hq
        have := ih hk hq
        omega
      | restarted tokens => rw [tokens]; rfl
      | learned awaited current full token last tokens query =>
        -- An answer counts only while the query is that of the fetch.
        rw [query, Option.some.inj (hk.symm.trans current)] at hq
        exact absurd rfl hq

/-! ## Runs -/

/-- A run shows the answer of a fetch on the given page: it has items, and the token comes with
it. -/
def Brought (c : Controller α) (es : List (Event α)) (f : Fetch) (page : Nat)
    (token : Option String) : Prop :=
  ∃ before p after, es = before ++ .complete f.generation (.ok p) :: after ∧
    f ∈ c.fetches before ∧ ((c.run before).complete f.generation (.ok p)).1 = true ∧
    (c.run before).page = page ∧ p.items ≠ [] ∧ p.nextToken = token

/-- A chain of tokens: each but the first was brought by the answer to a request that had the token
before it, and all these requests had the same query. -/
def Chain (c : Controller α) (es : List (Event α)) (tokens : List (Option String))
    (query : FilterQuery) : Prop :=
  ∀ i t, 1 ≤ i → tokens[i]? = some t →
    ∃ f, Brought c es f i t ∧ tokens[i - 1]? = some f.params.pagination.nextToken ∧
      f.params.query = query

section Chains

variable {es : List (Event α)} {tokens tokens' : List (Option String)} {query : FilterQuery}
  {f : Fetch} {page : Nat} {token : Option String}

theorem Brought.append (h : Brought c es f page token) (es' : List (Event α)) :
    Brought c (es ++ es') f page token := by
  obtain ⟨before, p, after, rfl, h⟩ := h
  exact ⟨before, p, after ++ es', by simp, h⟩

theorem chain_singleton (c : Controller α) (es : List (Event α)) (token : Option String)
    (query : FilterQuery) : Chain c es [token] query := by
  intro i t hi ht
  rw [List.getElem?_eq_none (show 1 ≤ i from hi)] at ht
  cases ht

theorem Chain.append (h : Chain c es tokens query) (es' : List (Event α)) :
    Chain c (es ++ es') tokens query := by
  intro i t hi ht
  obtain ⟨f, hb, hf⟩ := h i t hi ht
  exact ⟨f, hb.append es', hf⟩

/-- A chain that is cut off is a chain. -/
theorem Chain.mono (h : Chain c es tokens query) (hp : tokens' <+: tokens) :
    Chain c es tokens' query := by
  intro i t hi ht
  obtain ⟨f, hb, hprev, hq⟩ := h i t hi (getElem?_mono hp ht)
  have hlt : i - 1 < tokens'.length := by
    have := (List.getElem?_eq_some_iff.mp ht).1
    omega
  have hold := getElem?_mono hp (List.getElem?_eq_getElem hlt)
  exact ⟨f, hb, by rw [List.getElem?_eq_getElem hlt, ← hold, hprev], hq⟩

/-- A chain grows by a token that was brought by a fetch with its last one. -/
theorem Chain.concat (h : Chain c es tokens query) (hb : Brought c es f tokens.length token)
    (hprev : tokens[tokens.length - 1]? = some f.params.pagination.nextToken)
    (hq : f.params.query = query) : Chain c es (tokens ++ [token]) query := by
  intro i t hi ht
  rcases getElem?_concat_cases ht with ⟨hlt, hold⟩ | ⟨rfl, rfl⟩
  · obtain ⟨f', hb', hprev', hq'⟩ := h i t hi hold
    exact ⟨f', hb', by rw [List.getElem?_append_left (by omega), hprev'], hq'⟩
  · exact ⟨f, hb, by rw [List.getElem?_append_left (by omega), hprev], hq⟩

end Chains

/-- An answer with items that counts is that of a request with the token of the current page. -/
theorem Initial.brought (hc : Initial c) {es : List (Event α)} {g : Nat} {p : ListPage α}
    (awaited : (c.run es).inFlight = some g) (current : (c.run es).lastKey = some (c.run es).key)
    (full : p.items ≠ []) :
    ∃ f, Brought c (es ++ [.complete g (.ok p)]) f (c.run es).page p.nextToken ∧
      f.params.pagination.nextToken = (c.run es).currentToken ∧
      f.params.query = (c.run es).query := by
  obtain ⟨f, hl, rfl, hk⟩ := hc.exists_getLast awaited
  have hm := List.mem_of_getLast? hl
  have hkey : f.key = (c.run es).key := Option.some.inj (hk.symm.trans current)
  have hp := (hc.fits hm awaited).1.params_eq (hc.wellFormed_run es) hkey
  have hcounts := congrArg Prod.fst (complete_of_current (.ok p) awaited current)
  refine ⟨f, ⟨es, p, [], rfl, hm, hcounts, rfl, full, rfl⟩, ?_, ?_⟩
  · rw [hp]; rfl
  · rw [hp]; rfl

/-- After every run the known tokens form a chain. -/
theorem Initial.chain (hc : Initial c) (es : List (Event α)) :
    Chain c es (c.run es).pageTokens (c.run es).query := by
  induction es using List.reverseRecOn with
  | nil =>
    obtain ⟨_, _, _, _, rfl⟩ := hc
    exact chain_singleton _ _ _ _
  | append_singleton es e ih =>
    have hwf := hc.wellFormed_run es
    have hs := tokenStep (c.run es) e
    rw [run_concat]
    generalize (c.run es).step e = c' at hs ⊢
    cases hs with
    | kept tokens query => rw [query]; exact (ih.append [e]).mono tokens
    | restarted tokens => rw [tokens]; exact chain_singleton _ _ _ _
    | learned awaited current full token last tokens query =>
      obtain ⟨f, hb, hprev, hq⟩ := hc.brought awaited current full
      rw [tokens, query]
      rw [token, last] at hb
      refine (ih.append _).concat hb ?_ hq
      rw [← last, hprev]
      exact hwf.getElem_page

theorem issues_eq_some {f : Fetch} (h : c.issues e = some f) :
    e = .nextFetch ∧ f.params = c.params := by
  cases e with
  | nextFetch =>
    obtain ⟨⟨f', c'⟩, hn, rfl⟩ := Option.map_eq_some_iff.mp h
    simp only [nextFetch, Option.ite_none_left_eq_some, Option.some.injEq, Prod.mk.injEq] at hn
    exact ⟨rfl, by rw [← hn.2.1]⟩
  | _ => cases h

/-- The place at which a fetch was issued. -/
theorem exists_issued {es : List (Event α)} {f : Fetch} (h : f ∈ c.fetches es) :
    ∃ before after, es = before ++ .nextFetch :: after ∧ f.params = (c.run before).params := by
  induction es generalizing c with
  | nil => cases h
  | cons e es ih =>
    rcases List.mem_append.mp h with h | h
    · obtain ⟨rfl, hf⟩ := issues_eq_some (Option.mem_toList.mp h)
      exact ⟨[], es, rfl, hf⟩
    · obtain ⟨before, after, rfl, hf⟩ := ih h
      exact ⟨e :: before, after, rfl, hf⟩

/-- The known tokens are a chain: each came, on the page before its own, with the answer to a
request that had the token before it and the query of now. And no fetch sends a token that came
with the answer to another query. -/
theorem run_tokens_brought (pageSize : Nat) (sorting : Sorting) (query : FilterQuery)
    (params : Dictionary String) (es : List (Event α)) :
    let c : Controller α := start pageSize sorting query params
    Chain c es (c.run es).pageTokens (c.run es).query ∧
      ∀ f ∈ c.fetches es, ∀ t, f.params.pagination.nextToken = some t →
        ∃ f', Brought c es f' (f.params.pagination.page - 1) (some t) ∧
          f'.params.query = f.params.query := by
  intro c
  have hc : Initial c := initial_start pageSize sorting query params
  refine ⟨hc.chain es, fun f hf t ht => ?_⟩
  obtain ⟨before, after, rfl, hp⟩ := exists_issued hf
  have hwf := hc.wellFormed_run before
  rw [hp] at ht ⊢
  have ht : (c.run before).currentToken = some t := ht
  have hlt : 1 ≤ (c.run before).page - 1 := by
    by_contra h
    obtain ⟨later, hl, -⟩ := hwf.tokens
    rw [currentToken, hl, show (c.run before).page - 1 = 0 by omega] at ht
    cases ht
  obtain ⟨f', hb, -, hq⟩ := hc.chain before _ _ hlt (hwf.getElem_page.trans (congrArg some ht))
  exact ⟨f', hb.append _, hq⟩

end CursorPaging.Paging.Controller
