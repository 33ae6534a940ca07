import CursorPaging.Session.Listing
import CursorPaging.Proofs.Paging.Frontier

/-!
# A walk through the pages of a list

A walk fetches page after page, each of them once the one before it has brought its token. `Trace`
says what it does with the answers; its constructors are the ways in which the fetch of the next
page can turn out:

* `Walk.run_failed`, `run_ended`, `run_paused`, `run_next`: one step of the walk;
* `Walk.run_more`: the number of moves is a bound and nothing else;
* `retreat_of_descends`: fetches that print nothing (`Retreat`) go back over the pages that were
  printed;
* `trace_run`, `trace_list`: every walk has a trace.
-/

namespace CursorPaging.Session

variable {σ : Type} {source : Paging.Source σ Json} {resource : Resource} {limit : Option Nat}
  {moves : Nat} {w : Walk σ}

namespace Walk

theorem print_new (h : w.printed < w.table.controller.page) :
    w.print resource = (Message.ofPage resource w.table.controller,
      ⟨w.table, w.table.controller.page, w.records + w.table.controller.items.length⟩) := if_pos h

/-- A page that the walk has come back to is not printed again. -/
theorem print_old (h : ¬w.printed < w.table.controller.page) : w.print resource = ([], w) :=
  if_neg h

theorem run_failed (h : w.table.controller.failed = true) :
    run source resource limit moves w =
      ⟨[], .failed (pageError w.table.controller), w.table.source⟩ := by
  rw [run, if_pos h]

section Printed

variable {ms : List Message} {w' : Walk σ} (hp : w.print resource = (ms, w'))
  (h : w.table.controller.failed = false)

include hp h

theorem run_ended (hg : w'.goesOn limit = false) :
    run source resource limit moves w =
      ⟨ms ++ [w'.summary resource], .completed, w'.table.source⟩ := by
  rw [run, h, if_neg Bool.false_ne_true, hp]
  exact if_neg (Bool.eq_false_iff.mp hg)

theorem run_paused (hg : w'.goesOn limit = true) :
    run source resource limit 0 w = ⟨ms, .unfinished, w'.table.source⟩ := by
  rw [run, h, if_neg Bool.false_ne_true, hp]
  exact if_pos hg

theorem run_next (hg : w'.goesOn limit = true) {t : Paging.Table σ Json}
    {xs : List (Paging.Exchange Json)} (hh : w'.table.handle source .nextPage = .ok (t, xs)) :
    run source resource limit (moves + 1) w =
      let rest := run source resource limit moves ⟨t, w'.printed, w'.records⟩
      { rest with messages := ms ++ rest.messages } := by
  rw [run, h, if_neg Bool.false_ne_true, hp]
  refine (if_pos hg).trans ?_
  simp only [hh]

theorem run_refused (hg : w'.goesOn limit = true) {e : Error}
    (hh : w'.table.handle source .nextPage = .error e) :
    run source resource limit (moves + 1) w = ⟨ms, .failed e, w'.table.source⟩ := by
  rw [run, h, if_neg Bool.false_ne_true, hp]
  refine (if_pos hg).trans ?_
  simp only [hh]

end Printed

/-- More moves than a walk needs make no difference. -/
theorem run_more (ends : (run source resource limit moves w).ending ≠ .unfinished) (more : Nat) :
    run source resource limit (moves + more) w = run source resource limit moves w := by
  induction moves using Nat.strongRecOn generalizing w with
  | _ moves ih =>
  cases hf : w.table.controller.failed with
  | true => rw [run_failed hf, run_failed hf]
  | false =>
    cases hg : (w.print resource).2.goesOn limit with
    | false => rw [run_ended rfl hf hg, run_ended rfl hf hg]
    | true =>
      cases moves with
      | zero =>
        rw [run_paused rfl hf hg] at ends
        exact absurd rfl ends
      | succ moves =>
        rw [Nat.succ_add]
        cases hh : (w.print resource).2.table.handle source .nextPage with
        | error e => rw [run_refused rfl hf hg hh, run_refused rfl hf hg hh]
        | ok r =>
          rw [run_next rfl hf hg hh] at ends ⊢
          rw [run_next rfl hf hg hh, ih moves (Nat.lt_succ_self _) ends]

end Walk

/-! ## Traces -/

/-- Answers none of which is printed, after some pages that were: the page after these cannot be
fetched or has no items. In the latter case the pages before it are fetched again, from the last one
on, until there is an error, a page with items or no page left. -/
structure Unprinted (printed : Nat) (answers : List (Except Error (ListPage Json))) : Prop where
  first : ∀ a, answers.head? = some a →
    (∃ e, a = .error e) ∨ 1 ≤ printed ∧ ∃ p, a = .ok p ∧ p.items = []
  empty : ∀ a ∈ answers.dropLast, ∃ p, a = .ok p ∧ p.items = []
  stops : ∀ a, answers.getLast? = some a →
    (∃ e, a = .error e) ∨ (∃ p, a = .ok p ∧ p.items ≠ []) ∨ answers.length = printed + 1

/-- The fetches of a walk that print nothing: those of the pages of a stack of tokens, from its top
on. -/
structure Retreat (base : ListRequest) (token : Option String) (known : List (Option String))
    (xs : List (Paging.Exchange Json)) : Prop where
  made : xs ≠ []
  requests : xs.map (·.fetch.params.toRequest) <+: (token :: known).map base.withToken
  unprinted : Unprinted known.length (xs.map Paging.Exchange.answer)

/-- What a walk does from the first fetch of a page on: its fetches, those of their answers that are
printed, and the messages. `token` is the one for the page, and `known` are those for the pages
printed before it, the last one first; these had `records` rows. -/
inductive Trace (resource : Resource) (limit : Option Nat) (base : ListRequest) :
    (moves records : Nat) → (known : List (Option String)) → (token : Option String) →
      List (Paging.Exchange Json) → List (ListPage Json) → List Message → Ending → Prop where
  /-- The page cannot be fetched, or it is empty and one of those before it cannot be fetched. -/
  | failed {moves records : Nat} {known : List (Option String)} {token : Option String}
      {xs : List (Paging.Exchange Json)} (c : Paging.Controller Json)
      (retreat : Retreat base token known xs) (error : ∃ x ∈ xs, ∃ e, x.answer = .error e) :
    Trace resource limit base moves records known token xs [] [] (.failed (Walk.pageError c))
  /-- The page is empty, and a page that was printed before is the last one. -/
  | back {moves records : Nat} {known : List (Option String)} {token : Option String}
      {xs : List (Paging.Exchange Json)} (totalCount : Nat) (counter : String)
      (retreat : Retreat base token known xs) (answered : ∀ x ∈ xs, ∃ p, x.answer = .ok p) :
    Trace resource limit base moves records known token xs []
      [.summary resource known.length records totalCount counter] .completed
  /-- The page is the last one, or the last one that is wanted. -/
  | last {moves records : Nat} {known : List (Option String)} {token : Option String}
      {x : Paging.Exchange Json} {p : ListPage Json} (c : Paging.Controller Json)
      (totalCount : Nat) (counter : String)
      (request : x.fetch.params.toRequest = base.withToken token) (answer : x.answer = .ok p)
      (page : c.page = known.length + 1) (items : c.items = p.items)
      (shown : p.items ≠ [] ∨ known = [])
      (ends : p.Final ∨ ∃ n, limit = some n ∧ n ≤ known.length + 1) :
    Trace resource limit base moves records known token [x] [p]
      (Message.ofPage resource c ++
        [.summary resource (known.length + 1) (records + p.items.length) totalCount counter])
      .completed
  /-- There is a next page, and no move left. -/
  | paused {records : Nat} {known : List (Option String)} {token : Option String}
      {x : Paging.Exchange Json} {p : ListPage Json} (c : Paging.Controller Json)
      (request : x.fetch.params.toRequest = base.withToken token) (answer : x.answer = .ok p)
      (page : c.page = known.length + 1) (items : c.items = p.items) (full : p.items ≠ [])
      (within : ∀ n, limit = some n → known.length + 1 < n) :
    Trace resource limit base 0 records known token [x] [p] (Message.ofPage resource c)
      .unfinished
  /-- There is a next page, and the walk moves on to it. -/
  | next {moves records : Nat} {known : List (Option String)} {token : Option String} {t : String}
      {x : Paging.Exchange Json} {xs : List (Paging.Exchange Json)} {p : ListPage Json}
      {pages : List (ListPage Json)} {ms : List Message} {ending : Ending}
      (c : Paging.Controller Json)
      (request : x.fetch.params.toRequest = base.withToken token) (answer : x.answer = .ok p)
      (page : c.page = known.length + 1) (items : c.items = p.items) (full : p.items ≠ [])
      (follows : p.nextToken = some t) (within : ∀ n, limit = some n → known.length + 1 < n)
      (rest : Trace resource limit base moves (records + p.items.length) (token :: known) (some t)
        xs pages ms ending) :
    Trace resource limit base (moves + 1) records known token (x :: xs) (p :: pages)
      (Message.ofPage resource c ++ ms) ending

section GoesOn

variable {t : Paging.Table σ Json} {printed records : Nat}

theorem goesOn_of_last (last : t.controller.page = t.controller.pageTokens.length) :
    Walk.goesOn limit ⟨t, printed, records⟩ = false := by
  have hlt : ¬t.controller.page < t.controller.pageTokens.length := by omega
  simp only [Walk.goesOn, hlt, decide_false, Bool.false_and]

/-- Before a known page a walk goes on unless the limit is reached. -/
theorem goesOn_of_more (more : t.controller.page < t.controller.pageTokens.length) :
    Walk.goesOn limit ⟨t, printed, records⟩ = true ↔ ∀ n, limit = some n → printed < n := by
  simp only [Walk.goesOn, more, decide_true, Bool.true_and]
  cases limit <;> simp

/-- A walk that stops before a known page has reached its limit. -/
theorem limit_of_stops (more : t.controller.page < t.controller.pageTokens.length)
    (stops : Walk.goesOn limit ⟨t, printed, records⟩ = false) :
    ∃ n, limit = some n ∧ n ≤ printed := by
  simp only [Walk.goesOn, more, decide_true, Bool.true_and] at stops
  cases limit with
  | none => cases stops
  | some n => exact ⟨n, rfl, by simpa using stops⟩

end GoesOn

/-- Fetches that go down from a page bring nothing new, unless the first of them brings items. -/
theorem unprinted_of_descends {printed : Nat} {c c' : Paging.Controller Json}
    {xs : List (Paging.Exchange Json)} (hd : Paging.Descends c xs c') (page : c.page = printed + 1)
    (unfound : (∃ x ∈ xs, ∃ e, x.answer = .error e) ∨ c'.page < c.page) :
    Unprinted printed (xs.map Paging.Exchange.answer) := by
  have hpage := hd.page
  have hle := hd.length_le
  refine ⟨?first, ?empty, ?stops⟩
  case first =>
    intro a ha
    obtain ⟨x, ys, rfl⟩ := List.exists_cons_of_ne_nil hd.made
    cases ha
    rw [List.length_cons] at hpage hle
    by_cases hys : ys = []
    · -- the only fetch left the controller on its page, so it has failed
      subst hys
      have hstays : ¬c'.page < c.page := Nat.not_lt.mpr (Nat.le_of_eq (Nat.succ.inj hpage).symm)
      obtain ⟨y, hy, he⟩ := unfound.resolve_right hstays
      rw [← List.mem_singleton.mp hy]
      exact .inl he
    · have hpos := List.length_pos_of_ne_nil hys
      refine .inr ⟨by omega, hd.empty x ?_⟩
      rw [List.dropLast_cons_of_ne_nil hys]
      exact List.mem_cons_self
  case empty =>
    intro a ha
    rw [← List.map_dropLast] at ha
    obtain ⟨x, hx, rfl⟩ := List.mem_map.mp ha
    exact hd.empty x hx
  case stops =>
    intro a ha
    rw [List.getLast?_map] at ha
    obtain ⟨x, hx, rfl⟩ := Option.map_eq_some_iff.mp ha
    rw [List.length_map]
    exact (hd.stops x hx).imp_right (Or.imp_right fun first => by
      have := hd.page_getLast hx
      omega)

/-- Fetches from the page after the known ones on print nothing unless the first of them brings
items. -/
theorem retreat_of_descends {base : ListRequest} {known : List (Option String)}
    {c c' : Paging.Controller Json} {xs : List (Paging.Exchange Json)}
    (hd : Paging.Descends c xs c') (last : c.page = c.pageTokens.length)
    (stack : c.pageTokens.reverse = c.currentToken :: known)
    (request : ∀ token, c.params.toRequest.withToken token = base.withToken token)
    (unfound : (∃ x ∈ xs, ∃ e, x.answer = .error e) ∨ c'.page < c.page) :
    Retreat base c.currentToken known xs where
  made := hd.made
  requests := by
    have h := hd.requests last
    rwa [stack, funext request] at h
  unprinted := by
    refine unprinted_of_descends hd ?_ unfound
    rw [last, ← List.length_reverse, stack, List.length_cons]

/-- A walk that ends with a new page. -/
theorem trace_last {base : ListRequest} {records : Nat} {known : List (Option String)}
    {token : Option String} {t : Paging.Table σ Json} {x : Paging.Exchange Json} {p : ListPage Json}
    (request : x.fetch.params.toRequest = base.withToken token) (answer : x.answer = .ok p)
    (failed : t.controller.failed = false) (page : t.controller.page = known.length + 1)
    (items : t.controller.items = p.items) (shown : p.items ≠ [] ∨ known = [])
    (ends : p.Final ∨ ∃ n, limit = some n ∧ n ≤ known.length + 1)
    (stops : Walk.goesOn limit ⟨t, t.controller.page, records + t.controller.items.length⟩ =
      false) :
    let o := Walk.run source resource limit moves ⟨t, known.length, records⟩
    o.network = t.source ∧
      Trace resource limit base moves records known token [x] [p] o.messages o.ending := by
  have new : known.length < t.controller.page := by omega
  rw [Walk.run_ended (Walk.print_new new) failed stops]
  refine ⟨rfl, ?_⟩
  have h : Trace resource limit base moves records known token [x] [p] _ _ :=
    .last t.controller t.controller.totalCount t.controller.counter request answer page items shown
      ends
  rwa [← items, ← page] at h

/-- A walk from the rounds on in which a table fetches its next page. -/
theorem trace_run (resource : Resource) (limit : Option Nat) (moves records : Nat)
    {base : ListRequest} {known : List (Option String)} {t : Paging.Table σ Json}
    {xs : List (Paging.Exchange Json)} {c' : Paging.Controller Json} {s' : σ}
    (ht : t.controller.Frontier) (hr : Paging.Rounds source t.controller t.source xs c' s')
    (stack : t.controller.pageTokens.reverse = t.controller.currentToken :: known)
    (request : ∀ token, t.controller.params.toRequest.withToken token = base.withToken token) :
    let o := Walk.run source resource limit moves
      ⟨{ t with controller := c', source := s' }, known.length, records⟩
    ∃ ys pages, Paging.Replies source t.source ys o.network ∧
      Trace resource limit base moves records known t.controller.currentToken ys pages
        o.messages o.ending := by
  -- only a walk that finds a page and goes on makes a move
  induction moves using Nat.strongRecOn generalizing t known records xs c' s' with
  | _ moves ih =>
  have hfirst : t.controller.params.toRequest = base.withToken t.controller.currentToken :=
    request t.controller.currentToken
  have page : t.controller.page = known.length + 1 := by
    rw [ht.last, ← List.length_reverse, stack, List.length_cons]
  cases ht.arrival hr with
  | failed descends failed error =>
    rw [Walk.run_failed failed]
    exact ⟨_, [], hr.replies,
      .failed _ (retreat_of_descends descends ht.last stack request (.inl error)) error⟩
  | returned descends failed answered back last =>
    have old : ¬known.length < c'.page := by omega
    rw [Walk.run_ended (Walk.print_old old) failed (goesOn_of_last last)]
    exact ⟨_, [], hr.replies,
      .back _ _ (retreat_of_descends descends ht.last stack request (.inr back)) answered⟩
  | @ended x p _ params answer failed same items last final shown =>
    have hknown : p.items ≠ [] ∨ known = [] :=
      shown.imp_right fun first => List.length_eq_zero_iff.mp (by omega)
    obtain ⟨hnet, htrace⟩ := trace_last (t := { t with controller := c', source := s' })
      (by rw [params]; exact hfirst) answer failed (same.trans page) items hknown (.inl final)
      (goesOn_of_last last)
    exact ⟨_, [p], by rw [hnet]; exact hr.replies, htrace⟩
  | @found x p token _ params answer failed same items full follows tokens opened =>
    have hx : x.fetch.params.toRequest = base.withToken t.controller.currentToken := by
      rw [params]; exact hfirst
    have new : known.length < c'.page := by omega
    have more : c'.page < c'.pageTokens.length := by
      rw [tokens, List.length_append, ← ht.last, same]
      exact Nat.lt_succ_self _
    cases hg : Walk.goesOn limit
        ⟨{ t with controller := c', source := s' }, c'.page, records + c'.items.length⟩ with
    | false =>
      have hlimit : ∃ n, limit = some n ∧ n ≤ known.length + 1 := by
        rw [← page, ← same]
        exact limit_of_stops more hg
      obtain ⟨hnet, htrace⟩ := trace_last (t := { t with controller := c', source := s' })
        hx answer failed (same.trans page) items (.inl full) (.inr hlimit) hg
      exact ⟨_, [p], by rw [hnet]; exact hr.replies, htrace⟩
    | true =>
      have within : ∀ n, limit = some n → known.length + 1 < n := by
        rw [← page, ← same]
        exact (goesOn_of_more more).mp hg
      cases moves with
      | zero =>
        rw [Walk.run_paused (Walk.print_new new) failed hg]
        exact ⟨_, [p], hr.replies, .paused c' hx answer (same.trans page) items full within⟩
      | succ moves =>
        have hu := Paging.Table.nextPage_of_known
          (t := { t with controller := c', source := s' }) more
        have htoken := ht.token same tokens
        have hstack : ({ c' with page := c'.page + 1 } : Paging.Controller Json).pageTokens.reverse =
            ({ c' with page := c'.page + 1 } : Paging.Controller Json).currentToken ::
              t.controller.currentToken :: known := by
          rw [htoken, ← stack]
          show c'.pageTokens.reverse = _
          rw [tokens, List.reverse_concat]
        rw [Walk.run_next (Walk.print_new new) failed hg (Paging.Table.handle_of_ok hu)]
        obtain ⟨ys, pages, hrest, htrace⟩ := ih moves (Nat.lt_succ_self _)
          (records + c'.items.length)
          (t := ⟨s', { c' with page := c'.page + 1 }, t.preferences, t.pageSizes⟩)
          (ht.next hr same tokens opened) (Paging.rounds_settle ..) hstack
          (fun token => (hr.request token).trans (request token))
        have hprinted : (t.controller.currentToken :: known).length = c'.page :=
          (same.trans page).symm
        rw [hprinted] at hrest htrace
        rw [htoken] at htrace
        refine ⟨x :: ys, p :: pages, hr.replies.append hrest,
          .next c' hx answer (same.trans page) items full follows within ?_⟩
        rwa [← items]

/-- A list of a fresh table. -/
theorem trace_list (source : Paging.Source σ Json) (resource : Resource) (limit : Option Nat)
    (moves : Nat) {t : Paging.Table σ Json} {pageSize : Nat} {sorting : Sorting}
    {query : FilterQuery} {params : Dictionary String}
    (fresh : t.controller = .start pageSize sorting query params) :
    let o := list source resource limit moves t
    ∃ xs pages, Paging.Replies source t.source xs o.network ∧
      Trace resource limit t.controller.params.toRequest moves 0 [] none xs pages o.messages
        o.ending := by
  have ht : t.controller.Frontier := by
    rw [fresh]
    exact Paging.Controller.frontier_start ..
  have token : t.controller.currentToken = none := by
    rw [fresh]
    rfl
  rw [← token]
  exact trace_run resource limit moves 0 ht (Paging.rounds_settle source _ _)
    (by rw [fresh]; rfl) (fun _ => rfl)

end CursorPaging.Session
