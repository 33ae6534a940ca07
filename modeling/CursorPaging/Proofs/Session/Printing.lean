import CursorPaging.Proofs.Session.Message
import CursorPaging.Proofs.Session.Walking

/-!
# What a walk prints, and what it asks for

Facts about traces, each by induction on the trace:

* `Trace.numbers`, `Trace.rows`: the pages are printed in order, each with its own rows;
* `Trace.answered`, `Trace.unprinted`, `Trace.complete`: they are the first answers, those after
  them are errors or lead back to pages that were printed, and no page is left out at the end;
* `Trace.first_request`, `Trace.later_request`, `Trace.returns`: each page brought the token of the
  next request, and requests are repeated only on the way back;
* `Trace.failed_iff`, `Trace.summed`: how the walk ends;
* `Trace.limited`, `Trace.unfinished`: how long it takes.
-/

namespace CursorPaging.Session

/-- The rows of pages that are numbered from `first` on, each under the number of its page. -/
def numberedRows (first : Nat) (pages : List (ListPage Json)) : List (Nat × Json) :=
  (pages.zipIdx first).flatMap fun (p, number) => p.items.map (number, ·)

/-- The messages at the end of a walk that printed some pages and rows: a summary if the walk came
to its end, and none otherwise. -/
def Summed (resource : Resource) (pages records : Nat) : Ending → List Message → Prop
  | .completed, ms =>
    ∃ totalCount counter, ms = [.summary resource pages records totalCount counter]
  | _, ms => ms = []

theorem unprinted_nil (printed : Nat) : Unprinted printed [] := ⟨nofun, nofun, nofun⟩

variable {resource : Resource} {limit : Option Nat} {base : ListRequest} {moves records : Nat}
  {known : List (Option String)} {token : Option String} {xs : List (Paging.Exchange Json)}
  {pages : List (ListPage Json)} {ms : List Message} {ending : Ending}

/-- A retreat starts with the page that is asked for. -/
theorem Retreat.first_request (h : Retreat base token known xs) :
    ∃ x ys, xs = x :: ys ∧ x.fetch.params.toRequest = base.withToken token := by
  obtain ⟨x, ys, rfl⟩ := List.exists_cons_of_ne_nil h.made
  exact ⟨x, ys, rfl, (List.cons_prefix_cons.mp h.requests).1⟩

theorem Retreat.length_le (h : Retreat base token known xs) : xs.length ≤ known.length + 1 := by
  simpa using h.requests.length_le

namespace Trace

/-- Pages are numbered without a gap. -/
theorem numbers (h : Trace resource limit base moves records known token xs pages ms ending) :
    ms.filterMap Message.pageNumber? = List.range' (known.length + 1) pages.length := by
  induction h with
  | failed | back => rfl
  | last c _ _ _ _ page | paused c _ _ page =>
    simp [List.filterMap_append, Message.pageNumber?_ofPage, page, Message.pageNumber?]
  | next c _ _ page _ _ _ _ _ ih =>
    rw [List.filterMap_append, Message.pageNumber?_ofPage, ih, page]
    rfl

/-- Rows stand in order, under the numbers of their pages. -/
theorem rows (h : Trace resource limit base moves records known token xs pages ms ending) :
    ms.filterMap Message.row? = numberedRows (known.length + 1) pages := by
  induction h with
  | failed | back => rfl
  | last c _ _ _ _ page items | paused c _ _ page items =>
    simp [List.filterMap_append, Message.row?_ofPage, page, items, Message.row?, numberedRows]
  | next c _ _ page items _ _ _ _ ih =>
    rw [List.filterMap_append, Message.row?_ofPage, ih, page, items]
    rfl

/-! ## Answers -/

/-- The pages that are printed are the first answers. -/
theorem answered (h : Trace resource limit base moves records known token xs pages ms ending) :
    pages.map .ok <+: xs.map Paging.Exchange.answer := by
  induction h with
  | failed | back => exact List.nil_prefix
  | last _ _ _ _ answer | paused _ _ answer =>
    exact List.cons_prefix_cons.mpr ⟨answer.symm, List.nil_prefix⟩
  | next _ _ answer _ _ _ _ _ _ ih => exact List.cons_prefix_cons.mpr ⟨answer.symm, ih⟩

/-- Only the first page is printed when it has no items. -/
theorem full (h : Trace resource limit base moves records known token xs pages ms ending) :
    ∀ p ∈ pages, p.items ≠ [] ∨ known = [] ∧ pages = [p] := by
  induction h with
  | failed | back => exact nofun
  | last _ _ _ _ _ _ _ shown =>
    intro q hq
    obtain rfl := List.mem_singleton.mp hq
    exact shown.imp_right fun first => ⟨first, rfl⟩
  | paused _ _ _ _ _ full =>
    intro q hq
    obtain rfl := List.mem_singleton.mp hq
    exact .inl full
  | next _ _ _ _ _ full _ _ _ ih =>
    intro q hq
    rcases List.mem_cons.mp hq with rfl | hq
    · exact .inl full
    · exact .inl ((ih q hq).resolve_right fun h => List.cons_ne_nil _ _ h.1)

/-- What is fetched after the pages that are printed is not printed for a reason. -/
theorem unprinted (h : Trace resource limit base moves records known token xs pages ms ending) :
    Unprinted (known.length + pages.length)
      ((xs.drop pages.length).map Paging.Exchange.answer) := by
  induction h with
  | failed _ retreat | back _ _ retreat => exact retreat.unprinted
  | last | paused => exact unprinted_nil _
  | next _ _ _ _ _ _ _ _ _ ih =>
    rwa [List.length_cons, Nat.add_right_comm] at ih

/-- The end is reached without a fetch that prints nothing if the limit is, or if no page
follows. -/
theorem complete (h : Trace resource limit base moves records known token xs pages ms ending)
    (ends : ending = .completed) (printed : xs.length = pages.length) :
    (∃ p, pages.getLast? = some p ∧ p.Final) ∨
      ∃ n, limit = some n ∧ n ≤ known.length + pages.length := by
  induction h with
  | failed => cases ends
  | back _ _ retreat => exact absurd (List.length_eq_zero_iff.mp printed) retreat.made
  | last _ _ _ _ _ _ _ _ why => exact why.imp_left fun final => ⟨_, rfl, final⟩
  | paused => cases ends
  | @next _ _ _ _ _ _ _ _ pages _ _ _ _ _ _ _ _ _ _ rest ih =>
    rcases ih ends (Nat.succ.inj printed) with ⟨q, hq, final⟩ | ⟨n, hn, hle⟩
    · refine .inl ⟨q, ?_, final⟩
      rw [List.getLast?_cons, hq]
      rfl
    · rw [List.length_cons, Nat.add_right_comm] at hle
      exact .inr ⟨n, hn, hle⟩

/-! ## Requests -/

theorem first_request
    (h : Trace resource limit base moves records known token xs pages ms ending) :
    ∃ x ys, xs = x :: ys ∧ x.fetch.params.toRequest = base.withToken token := by
  cases h with
  | failed _ retreat | back _ _ retreat => exact retreat.first_request
  | last _ _ _ request | paused _ request | next _ request => exact ⟨_, _, rfl, request⟩

/-- The request after a page has its token. -/
theorem later_request
    (h : Trace resource limit base moves records known token xs pages ms ending) {k : Nat}
    {p : ListPage Json} {y : Paging.Exchange Json} (hp : pages[k]? = some p)
    (hy : xs[k + 1]? = some y) :
    ∃ t, p.nextToken = some t ∧ y.fetch.params.toRequest = base.withToken (some t) := by
  induction h generalizing k with
  | failed | back => cases hp
  | last | paused => cases hy
  | @next _ _ _ _ t x xs q pages ms ending c _ _ _ _ _ follows _ rest ih =>
    cases k with
    | zero =>
      obtain ⟨y', ys, rfl, hreq⟩ := rest.first_request
      cases hp
      cases hy
      exact ⟨t, follows, hreq⟩
    | succ k => exact ih hp hy

/-- The requests after the pages that are printed repeat those for these pages, the last one
first. -/
theorem returns (h : Trace resource limit base moves records known token xs pages ms ending) :
    (xs.drop pages.length).map (·.fetch.params.toRequest) <+:
      ((xs.take (pages.length + 1)).map (·.fetch.params.toRequest)).reverse ++
        known.map base.withToken := by
  induction h with
  | failed _ retreat | back _ _ retreat =>
    obtain ⟨x, ys, rfl, hx⟩ := retreat.first_request
    have hr := retreat.requests
    rw [List.map_cons (f := base.withToken), ← hx] at hr
    exact hr
  | last | paused => exact List.nil_prefix
  | next _ request _ _ _ _ _ _ _ ih =>
    rw [List.map_cons, ← request, List.append_cons] at ih
    rw [List.length_cons, List.take_succ_cons, List.map_cons, List.reverse_cons]
    exact ih

/-! ## Ends -/

/-- A walk fails as soon as a fetch does. -/
theorem failed_iff (h : Trace resource limit base moves records known token xs pages ms ending) :
    (∃ e, ending = .failed e) ↔ ∃ x ∈ xs, ∃ e, x.answer = .error e := by
  induction h with
  | failed _ _ error => exact iff_of_true ⟨_, rfl⟩ error
  | back _ _ _ answered =>
    refine iff_of_false nofun ?_
    rintro ⟨y, hy, e, he⟩
    obtain ⟨p, hp⟩ := answered y hy
    cases he.symm.trans hp
  | last _ _ _ _ answer | paused _ _ answer =>
    refine iff_of_false nofun ?_
    rintro ⟨y, hy, e, he⟩
    obtain rfl := List.mem_singleton.mp hy
    cases he.symm.trans answer
  | next _ _ answer _ _ _ _ _ _ ih =>
    rw [ih, List.exists_mem_cons_iff, answer]
    exact ⟨.inr, fun h => h.resolve_left nofun⟩

/-- Pages are followed by a summary of them, or by nothing. -/
theorem summed (h : Trace resource limit base moves records known token xs pages ms ending) :
    ∃ shown closing, ms = shown ++ closing ∧ (∀ m ∈ shown, m.isSummary = false) ∧
      Summed resource (known.length + pages.length)
        (records + (ms.filterMap Message.row?).length) ending closing := by
  induction h with
  | failed => exact ⟨[], [], rfl, nofun, rfl⟩
  | back totalCount counter => exact ⟨[], _, rfl, nofun, totalCount, counter, rfl⟩
  | last c totalCount counter _ _ _ items =>
    refine ⟨_, _, rfl, Message.isSummary_ofPage _ c, totalCount, counter, ?_⟩
    simp [List.filterMap_append, Message.row?_ofPage, items, Message.row?]
  | paused c => exact ⟨_, [], (List.append_nil _).symm, Message.isSummary_ofPage _ c, rfl⟩
  | @next moves records known token t x xs p pages ms ending c _ _ _ items _ _ _ _ ih =>
    obtain ⟨shown, closing, rfl, hshown, hsum⟩ := ih
    refine ⟨Message.ofPage resource c ++ shown, closing, (List.append_assoc ..).symm, ?_, ?_⟩
    · exact List.forall_mem_append.mpr ⟨Message.isSummary_ofPage _ c, hshown⟩
    · rw [List.length_cons, Nat.add_right_comm] at hsum
      rw [List.filterMap_append, List.length_append, Message.row?_ofPage, List.length_map, items,
        List.length_cons, ← Nat.add_assoc records, ← Nat.add_assoc]
      exact hsum

/-- Under a limit, a walk prints no more pages, and asks for less than twice as many. -/
theorem limited {n : Nat}
    (h : Trace resource (some n) base moves records known token xs pages ms ending)
    (wanted : known.length < n) :
    known.length + pages.length ≤ n ∧ known.length + xs.length < 2 * n ∧
      (n ≤ known.length + 1 + moves → ending ≠ .unfinished) := by
  generalize hl : some n = limit at h
  induction h with
  | failed _ retreat | back _ _ retreat =>
    have := retreat.length_le
    rw [List.length_nil]
    exact ⟨by omega, by omega, fun _ => nofun⟩
  | last =>
    simp only [List.length_singleton]
    exact ⟨by omega, by omega, fun _ => nofun⟩
  | paused _ _ _ _ _ _ within =>
    have := within n hl.symm
    simp only [List.length_singleton]
    exact ⟨by omega, by omega, fun _ => by omega⟩
  | next _ _ _ _ _ _ _ within _ ih =>
    obtain ⟨hpages, hxs, hend⟩ := ih (within n hl.symm)
    simp only [List.length_cons] at hpages hxs hend ⊢
    exact ⟨by omega, by omega, fun hn => hend (by omega)⟩

/-- A walk that is not over has used up its moves. -/
theorem unfinished
    (h : Trace resource limit base moves records known token xs pages ms ending)
    (hending : ending = .unfinished) : pages.length = moves + 1 := by
  induction h with
  | failed | back | last => cases hending
  | paused => rfl
  | next _ _ _ _ _ _ _ _ _ ih => rw [List.length_cons, ih hending]

end Trace

end CursorPaging.Session
