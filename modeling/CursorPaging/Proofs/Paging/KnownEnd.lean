import CursorPaging.Proofs.Paging.Invariant

/-!
# Lists whose end is known

Once the end of a list is known, pages can only turn out to be gone: no answer opens the end again
or adds a token, not even that of the fetch which follows an empty page. The end is looked for anew
when the list restarts, when the last known page is refreshed and when items before it are deleted;
every other event leaves a known end alone (`LeavesEnd`):

* `Shows.endsWithin`, `Transition.endsWithin`: what a page and an event do to a known end;
* `WellFormed.openEnd_step_iff`: the events that leave it alone are no others;
* `EndsWithin.run`: a whole run;
* `run_endsWithin`: the same for every state that can be reached, and for the time after an empty
  page.
-/

namespace CursorPaging.Paging.Controller

variable {α : Type} {c c' c'' : Controller α} {e : Event α} {p : ListPage α}

/-- The events that do not look for the end of a list anew. -/
def LeavesEnd (c : Controller α) : Event α → Prop
  | .setPageSize pageSize => pageSize = 0 ∨ pageSize = c.pageSize
  | .setQuery query => query = c.query
  | .resetPagination => False
  | .refresh => c.page ≠ c.pageTokens.length
  | .itemsDeleted => c.page = c.pageTokens.length
  | .nextFetch | .complete .. | .setPage _ | .nextPage | .previousPage | .setSorting _ => True

instance decidableLeavesEnd (c : Controller α) : (e : Event α) → Decidable (c.LeavesEnd e)
  | .setPageSize pageSize => inferInstanceAs (Decidable (pageSize = 0 ∨ pageSize = c.pageSize))
  | .setQuery query => inferInstanceAs (Decidable (query = c.query))
  | .resetPagination => isFalse id
  | .refresh => inferInstanceAs (Decidable (c.page ≠ c.pageTokens.length))
  | .itemsDeleted => inferInstanceAs (Decidable (c.page = c.pageTokens.length))
  | .nextFetch | .complete .. | .setPage _ | .nextPage | .previousPage | .setSorting _ =>
    isTrue trivial

/-- Every event of a run leaves the end alone, in the state in which it happens. -/
def RunLeavesEnd (c : Controller α) : List (Event α) → Prop
  | [] => True
  | e :: es => c.LeavesEnd e ∧ RunLeavesEnd (c.step e) es

instance decidableRunLeavesEnd (c : Controller α) :
    (es : List (Event α)) → Decidable (c.RunLeavesEnd es)
  | [] => isTrue trivial
  | e :: es => @instDecidableAnd _ _ (decidableLeavesEnd c e) (decidableRunLeavesEnd (c.step e) es)

/-- The end of the list is known, and no page has been found since the earlier state. -/
structure EndsWithin (c c' : Controller α) : Prop where
  ended : c'.openEnd = false
  tokens : c'.pageTokens <+: c.pageTokens

theorem EndsWithin.trans (h : EndsWithin c c') (h' : EndsWithin c' c'') : EndsWithin c c'' :=
  ⟨h'.ended, h'.tokens.trans h.tokens⟩

theorem EndsWithin.pagesCount_le (h : EndsWithin c c') (hc : WellFormed c) (hc' : WellFormed c') :
    c'.pagesCount ≤ c.pagesCount := by
  rw [hc.pagesCount, hc'.pagesCount]
  exact h.tokens.length_le

/-! ## One event -/

/-- No page opens a known end, and an empty page lies behind the end. -/
theorem Shows.endsWithin (h : Shows c.landed p c') (ended : c.openEnd = false ∨ p.items = []) :
    EndsWithin c c' := by
  cases h with
  | back | void => exact ⟨rfl, List.take_prefix _ _⟩
  | inside full => exact ⟨ended.resolve_right full, List.prefix_rfl⟩
  | counted _ _ _ ended => exact ⟨ended, List.prefix_rfl⟩
  | ended => exact ⟨rfl, List.prefix_rfl⟩
  | grown _ full _ _ _ opened =>
    have closed := ended.resolve_right full
    exact absurd (closed.symm.trans opened) Bool.false_ne_true

theorem Transition.endsWithin (h : Transition c e c') (leaves : c.LeavesEnd e)
    (ended : c.openEnd = false) : EndsWithin c c' := by
  cases h with
  | idle | ignored | unmoved | sameQuery | sameSize | issued | broken | moved | sorted =>
    exact ⟨ended, List.prefix_rfl⟩
  | shown _ _ shows => exact shows.endsWithin (.inl ended)
  | queried other => exact absurd leaves other
  | @resized pageSize pos other =>
    have zero : pageSize ≠ 0 := by omega
    exact absurd leaves (not_or.mpr ⟨zero, other⟩)
  | reset => exact leaves.elim
  | refreshed => exact ⟨(if_neg leaves).trans ended, List.prefix_rfl⟩
  | deleted =>
    have last : c.page = c.pageTokens.length := leaves
    exact ⟨(if_neg (by omega)).trans ended, List.take_prefix _ _⟩

theorem endsWithin_of_empty {g : Nat} (awaited : c.awaits g = true) (empty : p.items = []) :
    EndsWithin c (c.step (.complete g (.ok p))) := by
  obtain ⟨hin, hkey⟩ := awaits_iff.mp awaited
  have hstep : c.step (.complete g (.ok p)) = c.landed.applyPage p :=
    congrArg Prod.snd (complete_of_current (.ok p) hin hkey)
  rw [hstep]
  exact (shows_applyPage c.landed p).endsWithin (.inr empty)

theorem leavesEnd_of_target {page : Nat} (h : c.target e = some page) : c.LeavesEnd e := by
  cases e <;> trivial

/-- Every other event opens the end. -/
theorem WellFormed.openEnd_step_iff (h : WellFormed c) (ended : c.openEnd = false) (e : Event α) :
    (c.step e).openEnd = false ↔ c.LeavesEnd e := by
  have ht := transition_step c e
  refine ⟨fun closed => ?_, fun leaves => (ht.endsWithin leaves ended).ended⟩
  generalize c.step e = c' at ht closed
  cases ht with
  | idle | issued | ignored | broken | shown | sorted => trivial
  | moved move | unmoved move => exact leavesEnd_of_target move
  | sameQuery => rfl
  | sameSize same => exact same
  | queried | resized | reset => cases closed
  | refreshed =>
    intro last
    cases (if_pos last).symm.trans closed
  | deleted =>
    have hle := h.page_le
    have hlt : ¬c.page < c.pageTokens.length := fun hlt => by
      cases (if_pos hlt).symm.trans closed
    show c.page = c.pageTokens.length
    omega

/-! ## Runs -/

/-- Each event leaves the end where it is or moves it to the front, so the whole run does. -/
theorem EndsWithin.run (h : EndsWithin c c') {es : List (Event α)} (leaves : c'.RunLeavesEnd es) :
    EndsWithin c (c'.run es) := by
  induction es generalizing c' with
  | nil => exact h
  | cons e es ih =>
    have step := (transition_step c' e).endsWithin leaves.1 h.ended
    exact ih (h.trans step) leaves.2

/-- A known end is not opened again, and no page is found after it, as long as all events leave it
alone, whatever answers come; and these are all the events that do not open it. The end is known as
soon as an empty page is shown, so that the fetch of the page before it finds no other page either.
-/
theorem run_endsWithin (reached : c.Reachable) :
    (c.openEnd = false → ∀ es, c.RunLeavesEnd es →
      EndsWithin c (c.run es) ∧ (c.run es).pagesCount ≤ c.pagesCount) ∧
    (∀ g p, c.awaits g = true → p.items = [] →
      let back := c.step (.complete g (.ok p))
      ∀ es, back.RunLeavesEnd es →
        EndsWithin c (back.run es) ∧ (back.run es).pagesCount ≤ c.pagesCount) ∧
    (c.openEnd = false → ∀ e, (c.step e).openEnd = false ↔ c.LeavesEnd e) := by
  have hc := reached.wellFormed
  refine ⟨?run, ?back, fun ended => hc.openEnd_step_iff ended⟩
  case run =>
    intro ended es leaves
    have h := EndsWithin.run ⟨ended, List.prefix_rfl⟩ leaves
    exact ⟨h, h.pagesCount_le hc (hc.run es)⟩
  case back =>
    intro g p awaited empty back es leaves
    have h := (endsWithin_of_empty awaited empty).run leaves
    exact ⟨h, h.pagesCount_le hc ((hc.step _).run es)⟩

/-- The end of a list of three pages is found. The second page turns out to be empty when it is
refreshed; the first one, fetched again, still comes with the token of a second page, and then with
another one after items were deleted. -/
theorem run_endsWithin_three_pages :
    let three : Controller Nat := (start 2 ⟨"Name", false⟩ .empty .empty).run
      [.nextFetch, .complete 1 (.ok ⟨[1, 2], some "t"⟩), .nextPage, .nextFetch,
        .complete 2 (.ok ⟨[3, 4], some "u"⟩), .nextPage, .nextFetch, .complete 3 (.ok ⟨[5], none⟩)]
    let before : List (Event Nat) := [.previousPage, .refresh, .nextFetch]
    let after : List (Event Nat) :=
      [.nextFetch, .complete 5 (.ok ⟨[1, 2], some "t"⟩), .nextPage, .itemsDeleted, .nextFetch,
        .complete 6 (.ok ⟨[2], some "v"⟩)]
    let empty : Event Nat := .complete 4 (.ok ⟨[], none⟩)
    let awaiting := three.run before
    let back := awaiting.step empty
    three.Reachable ∧ three.openEnd = false ∧ three.RunLeavesEnd (before ++ empty :: after) ∧
      (EndsWithin three (three.run (before ++ empty :: after)) ∧
        (three.run (before ++ empty :: after)).pagesCount ≤ three.pagesCount) ∧
      awaiting.Reachable ∧ awaiting.awaits 4 = true ∧ back.RunLeavesEnd after ∧
      (EndsWithin awaiting (back.run after) ∧
        (back.run after).pagesCount ≤ awaiting.pagesCount) ∧
      ((three.step .refresh).openEnd = false ↔ three.LeavesEnd .refresh) := by
  intro three before after empty awaiting back
  have reached : three.Reachable := ⟨2, ⟨"Name", false⟩, .empty, .empty, _, rfl⟩
  have ended : three.openEnd = false := by decide
  have leaves : three.RunLeavesEnd (before ++ empty :: after) := by decide
  have awaitingReached : awaiting.Reachable :=
    ⟨2, ⟨"Name", false⟩, .empty, .empty, _, (run_append _ _ before).symm⟩
  have awaited : awaiting.awaits 4 = true := by decide
  have leavesAfter : back.RunLeavesEnd after := by decide
  exact ⟨reached, ended, leaves, (run_endsWithin reached).1 ended _ leaves, awaitingReached,
    awaited, leavesAfter,
    (run_endsWithin awaitingReached).2.1 4 ⟨[], none⟩ awaited rfl after leavesAfter,
    (run_endsWithin reached).2.2 ended .refresh⟩

end CursorPaging.Paging.Controller
