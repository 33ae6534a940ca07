import CursorPaging.Proofs.Paging.Rounds
import CursorPaging.Proofs.Paging.Settling

/-!
# Tables over sources that answer alike

Two sources answer alike if they give the same answers in related states and stay in related states
(`Alike`). A table can tell nothing else about its source, so over both it comes to the same:

* `settle_alike`: the fetches that are due, by induction over them;
* `update_withSource`: what an event does before any fetch has nothing to do with the source;
* `handle_withSource`: an event as a whole.
-/

namespace CursorPaging

variable {σ τ α : Type} {R : σ → τ → Prop}

namespace Paging

/-- In related states the sources give the same answers, and the states after them are related. -/
def Alike (R : σ → τ → Prop) (f : Source σ α) (g : Source τ α) : Prop :=
  ∀ s s' request, R s s' → (f s request).1 = (g s' request).1 ∧ R (f s request).2 (g s' request).2

variable {f : Source σ α} {g : Source τ α}

/-- Sources that answer alike lead to the same controller by the same exchanges. -/
theorem settle_alike (h : Alike R f g) (c : Controller α) (s : σ) : ∀ s', R s s' →
    ∃ r, R (settle f c s).source r ∧
      settle g c s' = ⟨(settle f c s).controller, r, (settle f c s).exchanges⟩ := by
  induction c, s using settle.induct f with
  | case1 c s idle =>
    intro s' hs
    have hk := Controller.nextFetch_eq_none_iff.mp idle
    rw [settle_of_idle hk, settle_of_idle hk]
    exact ⟨s', hs, rfl⟩
  | case2 c s fetch issued due reply ih =>
    intro s' hs
    have hd : c.lastKey ≠ some c.key := fun hk => by
      rw [Controller.nextFetch_of_idle hk] at due
      cases due
    rw [Controller.nextFetch_of_due hd] at due
    cases due
    obtain ⟨answer, after⟩ := h s s' c.params.toRequest hs
    obtain ⟨r, hr, hg⟩ := ih _ after
    rw [Controller.complete_issue] at hr hg
    rw [settle_of_due hd, settle_of_due hd]
    dsimp only
    rw [← answer, hg]
    exact ⟨r, hr, rfl⟩

namespace Table

/-- The table over a source in another state. -/
def withSource (t : Table σ α) (s : τ) : Table τ α := ⟨s, t.controller, t.preferences, t.pageSizes⟩

theorem update_withSource (t : Table σ α) (s : τ) (e : Event) :
    (t.withSource s).update e = (·.withSource s) <$> t.update e := by
  have move (x : Except Error (Controller α)) :
      (do return { t.withSource s with controller := ← x } : Except Error (Table τ α)) =
        (·.withSource s) <$>
          (do return { t with controller := ← x } : Except Error (Table σ α)) := by
    cases x <;> rfl
  cases e with
  | load | changeSorting | changeQuery | resetPagination | refresh | itemsDeleted => rfl
  | changePage page => exact move (t.controller.setPage page)
  | nextPage => exact move t.controller.nextPage
  | previousPage => exact move t.controller.previousPage
  | confirmPreferences preferences =>
    simp only [update]
    show (preferences.check t.pageSizes >>= _) = _ <$> (preferences.check t.pageSizes >>= _)
    cases preferences.check t.pageSizes with
    | error => rfl
    | ok =>
      show (t.controller.setPageSize preferences.pageSize >>= _) =
        _ <$> (t.controller.setPageSize preferences.pageSize >>= _)
      cases t.controller.setPageSize preferences.pageSize <;> rfl

theorem settled_withSource (h : Alike R f g) {t : Table σ α} {s : τ} (hs : R t.source s) :
    ∃ r, R (t.settled f).1.source r ∧
      (t.withSource s).settled g = ((t.settled f).1.withSource r, (t.settled f).2) := by
  obtain ⟨r, hr, hg⟩ := settle_alike h t.controller t.source s hs
  refine ⟨r, hr, ?_⟩
  show (_, _) = _
  rw [show settle g (t.withSource s).controller (t.withSource s).source = _ from hg]
  rfl

/-- What an event leads to over both sources: the same error, or tables that differ in their sources
only. -/
inductive Parallel (R : σ → τ → Prop) : Except Error (Table σ α × List (Exchange α)) →
    Except Error (Table τ α × List (Exchange α)) → Prop where
  | error (e : Error) : Parallel R (.error e) (.error e)
  | ok {t : Table σ α} {xs : List (Exchange α)} {s : τ} (sources : R t.source s) :
    Parallel R (.ok (t, xs)) (.ok (t.withSource s, xs))

/-- An event is refused over both sources, or followed by the same exchanges. -/
theorem handle_withSource (h : Alike R f g) {t : Table σ α} {s : τ} (hs : R t.source s)
    (e : Event) : Parallel R (t.handle f e) ((t.withSource s).handle g e) := by
  have hu := update_withSource t s e
  cases ht : t.update e with
  | error err =>
    rw [ht] at hu
    rw [handle_of_error ht, handle_of_error hu]
    exact .error err
  | ok t' =>
    rw [ht] at hu
    obtain ⟨same, -⟩ := update_eq_ok ht
    obtain ⟨r, hr, hg⟩ := settled_withSource h (t := t') (same ▸ hs)
    rw [handle_of_ok ht, handle_of_ok hu, hg]
    exact .ok hr

end Table

end Paging

end CursorPaging
