import CursorPaging.Proofs.Paging.Frontier
import CursorPaging.Proofs.Paging.Refusal
import CursorPaging.Proofs.Preferences
import CursorPaging.Proofs.Query.Builder

/-!
# The page size of a table

The preferences of a table and its controller each hold a page size, and only preferences that are
confirmed change them, both at once:

* `Rounds.pageSize_eq`, `Rounds.maxResults_eq`: fetches leave the page size alone, and ask for as
  many items;
* `agrees_update`, `agrees_handle`: an event keeps the two page sizes equal, before its first fetch
  and after its last one;
* `exists_confirmed_iff`, `confirm_eq_ok`: when preferences are confirmed, and what they leave
  behind;
* `pageSize_run`: all of this in every run.
-/

namespace CursorPaging.Paging

variable {σ α : Type} {source : Source σ α} {c c' : Controller α} {s s' : σ}
  {xs : List (Exchange α)}

/-! ## Fetches -/

namespace Controller

theorem pageSize_applyAnswer (c : Controller α) (answer : Except Error (ListPage α)) :
    (c.issue.applyAnswer answer).pageSize = c.pageSize :=
  congrArg ListRequest.maxResults (request_applyAnswer c answer none)

theorem pageSize_setPage {page : Nat} (h : c.setPage page = .ok c') :
    c'.pageSize = c.pageSize := by
  unfold setPage at h
  split at h
  · cases h
  · cases h; rfl

theorem pageSize_setPageSize {pageSize : Nat} (h : c.setPageSize pageSize = .ok c') :
    c'.pageSize = pageSize := by
  unfold setPageSize at h
  split at h
  · cases h
  · split at h
    · rename_i same
      cases h
      exact same.symm
    · cases h; rfl

theorem pageSize_setQuery (c : Controller α) (query : FilterQuery) :
    (c.setQuery query).pageSize = c.pageSize := by
  unfold setQuery
  split <;> rfl

end Controller

namespace Rounds

theorem pageSize_eq (h : Rounds source c s xs c' s') : c'.pageSize = c.pageSize :=
  h.keep (P := fun c' => c'.pageSize = c.pageSize)
    (fun c answer hc => (Controller.pageSize_applyAnswer c answer).trans hc) rfl

/-- Every fetch of the rounds asks for as many items as a page has. -/
theorem maxResults_eq (h : Rounds source c s xs c' s') :
    ∀ x ∈ xs, x.fetch.params.toRequest.maxResults = c.pageSize := by
  induction h with
  | idle => exact List.forall_mem_nil _
  | @round c issued c₁ c' s s₁ s' fetch answer xs due reply counts rest ih =>
    obtain ⟨-, rfl, rfl⟩ := Controller.round_eq due counts
    refine List.forall_mem_cons.mpr ⟨rfl, fun x hx => ?_⟩
    rw [ih x hx, Controller.pageSize_applyAnswer]

end Rounds

/-! ## Tables -/

namespace Table

variable {t t' now : Table σ α} {e : Event} {p : Preferences}

/-- The page size of the preferences is the one of the controller. -/
def Agrees (t : Table σ α) : Prop := t.preferences.pageSize = t.controller.pageSize

/-- Preferences that are confirmed are stored, with their page size in the controller. -/
theorem confirm_eq_ok (h : t.update (.confirmPreferences p) = .ok t') :
    t'.preferences = p ∧ t'.controller.pageSize = p.pageSize := by
  obtain ⟨_, -, h⟩ := bind_eq_ok h
  obtain ⟨c, hc, h⟩ := bind_eq_ok h
  cases h
  exact ⟨rfl, Controller.pageSize_setPageSize hc⟩

/-- An event sets the page size of the table and of its controller alike. -/
theorem agrees_update (h : t.update e = .ok t') (agrees : t.Agrees) : t'.Agrees := by
  cases e with
  | load | changeSorting | resetPagination | refresh | itemsDeleted => cases h; exact agrees
  | changeQuery query =>
    cases h
    exact agrees.trans (t.controller.pageSize_setQuery query).symm
  | changePage | nextPage | previousPage =>
    obtain ⟨c, hc, h⟩ := bind_eq_ok h
    cases h
    exact agrees.trans (Controller.pageSize_setPage hc).symm
  | confirmPreferences p =>
    obtain ⟨hp, hc⟩ := confirm_eq_ok h
    rw [Agrees, hp, hc]

/-- The fetches of an event leave the preferences alone. -/
theorem preferences_handle (h : t.handle source e = .ok (now, xs)) {changed : Table σ α}
    (hu : t.update e = .ok changed) : now.preferences = changed.preferences := by
  rw [handle_of_ok hu] at h
  cases h
  rfl

theorem agrees_handle (h : t.handle source e = .ok (now, xs)) (agrees : t.Agrees) : now.Agrees := by
  obtain ⟨changed, hu, hr⟩ := rounds_handle h
  rw [Agrees, preferences_handle h hu, hr.pageSize_eq]
  exact agrees_update hu agrees

/-- They agree after an event and its fetches, also after one that is refused. -/
theorem agrees_step (source : Source σ α) (agrees : t.Agrees) (e : Event) :
    (t.step source e).Agrees := by
  cases hh : t.handle source e with
  | error => rw [step, hh]; exact agrees
  | ok r => rw [step_of_handle hh]; exact agrees_handle hh agrees

theorem agrees_run (source : Source σ α) (agrees : t.Agrees) (es : List Event) :
    (t.run source es).Agrees := by
  induction es generalizing t with
  | nil => exact agrees
  | cons e es ih => exact ih (agrees_step source agrees e)

/-- Preferences are confirmed if they pass the check, and not otherwise. -/
theorem exists_confirmed_iff :
    (∃ r, t.handle source (.confirmPreferences p) = .ok r) ↔ p.check t.pageSizes = .ok () := by
  cases hu : t.update (.confirmPreferences p) with
  | error err =>
    simp [handle_of_error hu, confirm_eq_error.mp hu]
  | ok t' =>
    rw [handle_of_ok hu]
    refine ⟨fun _ => ?_, fun _ => ⟨_, rfl⟩⟩
    cases hp : p.check t.pageSizes with
    | error err => rw [confirm_eq_error.mpr hp] at hu; cases hu
    | ok => rfl

/-- What holds of the page size of a table, and of the preferences that hold it. -/
structure OnePageSize (source : Source σ α) (t : Table σ α) : Prop where
  agrees : t.preferences.pageSize = t.controller.pageSize
  /-- Each request of an event asks for as many items as the page size is at that time, which is
  that of the table as the event changed it and no fetch did. -/
  asked : ∀ e changed now xs, t.update e = .ok changed → t.handle source e = .ok (now, xs) →
    changed.preferences.pageSize = changed.controller.pageSize ∧
      (∀ x ∈ xs, x.fetch.params.toRequest.maxResults = changed.preferences.pageSize) ∧
      now.preferences = changed.preferences ∧
      now.controller.pageSize = changed.controller.pageSize
  confirmed_iff : ∀ p, (∃ r, t.handle source (.confirmPreferences p) = .ok r) ↔
    p.check t.pageSizes = .ok ()
  stored : ∀ p now xs, t.handle source (.confirmPreferences p) = .ok (now, xs) →
    now.preferences = p

/-- A table whose page sizes agree fetches, shows and stores one page size. -/
theorem Agrees.onePageSize (agrees : t.Agrees) (source : Source σ α) : OnePageSize source t where
  agrees := agrees
  asked e changed now xs hu hh := by
    obtain ⟨changed', hu', hr⟩ := rounds_handle hh
    obtain rfl : changed' = changed := Except.ok.inj (hu'.symm.trans hu)
    have hagrees := agrees_update hu agrees
    exact ⟨hagrees, fun x hx => (hr.maxResults_eq x hx).trans hagrees.symm,
      preferences_handle hh hu, hr.pageSize_eq⟩
  confirmed_iff p := exists_confirmed_iff
  stored p now xs hh := by
    obtain ⟨changed, hu, -⟩ := rounds_handle hh
    rw [preferences_handle hh hu, (confirm_eq_ok hu).1]

/-- Preferences pass their check exactly if their page size is positive and, unless none are
offered, among those offered, and no column is named twice; an error about columns names the first
one that comes a second time. A table whose preferences and controller have the same page size keeps
it so whatever happens, every request asks for that many items, and preferences that are confirmed
are those of the table afterwards. -/
theorem pageSize_run :
    (∀ (p : Preferences) (offered : PageSizes),
      (p.check offered = .ok () ↔ p.Sized offered ∧ (p.columns.map (·.id)).Nodup) ∧
      ∀ message, p.check offered = .error (.invalidValue "content_display" message) ↔
        p.Sized offered ∧ ∃ id, Preferences.FirstRepeat (p.columns.map (·.id)) id ∧
          message = "duplicate column '" ++ id ++ "'") ∧
    ∀ (σ α : Type) (source : Source σ α) (t : Table σ α),
      t.preferences.pageSize = t.controller.pageSize →
        ∀ es : List Event, OnePageSize source (t.run source es) :=
  ⟨fun _ _ => ⟨Preferences.check_eq_ok_iff, fun _ => Preferences.check_eq_repeated_iff⟩,
    fun _ _ source _ agrees es => (agrees_run source agrees es).onePageSize source⟩

/-- Five items to a page instead of twenty, although no page of that size can be had. -/
theorem pageSize_run_smaller_pages :
    let t : Table (List (Except Error (ListPage Nat))) Nat :=
      .new [.ok ⟨[1, 2], some "t"⟩] ⟨"Name", false⟩
    let es : List Event := [.load, .confirmPreferences ⟨5, [⟨"Name", true⟩], none⟩, .refresh]
    t.preferences.pageSize = t.controller.pageSize ∧
      ((t.run Source.script es).controller.pageSize, (t.run Source.script es).preferences.columns,
        (t.exchanges Source.script es).map fun x => x.fetch.params.toRequest.maxResults) =
          (5, [⟨"Name", true⟩], [20, 5, 5]) ∧
      OnePageSize Source.script (t.run Source.script es) :=
  ⟨rfl, by decide +kernel, pageSize_run.2 _ _ Source.script _ rfl _⟩

end Table

end CursorPaging.Paging
