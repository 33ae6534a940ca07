import CursorPaging.Proofs.Paging.Rounds

/-!
# What an event of a table fetches

An event that leaves the key as it was for the last fetch makes none. Any other one is followed by
rounds of fetches, from the current page on downwards:

* `resting_run`, `lastKey_run`: every event leads back to a controller at rest, which remembers the
  key of the last fetch;
* `Restarts`: the events that start the list anew;
* `fetches_handle`, `run_fetches`: every event in every run.
-/

namespace CursorPaging.Paging.Table

open Controller (WellFormed)

variable {σ α : Type} {source : Source σ α} {xs : List (Exchange α)} {t t' now : Table σ α}
  {e : Event}

/-- The change before any fetch leaves alone what the controller remembers of fetches. -/
theorem memory_update (h : t.update e = .ok t') :
    t'.controller.lastKey = t.controller.lastKey ∧
      t'.controller.inFlight = t.controller.inFlight := by
  obtain ⟨-, hc⟩ := update_eq_ok h
  rw [hc]
  cases he : e.change with
  | none => exact ⟨rfl, rfl⟩
  | some ce =>
    rcases t.controller.step_fetch ce with ⟨hi, -⟩ | ⟨-, -, hk, hf | ⟨-, g, answer, rfl, -⟩⟩
    · obtain ⟨rfl, -⟩ := Controller.issues_eq_some hi
      cases e <;> cases he
    · exact ⟨hk, hf⟩
    · exact absurd he (e.change_ne_complete g answer)

theorem wellFormed_update (h : t.update e = .ok t') (ht : WellFormed t.controller) :
    WellFormed t'.controller := by
  rw [(update_eq_ok h).2]
  cases e.change with
  | none => exact ht
  | some ce => exact ht.step ce

/-- What follows an event that is taken are rounds of fetches. -/
theorem rounds_handle (h : t.handle source e = .ok (now, xs)) :
    ∃ changed, t.update e = .ok changed ∧
      Rounds source changed.controller changed.source xs now.controller now.source := by
  obtain ⟨changed, hu, hr⟩ := update_of_handle h
  cases hr
  exact ⟨changed, hu, rounds_settle source changed.controller changed.source⟩

theorem step_of_handle (h : t.handle source e = .ok (now, xs)) : t.step source e = now := by
  rw [step, h]

/-! ## Runs -/

/-- The fetches of an event; one that is refused causes none. -/
def caused (source : Source σ α) (t : Table σ α) (e : Event) : List (Exchange α) :=
  match t.handle source e with
  | .ok (_, xs) => xs
  | .error _ => []

/-- The fetches of a sequence of events, in order. -/
def exchanges (source : Source σ α) (t : Table σ α) : List Event → List (Exchange α)
  | [] => []
  | e :: es => t.caused source e ++ (t.step source e).exchanges source es

theorem wellFormed_step (source : Source σ α) (ht : WellFormed t.controller) (e : Event) :
    WellFormed (t.step source e).controller := by
  cases hh : t.handle source e with
  | error => rw [step, hh]; exact ht
  | ok r =>
    obtain ⟨changed, hu, hr⟩ := rounds_handle hh
    rw [step_of_handle hh]
    exact hr.wellFormed (wellFormed_update hu ht)

theorem wellFormed_run (source : Source σ α) (ht : WellFormed t.controller) (es : List Event) :
    WellFormed (t.run source es).controller := by
  induction es generalizing t with
  | nil => exact ht
  | cons e es ih => exact ih (wellFormed_step source ht e)

/-- A table is at rest between events. -/
theorem resting_step (source : Source σ α) (ht : t.controller.Resting) (e : Event) :
    (t.step source e).controller.Resting := by
  cases hh : t.handle source e with
  | error => rw [step, hh]; exact ht
  | ok r =>
    obtain ⟨changed, hu, hr⟩ := rounds_handle hh
    rw [step_of_handle hh]
    exact hr.resting (wellFormed_update hu ht.toWellFormed)
      ((memory_update hu).2.trans ht.unawaited)

theorem resting_run (source : Source σ α) (ht : t.controller.Resting) (es : List Event) :
    (t.run source es).controller.Resting := by
  induction es generalizing t with
  | nil => exact ht
  | cons e es ih => exact ih (resting_step source ht e)

/-- A table remembers the key of the last fetch of an event, or what it remembered before. -/
theorem lastKey_step (source : Source σ α) (t : Table σ α) (e : Event) :
    (t.step source e).controller.lastKey =
      ((t.caused source e).getLast?.map fun x => x.fetch.key).or t.controller.lastKey := by
  cases hh : t.handle source e with
  | error => rw [step, caused, hh]; rfl
  | ok r =>
    obtain ⟨changed, hu, hr⟩ := rounds_handle hh
    rw [step_of_handle hh, caused, hh, hr.lastKey, (memory_update hu).1]

/-- The controller remembers the key of the last fetch of a run. -/
theorem lastKey_run (source : Source σ α) (t : Table σ α) (es : List Event) :
    (t.run source es).controller.lastKey =
      ((t.exchanges source es).getLast?.map fun x => x.fetch.key).or t.controller.lastKey := by
  induction es generalizing t with
  | nil => rfl
  | cons e es ih =>
    show ((t.step source e).run source es).controller.lastKey = _
    rw [ih, lastKey_step, exchanges, List.getLast?_append, Option.map_or, Option.or_assoc]

/-- The events that start the list anew, with the page size and the query that it then has. -/
inductive Restarts (t : Table σ α) : Event → Nat → FilterQuery → Prop where
  | reset : Restarts t .resetPagination t.controller.pageSize t.controller.query
  | queried {query : FilterQuery} (other : query ≠ t.controller.query) :
    Restarts t (.changeQuery query) t.controller.pageSize query
  | resized {preferences : Preferences} (valid : preferences.check t.pageSizes = .ok ())
      (other : preferences.pageSize ≠ t.controller.pageSize) :
    Restarts t (.confirmPreferences preferences) preferences.pageSize t.controller.query

theorem pageSize_pos_of_check {p : Preferences} {offered : PageSizes}
    (h : p.check offered = .ok ()) : 1 ≤ p.pageSize := by
  unfold Preferences.check at h
  split at h
  · cases h
  · omega

/-- An event that starts the list anew is never refused. -/
theorem Restarts.update {size : Nat} {query : FilterQuery} (h : t.Restarts e size query) :
    ∃ t', t.update e = .ok t' ∧ t'.controller = t.controller.restarted size query := by
  cases h with
  | reset => exact ⟨_, rfl, rfl⟩
  | queried other => exact ⟨_, rfl, if_neg other⟩
  | @resized preferences valid other =>
    have hpos : preferences.pageSize ≠ 0 := Nat.ne_of_gt (pageSize_pos_of_check valid)
    have hs : t.controller.setPageSize preferences.pageSize =
        .ok (t.controller.restarted preferences.pageSize t.controller.query) := by
      simp only [Controller.setPageSize, hpos, other, if_false, Controller.restarted]
    refine ⟨{ t with
      controller := t.controller.restarted preferences.pageSize t.controller.query
      preferences := preferences }, ?_, rfl⟩
    simp only [Table.update, valid, hs]
    rfl

/-- What an event fetches: `last` is the key of the last fetch before it, `changed` the table before
any fetch of its own, and `now` the one after them. -/
structure Fetches (source : Source σ α) (last : Option FetchKey) (t : Table σ α) (e : Event)
    (changed now : Table σ α) (xs : List (Exchange α)) : Prop where
  change : t.update e = .ok changed
  rounds : Rounds source changed.controller changed.source xs now.controller now.source
  same : last = some changed.controller.key → xs = []
  other : last ≠ some changed.controller.key → Descends changed.controller xs now.controller
  settled : now.controller.nextFetch = none ∧ now.controller.inFlight = none ∧
    now.controller.loading = false
  again : e = .refresh ∨ e = .itemsDeleted → xs ≠ []
  anew : ∀ size query, t.Restarts e size query →
    ∃ x, xs = [x] ∧ x.fetch.params.pagination = ⟨1, size, none⟩ ∧ x.fetch.params.query = query

/-- A refresh and a deletion raise the refresh key, which no fetch has reached. -/
theorem due_of_again (ht : t.controller.Resting) (again : e = .refresh ∨ e = .itemsDeleted)
    (h : t.update e = .ok t') : t.controller.lastKey ≠ some t'.controller.key := by
  rcases again with rfl | rfl
  · cases h
    exact ht.lastKey_ne (Nat.lt_succ_self _)
  · cases h
    exact ht.lastKey_ne (Nat.lt_succ_self _)

/-- The fetches of an event on a table at rest. -/
theorem fetches_handle (ht : t.controller.Resting) (h : t.handle source e = .ok (now, xs)) :
    ∃ changed, Fetches source t.controller.lastKey t e changed now xs := by
  obtain ⟨changed, hu, hx⟩ := rounds_handle h
  obtain ⟨hk, hf⟩ := memory_update hu
  have hwf := wellFormed_update hu ht.toWellFormed
  have hnow := hx.resting hwf (hf.trans ht.unawaited)
  have descends : t.controller.lastKey ≠ some changed.controller.key →
      Descends changed.controller xs now.controller :=
    fun due => hx.descends hwf (by rw [hk]; exact due)
  refine ⟨changed, hu, hx, fun same => (hx.of_idle (hk.trans same)).1, descends,
    ⟨hx.nextFetch_eq_none, hnow.unawaited, hnow.not_loading hnow.unawaited⟩,
    fun again => (descends (due_of_again ht again hu)).made, fun size query restart => ?_⟩
  obtain ⟨t', hu', hc⟩ := restart.update
  obtain rfl : t' = changed := Except.ok.inj (hu'.symm.trans hu)
  have due : t.controller.lastKey ≠ some t'.controller.key := by
    rw [hc]; exact ht.restarted_due size query
  obtain ⟨x, rfl, hp⟩ := (descends due).eq_singleton (by rw [hc]; rfl)
  exact ⟨x, rfl, by rw [hp, hc]; rfl, by rw [hp, hc]; rfl⟩

/-- A list that is gone, all but one item, when the third page of it is asked for. -/
def shrinking : Table (List (Except Error (ListPage Nat))) Nat :=
  withController
    [.ok ⟨[1, 2], some "s"⟩, .ok ⟨[3, 4], some "t"⟩, .ok ⟨[], none⟩, .ok ⟨[], none⟩,
      .ok ⟨[1], none⟩]
    (.start 2 ⟨"Name", false⟩ .empty .empty) .default

end CursorPaging.Paging.Table
