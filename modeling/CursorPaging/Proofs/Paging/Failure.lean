import CursorPaging.Proofs.Paging.Refusal

/-!
# Events that fail

An event of a table fails in one of two ways. It can be refused (`Refuses`), which changes nothing.
Or it is taken and its first fetch fails; then the table is left as the event made it, but for the
error and the memory of the fetch, and that memory keeps the fetch from being repeated:

* `settled_of_failed`: a first fetch that fails is the only one;
* `exchanges_eq_nil_iff`: when there is another one;
* `run_fails`: both ways, for every table that can be reached.
-/

namespace CursorPaging.Paging.Table

open Controller (WellFormed)

variable {σ α : Type} {t now : Table σ α} {e : Event} {err : Error} {source : Source σ α}

/-! ## Fetches that fail -/

/-- The table once the fetch that was due has failed. -/
def halted (t : Table σ α) (s : σ) (err : Error) : Table σ α :=
  { t with
    source := s
    controller := { t.controller with
      loading := false
      failed := true
      failure := some err.message
      generation := t.controller.generation + 1
      inFlight := none
      lastKey := some t.controller.key } }

theorem settled_of_failed (due : t.controller.lastKey ≠ some t.controller.key)
    (failed : (source t.source t.controller.params.toRequest).1 = .error err) :
    t.settled source = (t.halted (source t.source t.controller.params.toRequest).2 err,
      [⟨⟨t.controller.generation + 1, t.controller.params⟩, .error err⟩]) := by
  rw [settled, settle_of_due due]
  dsimp only
  rw [failed, settle_of_idle (c := t.controller.issue.applyAnswer (.error err)) rfl]
  rfl

/-- No other fetch follows one that failed. -/
theorem eq_halted_of_failed {x : Exchange α} {xs : List (Exchange α)}
    (h : t.settled source = (now, x :: xs)) (failed : x.answer = .error err) :
    xs = [] ∧ x.fetch = ⟨t.controller.generation + 1, t.controller.params⟩ ∧
      now = t.halted (source t.source t.controller.params.toRequest).2 err := by
  have due : t.controller.lastKey ≠ some t.controller.key := by
    intro idle
    rw [settled_of_idle idle] at h
    cases h
  have hx : x.answer = (source t.source t.controller.params.toRequest).1 := by
    rw [settled, settle_of_due due] at h
    cases h
    rfl
  rw [settled_of_failed due (hx.symm.trans failed)] at h
  cases h
  exact ⟨rfl, rfl, rfl⟩

/-! ## After the last fetch -/

/-- No event of a run changes the key before any fetch of its own. -/
def KeepsKey (source : Source σ α) (t : Table σ α) : List Event → Prop
  | [] => True
  | e :: es => (∀ t', t.update e = .ok t' → t'.controller.key = t.controller.key) ∧
    (t.step source e).KeepsKey source es

theorem idle_step (idle : t.controller.lastKey = some t.controller.key) (e : Event) :
    (t.step source e).controller.lastKey = some (t.step source e).controller.key := by
  cases hh : t.handle source e with
  | error => rw [step, hh]; exact idle
  | ok r =>
    obtain ⟨changed, -, hr⟩ := rounds_handle hh
    rw [step_of_handle hh]
    exact Controller.nextFetch_eq_none_iff.mp hr.nextFetch_eq_none

theorem settled_eq_nil_iff : (t.settled source).2 = [] ↔
    t.controller.lastKey = some t.controller.key := by
  refine ⟨fun h => ?_, fun h => by rw [settled_of_idle h]⟩
  by_contra due
  rw [settled, settle_of_due due] at h
  cases h

theorem caused_eq_nil_iff (idle : t.controller.lastKey = some t.controller.key) :
    t.caused source e = [] ↔ ∀ t', t.update e = .ok t' → t'.controller.key = t.controller.key := by
  cases hu : t.update e with
  | error err =>
    rw [caused, handle_of_error hu]
    refine ⟨fun _ t' ht => ?_, fun _ => rfl⟩
    cases ht
  | ok t' =>
    rw [caused, handle_of_ok hu]
    show (t'.settled source).2 = [] ↔ _
    rw [settled_eq_nil_iff, (memory_update hu).1, idle, Option.some.injEq]
    refine ⟨fun h t'' ht => ?_, fun h => (h t' rfl).symm⟩
    rw [← Except.ok.inj ht]
    exact h.symm

/-- A table makes no fetch as long as no event changes the key, and one as soon as an event does. -/
theorem exchanges_eq_nil_iff (idle : t.controller.lastKey = some t.controller.key)
    (es : List Event) : t.exchanges source es = [] ↔ t.KeepsKey source es := by
  induction es generalizing t with
  | nil => exact ⟨fun _ => trivial, fun _ => rfl⟩
  | cons e es ih =>
    rw [exchanges, KeepsKey, List.append_eq_nil_iff, caused_eq_nil_iff idle, ih (idle_step idle e)]

/-! ## All events -/

/-- What is left when the first fetch of an event has failed, given the table before that fetch. -/
structure Halts (source : Source σ α) (changed now : Table σ α) (xs : List (Exchange α))
    (err : Error) : Prop where
  /-- It was the only one. -/
  once : xs = [⟨⟨changed.controller.generation + 1, changed.controller.params⟩, .error err⟩]
  kept : now =
    changed.halted (source changed.source changed.controller.params.toRequest).2 err
  /-- There is no other one until an event changes the key. -/
  quiet : ∀ es, now.exchanges source es = [] ↔ now.KeepsKey source es

/-- How an event fails. -/
structure Fails (source : Source σ α) (t : Table σ α) (e : Event) : Prop where
  refused_iff : ∀ err, t.handle source e = .error err ↔ t.Refuses e err
  unchanged : ∀ err made, t.Refuses e err →
    (InPlace.perform source e).run ⟨t, made⟩ = (.error err, ⟨t, made⟩)
  taken : ∀ now xs made, t.handle source e = .ok (now, xs) →
    (InPlace.perform source e).run ⟨t, made⟩ = (.ok (), ⟨now, made ++ xs⟩)
  halts : ∀ changed now x xs err, t.update e = .ok changed →
    t.handle source e = .ok (now, x :: xs) → x.answer = .error err →
    Halts source changed now (x :: xs) err

theorem fails_of_wellFormed (source : Source σ α) (ht : WellFormed t.controller) (e : Event) :
    Fails source t e where
  refused_iff err := handle_eq_error_iff ht
  unchanged err made refused := by
    rw [InPlace.run_perform, (handle_eq_error_iff ht).mpr refused]
  taken now xs made hh := by rw [InPlace.run_perform, hh]
  halts changed now x xs err hu hh failed := by
    rw [handle_of_ok hu] at hh
    obtain ⟨rfl, hx, rfl⟩ := eq_halted_of_failed (Except.ok.inj hh) failed
    obtain ⟨fetch, answer⟩ := x
    obtain rfl : answer = .error err := failed
    obtain rfl := hx
    exact ⟨rfl, rfl, exchanges_eq_nil_iff rfl⟩

/-- Whatever a table has been through, and whatever its source is, an event is refused exactly for a
page that is not known, the page after the last known one, the page before the first one, and
preferences that do not pass their check. It then changes nothing and fetches nothing. If an event
is taken and its first fetch fails, the table is left as the event made it but for the error and
what is remembered of the fetch, and no fetch follows until an event changes the key. -/
theorem run_fails (reached : t.controller.Reachable) (source : Source σ α) (es : List Event)
    (e : Event) : Fails source (t.run source es) e := by
  obtain ⟨pageSize, sorting, query, params, ces, hc⟩ := reached
  have ht : WellFormed t.controller := by
    rw [hc]
    exact (Controller.wellFormed_start pageSize sorting query params).run ces
  exact fails_of_wellFormed source (wellFormed_run source ht es) e

/-- There is no page before the first one, and the second one cannot be had. -/
theorem run_fails_second_page :
    let t : Table (List (Except Error (ListPage Nat))) Nat :=
      withController [.ok ⟨[1, 2], some "s"⟩, .error (.other "down")]
        (.start 2 ⟨"Name", false⟩ .empty .empty) .default
    let first := t.run Source.script [.load]
    t.controller.Reachable ∧
      first.Refuses .previousPage (.invalidPage 0 first.controller.pageTokens.length) ∧
      (first.handle Source.script .nextPage).toOption.map
        (fun r => (r.1.controller.items, r.1.controller.failure, r.2.length)) =
          some ([1, 2], some "down", 1) ∧
      Fails Source.script first .previousPage ∧ Fails Source.script first .nextPage := by
  intro t first
  have reached : t.controller.Reachable := ⟨2, ⟨"Name", false⟩, .empty, .empty, [], rfl⟩
  exact ⟨reached, .first (by decide +kernel), by decide +kernel,
    run_fails reached Source.script [.load] .previousPage,
    run_fails reached Source.script [.load] .nextPage⟩

end CursorPaging.Paging.Table
