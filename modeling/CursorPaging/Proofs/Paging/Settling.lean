import CursorPaging.Paging.Table
import CursorPaging.Proofs.Paging.Transition

/-!
# Settling

A table performs fetches until none is due. What one round does (`settle_of_idle`,
`settle_of_due`), and that an answer with items is the last one (`settle_of_items`); then events of
tables, one at a time (`step_of_ok`, `step_of_error`) and in runs. What an event does before any
fetch is a change of the controller alone (`update_eq_ok`).
-/

namespace CursorPaging.Paging

variable {σ α : Type} {source : Source σ α} {c : Controller α} {s : σ}

namespace Controller

theorem nextFetch_of_idle (h : c.lastKey = some c.key) : c.nextFetch = none := by
  simp only [nextFetch, h, if_true]

theorem nextFetch_of_due (h : c.lastKey ≠ some c.key) :
    c.nextFetch = some (⟨c.generation + 1, c.params⟩, c.issue) := by
  simp only [nextFetch, h, if_false]

/-- The answer to a fetch that was just issued counts. -/
theorem complete_issue (c : Controller α) (answer : Except Error (ListPage α)) :
    c.issue.complete (c.generation + 1) answer = (true, c.issue.applyAnswer answer) :=
  complete_of_current answer rfl rfl

/-- A page with items keeps the key. -/
theorem Shows.key_eq {c c' : Controller α} {p : ListPage α} (h : Shows c p c')
    (hp : p.items ≠ []) : c'.key = c.key := by
  cases h with
  | back empty | void empty => exact absurd empty hp
  | inside | counted | ended | grown => rfl

end Controller

/-! ## Rounds -/

theorem settle_of_idle (h : c.lastKey = some c.key) : settle source c s = ⟨c, s, []⟩ := by
  rw [settle]
  split
  · rfl
  · rename_i hn
    rw [Controller.nextFetch_of_idle h] at hn
    cases hn

/-- Settling starts with the fetch that is due. -/
theorem settle_of_due (h : c.lastKey ≠ some c.key) :
    settle source c s =
      let reply := source s c.params.toRequest
      let rest := settle source (c.issue.applyAnswer reply.1) reply.2
      { rest with exchanges := ⟨⟨c.generation + 1, c.params⟩, reply.1⟩ :: rest.exchanges } := by
  rw [settle]
  split
  · rename_i hn
    rw [Controller.nextFetch_of_due h] at hn
    cases hn
  · rename_i hn
    rw [Controller.nextFetch_of_due h] at hn
    cases hn
    simp only [Controller.complete_issue]

/-- A round that is answered with a page. -/
theorem settle_of_page (h : c.lastKey ≠ some c.key) {p : ListPage α} {s' : σ}
    (hr : source s c.params.toRequest = (.ok p, s')) :
    settle source c s =
      let rest := settle source (c.issue.landed.applyPage p) s'
      { rest with exchanges := ⟨⟨c.generation + 1, c.params⟩, .ok p⟩ :: rest.exchanges } := by
  rw [settle_of_due h, hr]
  rfl

/-- A page with items settles the table. -/
theorem settle_of_items (h : c.lastKey ≠ some c.key) {p : ListPage α}
    (hr : (source s c.params.toRequest).1 = .ok p) (hp : p.items ≠ []) :
    settle source c s = ⟨c.issue.landed.applyPage p, (source s c.params.toRequest).2,
      [⟨⟨c.generation + 1, c.params⟩, .ok p⟩]⟩ := by
  have hs := c.issue.landed.shows_applyPage p
  have hk : (c.issue.landed.applyPage p).lastKey = some (c.issue.landed.applyPage p).key := by
    rw [hs.keeps.lastKey, hs.key_eq hp]; rfl
  rw [settle_of_page h (Prod.ext hr rfl), settle_of_idle hk]

/-! ## Tables -/

namespace Table

variable {t t' : Table σ α} {e : Event}

theorem settled_of_idle (h : t.controller.lastKey = some t.controller.key) :
    t.settled source = (t, []) := by
  rw [settled, settle_of_idle h]

/-- An event that is taken is followed by the fetches that are due. -/
theorem handle_of_ok (h : t.update e = .ok t') : t.handle source e = .ok (t'.settled source) := by
  simp only [handle, h]
  rfl

theorem handle_of_error {err : Error} (h : t.update e = .error err) :
    t.handle source e = .error err := by
  simp only [handle, h]
  rfl

theorem update_of_handle {r : Table σ α × List (Exchange α)} (h : t.handle source e = .ok r) :
    ∃ t', t.update e = .ok t' ∧ r = t'.settled source := by
  cases hu : t.update e with
  | error err => simp only [handle, hu] at h; cases h
  | ok t' =>
    rw [handle_of_ok hu] at h
    exact ⟨t', rfl, (Except.ok.inj h).symm⟩

/-- The change that an event makes to the controller before any fetch. -/
def Event.change : Event → Option (Controller.Event α)
  | .load => none
  | .changePage page => some (.setPage page)
  | .nextPage => some .nextPage
  | .previousPage => some .previousPage
  | .changeSorting sorting => some (.setSorting sorting)
  | .changeQuery query => some (.setQuery query)
  | .confirmPreferences preferences => some (.setPageSize preferences.pageSize)
  | .resetPagination => some .resetPagination
  | .refresh => some .refresh
  | .itemsDeleted => some .itemsDeleted

/-- The answers of fetches come from the source alone. -/
theorem Event.change_ne_complete (e : Event) (g : Nat) (answer : Except Error (ListPage α)) :
    e.change ≠ some (.complete g answer) := by
  cases e <;> exact nofun

theorem update_move {x : Except Error (Controller α)}
    (h : (do return { t with controller := ← x }) = Except.ok t') :
    t'.source = t.source ∧ t'.controller = t.controller.orSame x := by
  cases x with
  | error => cases h
  | ok => cases h; exact ⟨rfl, rfl⟩

/-- What an event does to a table is what it does to its controller. -/
theorem update_eq_ok (h : t.update e = .ok t') :
    t'.source = t.source ∧ t'.controller = e.change.elim t.controller t.controller.step := by
  cases e with
  | load | changeSorting | changeQuery | resetPagination | refresh | itemsDeleted =>
    cases h; exact ⟨rfl, rfl⟩
  | changePage | nextPage | previousPage => exact update_move h
  | confirmPreferences preferences =>
    simp only [update] at h
    cases hp : preferences.check t.pageSizes with
    | error => rw [hp] at h; cases h
    | ok =>
      cases hs : t.controller.setPageSize preferences.pageSize with
      | error => rw [hp, hs] at h; cases h
      | ok c =>
        rw [hp, hs] at h
        cases h
        refine ⟨rfl, ?_⟩
        show c = t.controller.orSame (t.controller.setPageSize preferences.pageSize)
        rw [hs]; rfl

theorem nextPage_of_known
    (known : t.controller.page + 1 ≤ t.controller.pageTokens.length) :
    t.update .nextPage =
      .ok { t with controller := { t.controller with page := t.controller.page + 1 } } := by
  have hs : t.controller.nextPage = .ok { t.controller with page := t.controller.page + 1 } :=
    if_neg (by omega)
  simp only [update, hs]
  rfl

theorem step_of_ok (h : t.update e = .ok t') : t.step source e = (t'.settled source).1 := by
  simp only [step, handle, h]
  rfl

theorem step_of_error {err : Error} (h : t.update e = .error err) : t.step source e = t := by
  simp only [step, handle, h]
  rfl

/-- The table after a sequence of events. -/
def run (source : Source σ α) (t : Table σ α) (es : List Event) : Table σ α :=
  es.foldl (step source) t

/-- What every event of a kind keeps, every run of such events keeps. -/
theorem run_induction {P : Table σ α → Prop} {kind : Event → Bool}
    (hs : ∀ t e, kind e = true → P t → P (t.step source e)) (ht : P t) {es : List Event}
    (he : ∀ e ∈ es, kind e = true) : P (t.run source es) := by
  induction es generalizing t with
  | nil => exact ht
  | cons e es ih =>
    obtain ⟨h, hes⟩ := List.forall_mem_cons.mp he
    exact ih (hs t e h ht) hes

end Table

end CursorPaging.Paging
