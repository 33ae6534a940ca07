import CursorPaging.Proofs.Paging.Fetches

/-!
# Events that are refused

A table refuses an event before anything has changed. That no check comes after a change is shown
of the operations as they change a table in place, one assignment after the other (`InPlace`), where
what has changed stays so if a later check fails:

* `Refuses`, `handle_eq_error_iff`: the events that are refused, and their errors;
* `InPlace.run_perform`: in place, an event does what `handle` says, and nothing if it is refused.
-/

namespace CursorPaging.Paging

open Controller (WellFormed)

variable {σ α β : Type}

/-! ## Refusals -/

namespace Table

variable {t : Table σ α} {e : Event} {err : Error} {source : Source σ α}

/-- The events that a table refuses, and their errors. -/
inductive Refuses (t : Table σ α) : Event → Error → Prop where
  | page {page : Nat} (unknown : page = 0 ∨ t.controller.pageTokens.length < page) :
    Refuses t (.changePage page) (.invalidPage page t.controller.pageTokens.length)
  | last (last : t.controller.page = t.controller.pageTokens.length) :
    Refuses t .nextPage
      (.invalidPage (t.controller.page + 1) t.controller.pageTokens.length)
  | first (first : t.controller.page = 1) :
    Refuses t .previousPage (.invalidPage 0 t.controller.pageTokens.length)
  | preferences {preferences : Preferences} {err : Error}
    (rejected : preferences.check t.pageSizes = .error err) :
    Refuses t (.confirmPreferences preferences) err

/-- Only moves to pages that are not known are refused. -/
theorem setPage_eq_error {c : Controller α} {page : Nat} : c.setPage page = .error err ↔
    (page = 0 ∨ c.pageTokens.length < page) ∧ err = .invalidPage page c.pageTokens.length := by
  unfold Controller.setPage
  split
  · rename_i h
    simp only [Except.error.injEq, h, true_and, eq_comm]
  · rename_i h
    simp only [reduceCtorEq, h, false_and]

theorem move_eq_error {x : Except Error (Controller α)} :
    (do return { t with controller := ← x }) = Except.error err ↔ x = .error err := by
  cases x with
  | error e => exact ⟨fun h => by cases h; rfl, fun h => by cases h; rfl⟩
  | ok c => exact ⟨nofun, nofun⟩

/-- A page size that passes the check of preferences is taken. -/
theorem exists_setPageSize {preferences : Preferences} {offered : PageSizes}
    (valid : preferences.check offered = .ok ()) (c : Controller α) :
    ∃ c', c.setPageSize preferences.pageSize = .ok c' := by
  have hpos := pageSize_pos_of_check valid
  unfold Controller.setPageSize
  rw [if_neg (show ¬preferences.pageSize = 0 by omega)]
  split
  · exact ⟨_, rfl⟩
  · exact ⟨_, rfl⟩

theorem confirm_eq_error {preferences : Preferences} :
    t.update (.confirmPreferences preferences) = .error err ↔
      preferences.check t.pageSizes = .error err := by
  simp only [update]
  cases hp : preferences.check t.pageSizes with
  | error e => exact ⟨fun h => by cases h; rfl, fun h => by cases h; rfl⟩
  | ok =>
    obtain ⟨c, hc⟩ := exists_setPageSize hp t.controller
    rw [hc]
    exact ⟨fun h => (by cases h), fun h => (by cases h)⟩

/-- On a known page, the pages around it are refused at the ends only. -/
theorem update_eq_error_iff (ht : WellFormed t.controller) :
    t.update e = .error err ↔ t.Refuses e err := by
  have hpos := ht.page_pos
  have hle := ht.page_le
  constructor
  · intro h
    cases e with
    | load | changeSorting | changeQuery | resetPagination | refresh | itemsDeleted => cases h
    | changePage page =>
      obtain ⟨unknown, rfl⟩ := setPage_eq_error.mp (move_eq_error.mp h)
      exact .page unknown
    | nextPage =>
      obtain ⟨unknown, rfl⟩ := setPage_eq_error.mp (move_eq_error.mp h)
      exact .last (by omega)
    | previousPage =>
      obtain ⟨unknown, rfl⟩ := setPage_eq_error.mp (move_eq_error.mp h)
      have hp : t.controller.page = 1 := by omega
      rw [hp]
      exact .first hp
    | confirmPreferences preferences => exact .preferences (confirm_eq_error.mp h)
  · intro h
    cases h with
    | page unknown => exact move_eq_error.mpr (setPage_eq_error.mpr ⟨unknown, rfl⟩)
    | last last => exact move_eq_error.mpr (setPage_eq_error.mpr ⟨.inr (by omega), rfl⟩)
    | first first =>
      refine move_eq_error.mpr (setPage_eq_error.mpr ⟨.inl (by omega), ?_⟩)
      rw [first]
    | preferences rejected => exact confirm_eq_error.mpr rejected

theorem handle_eq_error_iff (ht : WellFormed t.controller) :
    t.handle source e = .error err ↔ t.Refuses e err := by
  rw [← update_eq_error_iff ht]
  refine ⟨fun h => ?_, handle_of_error⟩
  cases hu : t.update e with
  | error e' =>
    rw [handle_of_error hu] at h
    exact congrArg Except.error (Except.error.inj h)
  | ok t' =>
    rw [handle_of_ok hu] at h
    cases h

end Table

/-! ## Changes in place -/

/-- A table that is changed in place, and the fetches it has made. -/
structure Live (σ α : Type) where
  table : Table σ α
  made : List (Exchange α)

/-- Operations that change a table in place; what has changed stays so if the operation fails. -/
abbrev InPlace (σ α β : Type) := ExceptT Error (StateM (Live σ α)) β

namespace InPlace

variable {l : Live σ α}

/-- The result of an operation, and what is there afterwards. -/
def run (x : InPlace σ α β) (l : Live σ α) : Except Error β × Live σ α :=
  StateT.run (ExceptT.run x) l

def controller : InPlace σ α (Controller α) := return (← get).table.controller

def change (f : Controller α → Controller α) : InPlace σ α Unit :=
  modify fun l => { l with table := { l.table with controller := f l.table.controller } }

def setPage (page : Nat) : InPlace σ α Unit := do
  let known := (← controller).pageTokens.length
  if page = 0 ∨ known < page then throw (.invalidPage page known)
  change fun c => { c with page := page }

def setPageSize (pageSize : Nat) : InPlace σ α Unit := do
  if pageSize = 0 then throw (.invalidValue "page_size" "must be positive")
  if pageSize ≠ (← controller).pageSize then
    change fun c => { c with pageSize := pageSize }
    change Controller.resetPagination

def confirm (preferences : Preferences) : InPlace σ α Unit := do
  liftExcept (preferences.check (← get).table.pageSizes)
  setPageSize preferences.pageSize
  modify fun l => { l with table := { l.table with preferences := preferences } }

/-- The change that an event makes before any fetch. -/
def update : Table.Event → InPlace σ α Unit
  | .load => return
  | .changePage page => setPage page
  | .nextPage => do setPage ((← controller).page + 1)
  | .previousPage => do setPage ((← controller).page - 1)
  | .changeSorting sorting => change fun c => c.setSorting sorting
  | .changeQuery query => change fun c => c.setQuery query
  | .confirmPreferences preferences => confirm preferences
  | .resetPagination => change Controller.resetPagination
  | .refresh => change Controller.refresh
  | .itemsDeleted => change Controller.itemsDeleted

def settle (source : Source σ α) : InPlace σ α Unit :=
  modify fun l => ⟨(l.table.settled source).1, l.made ++ (l.table.settled source).2⟩

/-- Performs an event. -/
def perform (source : Source σ α) (e : Table.Event) : InPlace σ α Unit := do
  update e
  settle source

/-- A command in two parts stops at the first error and keeps what was done before it. -/
theorem run_bind (x : InPlace σ α β) {γ : Type} (f : β → InPlace σ α γ) :
    (x >>= f).run l = match x.run l with
      | (.ok b, l') => (f b).run l'
      | (.error e, l') => (.error e, l') := by
  unfold run
  rw [ExceptT.run_bind, StateT.run_bind]
  rcases (ExceptT.run x).run l with ⟨_ | _, l'⟩ <;> rfl

/-- What is left of an operation: another table if it succeeds, and all as it was if it fails. -/
def outcome (l : Live σ α) : Except Error (Table σ α) → Except Error Unit × Live σ α
  | .ok t => (.ok (), { l with table := t })
  | .error e => (.error e, l)

theorem run_setPage (page : Nat) :
    (setPage page).run l = outcome l (do
      return { l.table with controller := ← l.table.controller.setPage page }) := by
  unfold setPage Controller.setPage
  rw [run_bind]
  show (if _ then _ else _ : InPlace σ α Unit).run l = _
  split <;> rfl

theorem run_setPageSize (pageSize : Nat) :
    (setPageSize pageSize).run l = outcome l (do
      return { l.table with controller := ← l.table.controller.setPageSize pageSize }) := by
  unfold setPageSize Controller.setPageSize
  split
  · rfl
  · rw [run_bind]
    show (if pageSize ≠ l.table.controller.pageSize then _ else _ : InPlace σ α Unit).run l = _
    by_cases h : pageSize = l.table.controller.pageSize
    · rw [if_neg (not_not_intro h), if_pos h]
      rfl
    · rw [if_pos h, if_neg h]
      rfl

theorem run_confirm (preferences : Preferences) :
    (confirm preferences).run l = outcome l (l.table.update (.confirmPreferences preferences)) := by
  unfold confirm
  rw [run_bind]
  show (liftExcept (preferences.check l.table.pageSizes) >>= _ : InPlace σ α Unit).run l = _
  rw [run_bind]
  cases hp : preferences.check l.table.pageSizes with
  | error e =>
    rw [Table.confirm_eq_error.mpr hp]
    rfl
  | ok =>
    show (setPageSize preferences.pageSize >>= _ : InPlace σ α Unit).run l = _
    rw [run_bind, run_setPageSize]
    simp only [Table.update, hp]
    cases l.table.controller.setPageSize preferences.pageSize <;> rfl

/-- Checks come before changes: an event that is refused leaves everything as it was. -/
theorem run_update (e : Table.Event) : (update e).run l = outcome l (l.table.update e) := by
  cases e with
  | load | changeSorting | changeQuery | resetPagination | refresh | itemsDeleted => rfl
  | changePage page => exact run_setPage page
  | nextPage => exact run_setPage (l.table.controller.page + 1)
  | previousPage => exact run_setPage (l.table.controller.page - 1)
  | confirmPreferences preferences => exact run_confirm preferences

/-- An event of the table is done with its fetches, or not at all. -/
theorem run_perform (source : Source σ α) (e : Table.Event) :
    (perform source e).run l = match l.table.handle source e with
      | .ok (t, xs) => (.ok (), ⟨t, l.made ++ xs⟩)
      | .error err => (.error err, l) := by
  rw [perform, run_bind, run_update]
  cases hu : l.table.update e with
  | error err => rw [Table.handle_of_error hu]; rfl
  | ok t => rw [Table.handle_of_ok hu]; rfl

end InPlace

end CursorPaging.Paging
