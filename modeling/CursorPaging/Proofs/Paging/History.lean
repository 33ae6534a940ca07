import CursorPaging.Proofs.Paging.Transition
import Mathlib.Data.List.Induction
import Mathlib.Data.List.Nodup

/-!
# The fetches of a run

What a run leaves behind besides its last state: the fetches it issued (`fetches`) and the numbers
of those whose answers it handed in (`handed`). Fetches are numbered as they are issued, so that
the controller remembers the number and the key of the last one:

* `map_generation_fetches`: the numbers are consecutive;
* `generation_run`, `lastKey_run`: what a controller remembers of the fetches;
* `step_fetch`, `inFlight_of_run`: what events can do to these memories and to the fetch in flight.
-/

namespace CursorPaging.Paging

/-- What makes a new fetch necessary when it changes, as it was for this fetch. -/
def Fetch.key (f : Fetch) : FetchKey :=
  ⟨f.params.pagination.page, f.params.sorting, f.params.query, f.params.refreshKey⟩

namespace Controller

variable {α : Type}

/-- A new controller with a query and with parameters that every request sends besides. -/
def start (pageSize : Nat) (sorting : Sorting) (query : FilterQuery) (params : Dictionary String) :
    Controller α :=
  ((new pageSize sorting).withQuery query).withExtraParams params

/-- A controller before its first event. -/
def Initial (c : Controller α) : Prop :=
  ∃ pageSize sorting query params, c = start pageSize sorting query params

theorem initial_start (pageSize : Nat) (sorting : Sorting) (query : FilterQuery)
    (params : Dictionary String) : Initial (start pageSize sorting query params : Controller α) :=
  ⟨pageSize, sorting, query, params, rfl⟩

theorem Initial.generation {c : Controller α} (h : Initial c) : c.generation = 0 := by
  obtain ⟨_, _, _, _, rfl⟩ := h; rfl

theorem Initial.lastKey {c : Controller α} (h : Initial c) : c.lastKey = none := by
  obtain ⟨_, _, _, _, rfl⟩ := h; rfl

/-- The fetch that an event issues. -/
def issues (c : Controller α) : Event α → Option Fetch
  | .nextFetch => c.nextFetch.map Prod.fst
  | _ => none

/-- The fetches that a run issues, in order. -/
def fetches (c : Controller α) : List (Event α) → List Fetch
  | [] => []
  | e :: es => (c.issues e).toList ++ (c.step e).fetches es

/-- The number of the fetch whose answer an event hands in; an answer under a number that no fetch
has yet is the answer of none. -/
def handsIn (c : Controller α) : Event α → Option Nat
  | .complete g _ => if 1 ≤ g ∧ g ≤ c.generation then some g else none
  | _ => none

/-- The numbers of the fetches whose answers a run hands in, in order. -/
def handed (c : Controller α) : List (Event α) → List Nat
  | [] => []
  | e :: es => (c.handsIn e).toList ++ (c.step e).handed es

theorem fetches_append (c : Controller α) (es es' : List (Event α)) :
    c.fetches (es ++ es') = c.fetches es ++ (c.run es).fetches es' := by
  induction es generalizing c with
  | nil => rfl
  | cons e es ih => simp only [List.cons_append, fetches, ih, run_cons, List.append_assoc]

theorem fetches_concat (c : Controller α) (es : List (Event α)) (e : Event α) :
    c.fetches (es ++ [e]) = c.fetches es ++ ((c.run es).issues e).toList := by
  simp [fetches_append, fetches]

theorem handed_append (c : Controller α) (es es' : List (Event α)) :
    c.handed (es ++ es') = c.handed es ++ (c.run es).handed es' := by
  induction es generalizing c with
  | nil => rfl
  | cons e es ih => simp only [List.cons_append, handed, ih, run_cons, List.append_assoc]

/-! ## One event -/

/-- A fetch that is due has the next number, and asks for what the controller shows. -/
theorem issues_due {c : Controller α} (h : c.lastKey ≠ some c.key) :
    c.issues .nextFetch = some ⟨c.generation + 1, c.params⟩ := by
  simp [issues, nextFetch, h]

theorem issues_idle {c : Controller α} (h : c.lastKey = some c.key) :
    c.issues .nextFetch = none := by
  simp [issues, nextFetch, h]

theorem handsIn_complete {c : Controller α} {g : Nat} (hp : 1 ≤ g) (hg : g ≤ c.generation)
    (answer : Except Error (ListPage α)) : c.handsIn (.complete g answer) = some g := by
  simp [handsIn, hp, hg]

/-- Only answers to fetches that were issued are handed in. -/
theorem handsIn_eq_some {c : Controller α} {e : Event α} {g : Nat} (h : c.handsIn e = some g) :
    ∃ answer, e = .complete g answer ∧ 1 ≤ g ∧ g ≤ c.generation := by
  cases e with
  | complete g' answer =>
    simp only [handsIn, Option.ite_none_right_eq_some, Option.some.injEq] at h
    obtain ⟨hg, rfl⟩ := h
    exact ⟨answer, rfl, hg⟩
  | _ => cases h

theorem issues_move {c : Controller α} {e : Event α} {page : Nat} (h : c.target e = some page) :
    c.issues e = none := by
  cases e <;> first | rfl | cases h

/-- Either an event issues a fetch, or the number and the key of the last fetch stay; then the fetch
in flight stays too, unless the event is its answer and counts. -/
theorem step_fetch (c : Controller α) (e : Event α) :
    (c.issues e = some ⟨c.generation + 1, c.params⟩ ∧ c.step e = c.issue) ∨
    (c.issues e = none ∧ (c.step e).generation = c.generation ∧ (c.step e).lastKey = c.lastKey ∧
      ((c.step e).inFlight = c.inFlight ∨
        (c.step e).inFlight = none ∧ ∃ g answer, e = .complete g answer ∧ c.inFlight = some g ∧
          c.lastKey = some c.key)) := by
  have h := transition_step c e
  generalize c.step e = c' at h
  cases h with
  | issued due => exact .inl ⟨issues_due due, rfl⟩
  | idle fetched => exact .inr ⟨issues_idle fetched, rfl, rfl, .inl rfl⟩
  | broken awaited current => exact .inr ⟨rfl, rfl, rfl, .inr ⟨rfl, _, _, rfl, awaited, current⟩⟩
  | shown awaited current shows =>
    have k := shows.keeps
    exact .inr ⟨rfl, k.generation, k.lastKey, .inr ⟨k.inFlight, _, _, rfl, awaited, current⟩⟩
  | moved move | unmoved move => exact .inr ⟨issues_move move, rfl, rfl, .inl rfl⟩
  | _ => exact .inr ⟨rfl, rfl, rfl, .inl rfl⟩

theorem generation_step (c : Controller α) (e : Event α) :
    (c.step e).generation = c.generation + (c.issues e).toList.length := by
  rcases step_fetch c e with ⟨hi, hs⟩ | ⟨hi, hg, -⟩
  · rw [hi, hs]; rfl
  · rw [hi, hg]; rfl

theorem generation_le_step (c : Controller α) (e : Event α) :
    c.generation ≤ (c.step e).generation := by
  rw [generation_step]; exact Nat.le_add_right _ _

/-! ## Numbers -/

theorem generation_run (c : Controller α) (es : List (Event α)) :
    (c.run es).generation = c.generation + (c.fetches es).length := by
  induction es generalizing c with
  | nil => rfl
  | cons e es ih =>
    rw [run_cons, ih, generation_step, fetches, List.length_append, Nat.add_assoc]

theorem generation_le_run (c : Controller α) (es : List (Event α)) :
    c.generation ≤ (c.run es).generation := by
  rw [generation_run]; exact Nat.le_add_right _ _

/-- Fetches are numbered in the order in which they are issued. -/
theorem map_generation_fetches (c : Controller α) (es : List (Event α)) :
    (c.fetches es).map Fetch.generation =
      List.range' (c.generation + 1) (c.fetches es).length := by
  induction es generalizing c with
  | nil => rfl
  | cons e es ih =>
    simp only [fetches, List.map_append, ih, generation_step]
    rcases step_fetch c e with ⟨hi, -⟩ | ⟨hi, -⟩
    · simp only [hi, Option.toList_some, List.map_cons, List.map_nil, List.length_cons,
        List.length_nil, List.cons_append, List.nil_append]
      rw [Nat.zero_add, List.range'_succ]
    · simp only [hi, Option.toList_none, List.map_nil, List.length_nil, List.nil_append,
        Nat.add_zero]

/-- A number is that of an issued fetch if and only if it lies between those of the first and the
last one. -/
theorem exists_fetch_iff {c : Controller α} {es : List (Event α)} {g : Nat} :
    (∃ f ∈ c.fetches es, f.generation = g) ↔ c.generation < g ∧ g ≤ (c.run es).generation := by
  have h : (∃ f ∈ c.fetches es, f.generation = g) ↔
      g ∈ (c.fetches es).map Fetch.generation := by
    simp only [List.mem_map]
  rw [h, map_generation_fetches, List.mem_range'_1, generation_run]
  omega

/-- The place at which an answer was handed in. -/
theorem exists_complete_of_mem_handed {c : Controller α} {es : List (Event α)} {g : Nat}
    (h : g ∈ c.handed es) :
    ∃ before answer after, es = before ++ .complete g answer :: after ∧ 1 ≤ g ∧
      g ≤ (c.run before).generation := by
  induction es generalizing c with
  | nil => cases h
  | cons e es ih =>
    rcases List.mem_append.mp h with h | h
    · obtain ⟨answer, rfl, hp, hg⟩ := handsIn_eq_some (Option.mem_toList.mp h)
      exact ⟨[], answer, es, rfl, hp, hg⟩
    · obtain ⟨before, answer, after, rfl, hp, hg⟩ := ih h
      exact ⟨e :: before, answer, after, rfl, hp, hg⟩

/-- No two fetches of a run have the same number. -/
theorem fetch_unique {c : Controller α} {es : List (Event α)} {f f' : Fetch}
    (h : f ∈ c.fetches es) (h' : f' ∈ c.fetches es) (he : f.generation = f'.generation) :
    f = f' := by
  have hn : ((c.fetches es).map Fetch.generation).Nodup := by
    rw [map_generation_fetches]; exact List.nodup_range'
  exact List.inj_on_of_nodup_map hn h h' he

/-- A fetch of a run belongs to the part of it that has reached the number of the fetch. -/
theorem mem_fetches_of_le {c : Controller α} {es es' : List (Event α)} {f : Fetch}
    (h : f ∈ c.fetches (es ++ es')) (hg : f.generation ≤ (c.run es).generation) :
    f ∈ c.fetches es := by
  rw [fetches_append] at h
  rcases List.mem_append.mp h with h | h
  · exact h
  · have := (exists_fetch_iff.mp ⟨f, h, rfl⟩).1
    omega

/-- An event leaves no fetch in flight but its own and the one that was in flight before. -/
theorem inFlight_of_step {c : Controller α} {e : Event α} {g : Nat} (hg : g ≤ c.generation)
    (h : (c.step e).inFlight = some g) : c.inFlight = some g := by
  rcases step_fetch c e with ⟨-, hs⟩ | ⟨-, -, -, hs | ⟨hs, -⟩⟩
  · have hi : (c.step e).inFlight = some (c.generation + 1) := by rw [hs]; rfl
    have := Option.some.inj (hi.symm.trans h)
    omega
  · exact hs ▸ h
  · rw [hs] at h; cases h

/-- A fetch in flight at the end has been in flight ever since it was issued. -/
theorem inFlight_of_run {c : Controller α} {es : List (Event α)} {g : Nat} (hg : g ≤ c.generation)
    (h : (c.run es).inFlight = some g) : c.inFlight = some g := by
  induction es generalizing c with
  | nil => exact h
  | cons e es ih =>
    have hs : g ≤ (c.step e).generation := Nat.le_trans hg (generation_le_run c [e])
    exact inFlight_of_step hg (ih hs h)

/-- The last fetch has the number that the controller remembers. -/
theorem generation_getLast {c : Controller α} {es : List (Event α)} {f : Fetch}
    (h : (c.fetches es).getLast? = some f) : f.generation = (c.run es).generation := by
  induction es using List.reverseRecOn with
  | nil => cases h
  | append_singleton es e ih =>
    rw [fetches_concat] at h
    rw [run_concat]
    rcases step_fetch (c.run es) e with ⟨hi, hs⟩ | ⟨hi, hg, -⟩
    · rw [hi, Option.toList_some, List.getLast?_concat, Option.some.injEq] at h
      rw [hs, ← h]; rfl
    · rw [hi, Option.toList_none, List.append_nil] at h
      rw [hg]; exact ih h

/-- The controller remembers the key of the last fetch. -/
theorem lastKey_run {c : Controller α} (hc : Initial c) (es : List (Event α)) :
    (c.run es).lastKey = (c.fetches es).getLast?.map Fetch.key := by
  induction es using List.reverseRecOn with
  | nil => exact hc.lastKey
  | append_singleton es e ih =>
    rw [fetches_concat, run_concat]
    rcases step_fetch (c.run es) e with ⟨hi, hs⟩ | ⟨hi, -, hk, -⟩
    · rw [hi, hs, Option.toList_some, List.getLast?_concat]; rfl
    · rw [hi, Option.toList_none, List.append_nil, hk, ih]

end Controller

end CursorPaging.Paging
