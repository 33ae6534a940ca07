import CursorPaging.Proofs.Paging.Invariant

/-!
# Late and repeated answers

Answers may come late, twice, or in another order than their fetches. Only the fetch in flight has
an answer that counts, and once it has counted no fetch is in flight, so that among any deliveries
between two events at most one matters:

* `Waiting.of_step`, `pairwise_counted`: over a run, answers count in the order of their fetches,
  each once;
* `deliver_eq`: which of several deliveries counts;
* `complete_of_passed`: what becomes of the others;
* `run_deliveries`: both after any run.
-/

namespace CursorPaging.Paging.Controller

variable {α : Type} {c : Controller α} {g : Nat}

/-! ## Answers that count in a run -/

/-- The number of the fetch whose answer counts in an event. -/
def counts (c : Controller α) : Event α → Option Nat
  | .complete g answer => if (c.complete g answer).1 then some g else none
  | _ => none

/-- The numbers of the fetches whose answers count in a run, in the order in which they count. -/
def counted (c : Controller α) : List (Event α) → List Nat
  | [] => []
  | e :: es => (c.counts e).toList ++ (c.step e).counted es

/-- The answer under this number may count from now on: the fetch is in flight, or not yet
issued. -/
def Waiting (c : Controller α) (g : Nat) : Prop := c.inFlight = some g ∨ c.generation < g

/-- No event makes a controller wait for an old fetch. -/
theorem Waiting.of_step {e : Event α} (h : Waiting (c.step e) g) : Waiting c g := by
  unfold Waiting at *
  rcases step_fetch c e with ⟨-, hs⟩ | ⟨-, hg, -, hf | ⟨hf, -⟩⟩
  · have hi : c.issue.inFlight = some (c.generation + 1) := rfl
    have hn : c.issue.generation = c.generation + 1 := rfl
    rw [hs, hi, hn] at h
    rcases h with h | h
    · have := Option.some.inj h
      exact .inr (by omega)
    · exact .inr (by omega)
  · rwa [hf, hg] at h
  · rw [hf, hg] at h
    exact .inr (h.resolve_left nofun)

/-- The answer that counts is that of the fetch in flight, and none is in flight after it. -/
theorem counts_eq_some {e : Event α} (h : c.counts e = some g) :
    c.inFlight = some g ∧ (c.step e).inFlight = none ∧ (c.step e).generation = c.generation := by
  cases e with
  | complete g' answer =>
    simp only [counts, Option.ite_none_right_eq_some, Option.some.injEq] at h
    obtain ⟨hc, rfl⟩ := h
    obtain ⟨hf, hk⟩ := awaits_iff.mp (awaits_of_complete hc)
    have hs : c.step (.complete g' answer) = c.applyAnswer answer :=
      congrArg Prod.snd (complete_of_current answer hf hk)
    refine ⟨hf, by rw [hs]; exact inFlight_applyAnswer c answer, ?_⟩
    rw [generation_step]
    rfl
  | _ => cases h

theorem waiting_of_counted {es : List (Event α)} (h : g ∈ c.counted es) : Waiting c g := by
  induction es generalizing c with
  | nil => cases h
  | cons e es ih =>
    rcases List.mem_append.mp h with h | h
    · exact .inl (counts_eq_some (Option.mem_toList.mp h)).1
    · exact (ih h).of_step

/-- Answers count in the order of their fetches. -/
theorem WellFormed.pairwise_counted (hc : WellFormed c) (es : List (Event α)) :
    (c.counted es).Pairwise (· < ·) := by
  induction es generalizing c with
  | nil => exact .nil
  | cons e es ih =>
    refine List.pairwise_append.mpr ⟨?_, ih (hc.step e), ?_⟩
    · cases c.counts e with
      | none => exact .nil
      | some g => exact List.pairwise_singleton _ g
    · intro g hg g' hg'
      obtain ⟨hf, hn, hgen⟩ := counts_eq_some (Option.mem_toList.mp hg)
      obtain ⟨rfl, -⟩ := hc.inFlight g hf
      -- Nothing is in flight after the answer, so that what counts later is issued later.
      rcases waiting_of_counted hg' with h | h
      · rw [hn] at h; cases h
      · rwa [hgen] at h

/-! ## Deliveries between events -/

/-- An answer, and the number of the fetch that it is delivered for. -/
structure Delivery (α : Type) where
  generation : Nat
  answer : Except Error (ListPage α)

/-- The controller after deliveries, with nothing else in between. -/
def deliver (c : Controller α) (ds : List (Delivery α)) : Controller α :=
  c.run (ds.map fun d => .complete d.generation d.answer)

variable {ds : List (Delivery α)} {d : Delivery α}

theorem deliver_cons (c : Controller α) (d : Delivery α) (ds : List (Delivery α)) :
    c.deliver (d :: ds) = (c.complete d.generation d.answer).2.deliver ds := rfl

/-- Answers to other fetches than the one in flight change nothing. -/
theorem deliver_of_unawaited (h : ∀ d ∈ ds, c.inFlight ≠ some d.generation) :
    c.deliver ds = c := by
  induction ds with
  | nil => rfl
  | cons d ds ih =>
    obtain ⟨hd, hds⟩ := List.forall_mem_cons.mp h
    rw [deliver_cons, complete_of_stale d.answer fun hf => absurd hf hd]
    exact ih hds

/-- Once the key has changed, no answer changes anything until there is a new fetch. -/
theorem deliver_of_superseded (h : c.lastKey ≠ some c.key) (ds : List (Delivery α)) :
    c.deliver ds = c := by
  induction ds with
  | nil => rfl
  | cons d ds ih =>
    rw [deliver_cons, complete_of_stale d.answer fun _ => h]
    exact ih

/-- Among deliveries, the first one for the fetch in flight decides. -/
theorem deliver_eq (c : Controller α) (ds : List (Delivery α)) :
    c.deliver ds = (ds.find? fun d => c.inFlight = some d.generation).elim c
      fun d => (c.complete d.generation d.answer).2 := by
  induction ds with
  | nil => rfl
  | cons d ds ih =>
    rw [deliver_cons]
    by_cases hf : c.inFlight = some d.generation
    · rw [List.find?_cons_of_pos (by simpa using hf), Option.elim_some]
      by_cases hk : c.lastKey = some c.key
      · rw [complete_of_current d.answer hf hk]
        refine deliver_of_unawaited fun d' _ => ?_
        rw [inFlight_applyAnswer]
        exact nofun
      · rw [complete_of_stale d.answer fun _ => hk]
        exact deliver_of_superseded hk ds
    · rw [List.find?_cons_of_neg (by simpa using hf),
        complete_of_stale d.answer fun h => absurd h hf]
      exact ih

/-- Nothing is in flight after a delivery that counted. -/
theorem inFlight_deliver (current : c.lastKey = some c.key)
    (h : ¬∀ d ∈ ds, c.inFlight ≠ some d.generation) : (c.deliver ds).inFlight = none := by
  rw [deliver_eq]
  cases hd : ds.find? fun d => c.inFlight = some d.generation with
  | none => exact absurd (by simpa using hd) h
  | some d =>
    have hf : c.inFlight = some d.generation := by simpa using List.find?_some hd
    rw [Option.elim_some, complete_of_current d.answer hf current]
    exact inFlight_applyAnswer c d.answer

/-- A delivery is for the fetch in flight, and none before it is. -/
def IsFirst (c : Controller α) (before : List (Delivery α)) (d : Delivery α) : Prop :=
  c.inFlight = some d.generation ∧ ∀ d' ∈ before, c.inFlight ≠ some d'.generation

/-- Every other delivery is of no effect. -/
theorem complete_of_passed {before : List (Delivery α)} (h : ¬IsFirst c before d) :
    (c.deliver before).complete d.generation d.answer = (false, c.deliver before) := by
  by_cases hk : c.lastKey = some c.key
  · refine complete_of_stale d.answer fun hf => ?_
    by_cases hb : ∀ d' ∈ before, c.inFlight ≠ some d'.generation
    · rw [deliver_of_unawaited hb] at hf
      exact absurd ⟨hf, hb⟩ h
    · rw [inFlight_deliver hk hb] at hf
      cases hf
  · rw [deliver_of_superseded hk]
    exact complete_of_stale d.answer fun _ => hk

/-- Over any run, answers count in the order in which their fetches were issued, none of them twice.
Of deliveries after it, with nothing else in between, only the first one for the fetch in flight can
have an effect, and it has none if page, sorting, query or refresh key are not those of the last
fetch; every other delivery is refused and changes nothing. -/
theorem run_deliveries (pageSize : Nat) (sorting : Sorting) (query : FilterQuery)
    (params : Dictionary String) (es : List (Event α)) :
    let first : Controller α := start pageSize sorting query params
    let c := first.run es
    (first.counted es).Pairwise (· < ·) ∧
    ∀ ds : List (Delivery α),
      c.deliver ds = (ds.find? fun d => c.inFlight = some d.generation).elim c
        (fun d => (c.complete d.generation d.answer).2) ∧
      ((first.fetches es).getLast?.map Fetch.key ≠ some c.key → c.deliver ds = c) ∧
      ∀ before d after, ds = before ++ d :: after → ¬IsFirst c before d →
        (c.deliver before).complete d.generation d.answer = (false, c.deliver before) := by
  intro first c
  have hi : Initial first := initial_start pageSize sorting query params
  refine ⟨hi.wellFormed.pairwise_counted es, fun ds => ⟨c.deliver_eq ds, fun hk => ?_, ?_⟩⟩
  · exact deliver_of_superseded (by rw [lastKey_run hi]; exact hk) ds
  · intro before d after _ hd
    exact complete_of_passed hd

/-- The answer of the second fetch comes twice, after a late one of the first: it counts once. -/
example :
    let c : Controller Nat := (start 20 ⟨"Name", false⟩ .empty .empty).run
      [.nextFetch, .refresh, .nextFetch]
    let late : Delivery Nat := ⟨1, .ok ⟨[1], none⟩⟩
    let answer : Delivery Nat := ⟨2, .ok ⟨[1, 2], none⟩⟩
    (c.deliver [late, answer, answer]).items = [1, 2] ∧
      c.counted [.complete 1 late.answer, .complete 2 answer.answer, .complete 2 answer.answer] =
        [2] := by
  decide

end CursorPaging.Paging.Controller
