import CursorPaging.Paging.View
import CursorPaging.Proofs.Paging.Invariant

/-!
# Controllers that keep loading

A controller is loading while a fetch is in flight. When every answer is handed in once, there is
one reason for it to be loading still: the answer of its last fetch came while it asked for
something else (`Overtaken`) and did not count. Usually the next fetch takes its place, but events
that lead back to the fetch make none necessary:

* `inFlight_or_handed`: the last fetch of a run is in flight until it is answered;
* `run_not_loading_iff`: when a run whose fetches are all answered ends without loading;
* `run_loading_forever`: one that does not, although no fetch is due.
-/

namespace CursorPaging.Paging.Controller

variable {α : Type}

/-- The answer of a fetch was handed in while the controller asked for something else. -/
def Overtaken (c : Controller α) (es : List (Event α)) (f : Fetch) : Prop :=
  ∃ before answer after, es = before ++ .complete f.generation answer :: after ∧
    f ∈ c.fetches before ∧ (c.run before).key ≠ f.key

/-- The last fetch of a run is in flight until its answer is handed in. -/
theorem inFlight_or_handed {c : Controller α} (hc : WellFormed c)
    (h : c.generation = 0 ∨ c.inFlight = some c.generation) (es : List (Event α)) :
    (c.run es).generation = 0 ∨ (c.run es).inFlight = some (c.run es).generation ∨
      (c.run es).generation ∈ c.handed es := by
  induction es using List.reverseRecOn with
  | nil => exact h.imp_right .inl
  | append_singleton es e ih =>
    rw [run_concat, handed_append]
    rcases step_fetch (c.run es) e with ⟨-, hs⟩ | ⟨-, hg, -, hs⟩
    · rw [hs]; exact .inr (.inl rfl)
    · rw [hg]
      rcases hs with hs | ⟨-, g, answer, rfl, hf, -⟩
      · rw [hs]; exact ih.imp_right (.imp_right (List.mem_append_left _))
      · obtain ⟨rfl, hp⟩ := (hc.run es).inFlight g hf
        refine .inr (.inr (List.mem_append_right _ ?_))
        simp [handed, handsIn_complete hp]

section Initial

variable {c : Controller α} {es : List (Event α)}

theorem Initial.overtaken_of_loading (hc : Initial c)
    (all : ∀ f ∈ c.fetches es, f.generation ∈ c.handed es) (hl : (c.run es).loading = true) :
    ∃ f, (c.fetches es).getLast? = some f ∧ Overtaken c es f := by
  obtain ⟨g, hg⟩ := Option.isSome_iff_exists.mp ((hc.wellFormed_run es).loading.mp hl)
  obtain ⟨f, hf, rfl, -⟩ := hc.exists_getLast hg
  have hmem := List.mem_of_getLast? hf
  obtain ⟨before, answer, after, rfl, -, hb⟩ := exists_complete_of_mem_handed (all f hmem)
  have hbefore := mem_fetches_of_le hmem hb
  rw [run_append] at hg
  have hin := inFlight_of_run hb hg
  have hkey := hc.lastKey_of_inFlight hbefore hin
  refine ⟨f, hf, before, answer, after, rfl, hbefore, fun he => ?_⟩
  -- Had the controller been at the key of the fetch, the answer would have counted.
  have hs : ((c.run before).step (.complete f.generation answer)).inFlight = some f.generation :=
    inFlight_of_run (Nat.le_trans hb (generation_le_step _ _)) hg
  rw [step, complete_of_current answer hin (by rw [hkey, he]), inFlight_applyAnswer] at hs
  cases hs

theorem Initial.loading_of_overtaken (hc : Initial c) (once : (c.handed es).Nodup) {f : Fetch}
    (hf : (c.fetches es).getLast? = some f) (ho : Overtaken c es f) :
    (c.run es).loading = true := by
  obtain ⟨before, answer, after, rfl, hmem, hne⟩ := ho
  have hwf := hc.wellFormed_run before
  obtain ⟨hpos, hb⟩ := exists_fetch_iff.mp ⟨f, hmem, rfl⟩
  have hlast := generation_getLast hf
  rw [run_append] at hlast
  -- No fetch is issued after `before`, and no other answer to the last one is handed in.
  have hgen : (c.run before).generation = f.generation := by
    have := generation_le_run (c.run before) (.complete f.generation answer :: after)
    omega
  have hhands := handsIn_complete (show 1 ≤ f.generation by omega) hb answer
  rw [handed_append, handed, hhands, Option.toList_some, List.singleton_append] at once
  obtain ⟨-, hafter, hdisj⟩ := List.nodup_append.mp once
  have hin : (c.run before).inFlight = some f.generation := by
    rcases inFlight_or_handed hc.wellFormed (.inl hc.generation) before with h | h | h
    · omega
    · rw [h, hgen]
    · exact absurd rfl (hdisj _ h _ (by rw [hgen]; exact List.mem_cons_self))
  have hkey := hc.lastKey_of_inFlight hmem hin
  have hs : (c.run before).step (.complete f.generation answer) = c.run before := by
    rw [step, complete_of_stale answer fun _ hk => hne (Option.some.inj (hk.symm.trans hkey))]
  rw [run_append, run_cons, hs]
  rw [run_cons, hs] at hlast
  rw [hs] at hafter
  refine (hwf.run after).loading.mpr ?_
  rcases inFlight_or_handed hwf (.inr (by rw [hin, hgen])) after with h | h | h
  · omega
  · rw [h]; rfl
  · exact absurd (hlast ▸ h) (List.nodup_cons.mp hafter).1

end Initial

/-- When every answer of a run has been handed in, once each, the run ends without loading if and
only if the last answer came while the controller was at the key of its fetch. -/
theorem run_not_loading_iff (pageSize : Nat) (sorting : Sorting) (query : FilterQuery)
    (params : Dictionary String) {es : List (Event α)}
    (once : ((start pageSize sorting query params).handed es).Nodup)
    (all : ∀ f ∈ (start pageSize sorting query params).fetches es,
      f.generation ∈ (start pageSize sorting query params).handed es) :
    let c := start pageSize sorting query params
    ((c.run es).loading = false ∧ (c.run es).paginationView.disabled = false) ↔
      ∀ f, (c.fetches es).getLast? = some f → ¬Overtaken c es f := by
  intro c
  have hc : Initial c := initial_start pageSize sorting query params
  show ((c.run es).loading = false ∧ (c.run es).loading = false) ↔ _
  rw [and_self, ← Bool.not_eq_true]
  constructor
  · intro h f hf ho
    exact h (hc.loading_of_overtaken once hf ho)
  · intro h hl
    obtain ⟨f, hf, ho⟩ := hc.overtaken_of_loading all hl
    exact h f hf ho

/-- The order changes while the second fetch is in flight, which is answered after the third. -/
theorem run_not_loading_reordered :
    let c : Controller Nat := start 20 ⟨"Name", false⟩ .empty .empty
    let es : List (Event Nat) :=
      [.nextFetch, .complete 1 (.ok ⟨[1, 2], some "t"⟩), .nextPage, .nextFetch,
        .setSorting ⟨"Name", true⟩, .nextFetch, .complete 3 (.ok ⟨[4], none⟩),
        .complete 2 (.ok ⟨[3], none⟩)]
    ((c.handed es).Nodup ∧ ∀ f ∈ c.fetches es, f.generation ∈ c.handed es) ∧
      (((c.run es).loading = false ∧ (c.run es).paginationView.disabled = false) ↔
        ∀ f, (c.fetches es).getLast? = some f → ¬Overtaken c es f) :=
  ⟨by decide, run_not_loading_iff 20 ⟨"Name", false⟩ .empty .empty (by decide) (by decide)⟩

/-- The order changes before the answer comes and back after it: the answer does not count, and no
fetch is due. -/
theorem run_loading_forever :
    let c : Controller Nat := start 20 ⟨"Name", false⟩ .empty .empty
    let es : List (Event Nat) :=
      [.nextFetch, .setSorting ⟨"Name", true⟩, .complete 1 (.ok ⟨[1], none⟩),
        .setSorting ⟨"Name", false⟩]
    ((c.handed es).Nodup ∧ ∀ f ∈ c.fetches es, f.generation ∈ c.handed es) ∧
      (c.run es).nextFetch = none ∧ (c.run es).loading = true ∧
      (c.run es).paginationView.disabled = true := by
  refine ⟨by decide, ?_, by decide, by decide⟩
  simp only [nextFetch, ite_eq_left_iff]
  decide

end CursorPaging.Paging.Controller
