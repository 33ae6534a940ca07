import CursorPaging.Proofs.Paging.Spacing

/-!
# Paging through a list that changes

A table over a list in memory, to which items are added and from which items are removed between the
events of the table. The tokens it knows may then point behind the end of the list, and the end it
knows may be none. Still it shows the items that are there (`Tracks`), whatever happened before:

* `exists_settles`: fetching a page again;
* `tracks`: what every event does to a table whose tokens are in place;
* `spaced_next`, `spaced_steps`: events and changes of the list keep the tokens in place;
* `tracks_run`: tables after any events and changes of the list.
-/

namespace CursorPaging.Paging

variable {α : Type}

namespace Table

/-- What happens to a table over a list in memory: an event, or an edit that puts other items in the
place of the list, be it some of them, or all of them and new ones. -/
inductive Step (α : Type) where
  | event (e : Event)
  | edit (items : List α)

/-- The table after an event or an edit. -/
def next (t : MemoryTable α) : Step α → MemoryTable α
  | .event e => t.step Memory.recorded e
  | .edit items => { t with source := (t.source.1, { t.source.2 with items := items }) }

/-- What a table shows of a list that may have changed since the last event. -/
structure Tracks (t : MemoryTable α) : Prop where
  /-- Every known token is the position of its page. -/
  tokens : ∀ i, 1 ≤ i → i < t.controller.pageTokens.length →
    t.controller.pageTokens[i]? = some (some (Text.decimal (i * t.controller.pageSize)))
  /-- An event that fetches shows a page of the list as it is now. -/
  slice : ∀ e t' xs, t.handle Memory.recorded e = .ok (t', xs) → xs ≠ [] →
    t'.source.2 = t.source.2 ∧
      t'.controller.items = t.source.2.slice t'.controller.pageSize t'.controller.page ∧
      t'.controller.page ≤ t.source.2.pageCount t'.controller.pageSize
  /-- Fetching the page again leads back to the last page of the list only if that is before it. -/
  page : ∀ e, e = .refresh ∨ e = .itemsDeleted →
    ∃ t' xs, t.handle Memory.recorded e = .ok (t', xs) ∧
      t'.controller.page = min t.controller.page (t.source.2.pageCount t'.controller.pageSize)
  /-- If fetching the last known page again finds the end, all items are counted. -/
  totalCount : t.controller.page = t.controller.pageTokens.length →
    ∃ t' xs, t.handle Memory.recorded .refresh = .ok (t', xs) ∧
      (t'.controller.openEnd = false → t'.controller.totalCount = t.source.2.items.length)

variable {t t' : MemoryTable α}

/-- An event that raises the refresh key is followed by a fetch. -/
theorem exists_settles (h : t.controller.Spaced) (fits : t.source.2.items.length < Text.wordLimit)
    {e : Event} (e' : Controller.Event α)
    (hu : t.update e = .ok { t with controller := t.controller.step e' })
    (raised : (t.controller.step e').refreshKey = t.controller.refreshKey + 1)
    (kept : (t.controller.step e').lastKey = t.controller.lastKey) :
    ∃ t' xs, t.handle Memory.recorded e = .ok (t', xs) ∧
      Controller.Settles t.source.2 (t.controller.step e') t'.controller := by
  have due : (t.controller.step e').lastKey ≠ some (t.controller.step e').key := by
    -- No fetch is ahead of the refresh key.
    rw [kept]
    refine h.lastKey_ne ?_
    show _ < (t.controller.step e').refreshKey
    omega
  exact ⟨_, _, handle_of_ok hu, (settles_settled (spaced_update h hu).1 fits due).1⟩

theorem exists_settles_refresh (h : t.controller.Spaced)
    (fits : t.source.2.items.length < Text.wordLimit) :
    ∃ t' xs, t.handle Memory.recorded .refresh = .ok (t', xs) ∧
      Controller.Settles t.source.2 t.controller.refresh t'.controller :=
  exists_settles h fits .refresh rfl rfl rfl

theorem exists_settles_itemsDeleted (h : t.controller.Spaced)
    (fits : t.source.2.items.length < Text.wordLimit) :
    ∃ t' xs, t.handle Memory.recorded .itemsDeleted = .ok (t', xs) ∧
      Controller.Settles t.source.2 t.controller.itemsDeleted t'.controller :=
  exists_settles h fits .itemsDeleted rfl rfl rfl

theorem tracks (h : t.controller.Spaced) (fits : t.source.2.items.length < Text.wordLimit) :
    t.Tracks where
  tokens i hi hlt := by
    obtain ⟨ht, -⟩ := h.positions i _ (List.getElem?_eq_getElem hlt)
    rw [List.getElem?_eq_getElem hlt, ht, ← Nat.sub_add_cancel hi]
    rfl
  slice e t' xs hh hx := by
    obtain ⟨t₁, hu, hr⟩ := update_of_handle hh
    obtain ⟨h₁, hs⟩ := spaced_update h hu
    rw [← hs] at fits ⊢
    have due : t₁.controller.lastKey ≠ some t₁.controller.key := fun hk => by
      rw [settled_of_idle hk] at hr
      exact hx (congrArg Prod.snd hr)
    obtain ⟨hS, hm⟩ := settles_settled h₁ fits due
    rw [← hr] at hS hm
    refine ⟨hm, by rw [hS.items, hS.pageSize], ?_⟩
    rw [hS.page, hS.pageSize]
    exact Nat.min_le_right _ _
  page e he := by
    rcases he with rfl | rfl
    · obtain ⟨t', xs, hh, hS⟩ := exists_settles_refresh h fits
      exact ⟨t', xs, hh, by rw [hS.page, hS.pageSize]; rfl⟩
    · obtain ⟨t', xs, hh, hS⟩ := exists_settles_itemsDeleted h fits
      exact ⟨t', xs, hh, by rw [hS.page, hS.pageSize]; rfl⟩
  totalCount last := by
    obtain ⟨t', xs, hh, hS⟩ := exists_settles_refresh h fits
    have opened : t.controller.refresh.openEnd = true := if_pos last
    obtain ⟨openEnd, -, totalCount⟩ := hS.extent last (.inl opened)
    refine ⟨t', xs, hh, fun closed => ?_⟩
    have hnf : ¬t.source.2.Followed t.controller.pageSize t.controller.page := fun hf => by
      rw [openEnd.mpr ⟨opened, hf⟩] at closed
      cases closed
    rw [totalCount]
    exact Nat.min_eq_right (Nat.not_lt.mp fun hlt => hnf (.inl hlt))

theorem spaced_next (h : t.controller.Spaced) (fits : t.source.2.items.length < Text.wordLimit)
    {s : Step α} (hs : ∀ items, s = .edit items → items.length < Text.wordLimit) :
    (t.next s).controller.Spaced ∧ (t.next s).source.2.items.length < Text.wordLimit := by
  cases s with
  | edit items => exact ⟨h, hs items rfl⟩
  | event e =>
    cases hu : t.update e with
    | error => rw [next, step_of_error hu]; exact ⟨h, fits⟩
    | ok t' =>
      obtain ⟨h', hsrc⟩ := spaced_update h hu
      rw [← hsrc] at fits
      obtain ⟨hspaced, hm⟩ := spaced_settled h' fits
      rw [next, step_of_ok hu]
      exact ⟨hspaced, by rw [hm]; exact fits⟩

theorem spaced_steps (h : t.controller.Spaced) (fits : t.source.2.items.length < Text.wordLimit)
    {steps : List (Step α)}
    (edits : ∀ items, .edit items ∈ steps → items.length < Text.wordLimit) :
    (steps.foldl next t).controller.Spaced ∧
      (steps.foldl next t).source.2.items.length < Text.wordLimit := by
  induction steps generalizing t with
  | nil => exact ⟨h, fits⟩
  | cons s steps ih =>
    obtain ⟨h', fits'⟩ := spaced_next h fits fun items (hs : s = .edit items) =>
      edits items (hs ▸ List.mem_cons_self)
    exact ih h' fits' fun items hi => edits items (List.mem_cons_of_mem _ hi)

/-- Whatever a user does and however the list changes in between, a table that started anew knows
the positions of its pages, and every event shows a page of the list as it is then. -/
theorem tracks_run {t : MemoryTable α} {pageSize : Nat} {sorting : Sorting} {query : FilterQuery}
    {params : Dictionary String} (fresh : t.controller = .start pageSize sorting query params)
    (fits : t.source.2.items.length < Text.wordLimit) {steps : List (Step α)}
    (edits : ∀ items, .edit items ∈ steps → items.length < Text.wordLimit) :
    (steps.foldl next t).Tracks := by
  have h : t.controller.Spaced := by rw [fresh]; exact Controller.spaced_start ..
  obtain ⟨h', fits'⟩ := spaced_steps h fits edits
  exact tracks h' fits'

/-- The list shrinks while the third page is shown, and grows again before the next event. -/
theorem tracks_run_shrinking_list :
    let t : MemoryTable Nat := withController ([], ⟨[1, 2, 3, 4, 5], true⟩)
      (.start 2 ⟨"Name", false⟩ .empty .empty) .default
    let steps : List (Step Nat) :=
      [.event .load, .event .nextPage, .event .nextPage, .edit [1], .event .itemsDeleted,
        .edit [1, 2, 3], .event .refresh, .edit []]
    (t.source.2.items.length < Text.wordLimit ∧
      ∀ items, .edit items ∈ steps → items.length < Text.wordLimit) ∧
      (steps.foldl next t).Tracks :=
  have fits : [1, 2, 3, 4, 5].length < Text.wordLimit := by decide
  have edits : ∀ items : List Nat,
      .edit items ∈ [Step.event .load, .event .nextPage, .event .nextPage, .edit [1],
        .event .itemsDeleted, .edit [1, 2, 3], .event .refresh, .edit []] →
      items.length < Text.wordLimit := by
    intro items h
    simp only [List.mem_cons, reduceCtorEq, Step.edit.injEq, List.not_mem_nil, false_or,
      or_false] at h
    rcases h with rfl | rfl | rfl <;> decide
  ⟨⟨fits, edits⟩, tracks_run rfl fits edits⟩

end Table

end CursorPaging.Paging
