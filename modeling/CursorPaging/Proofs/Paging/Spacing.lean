import CursorPaging.Proofs.Paging.Invariant
import CursorPaging.Proofs.Paging.Memory
import CursorPaging.Proofs.Paging.Settling

/-!
# Paging through a list in memory

A controller whose tokens are the positions of its pages (`Spaced`) gets the right part of the list
for whatever page it fetches, or an empty page if the list has become too short; then it steps back
until it meets a page that is there:

* `Positions`, `Spaced.step`, `Spaced.shows`: what keeps the tokens in place;
* `Spaced.settle`: what a table shows when it has settled, and how many requests it took;
* `Table.spaced_update`, `Table.settles_settled`: the two parts of an event of a table.
-/

namespace CursorPaging.Paging

/-! ## Tokens -/

namespace Memory

/-- Tokens that are the positions of their pages, each small enough to be read back. -/
def Positions (pageSize : Nat) (tokens : List (Option String)) : Prop :=
  ∀ i t, tokens[i]? = some t → t = tokenAt pageSize i ∧ i * pageSize < Text.wordLimit

variable {pageSize : Nat} {tokens tokens' : List (Option String)}

theorem positions_first (pageSize : Nat) : Positions pageSize [none] := by
  intro i t ht
  cases i with
  | zero => cases ht; exact ⟨rfl, by rw [Nat.zero_mul]; decide⟩
  | succ i => cases ht

theorem Positions.mono (h : Positions pageSize tokens) (hp : tokens' <+: tokens) :
    Positions pageSize tokens' :=
  fun i t ht => h i t (getElem?_mono hp ht)

theorem Positions.concat (h : Positions pageSize tokens)
    (hlt : tokens.length * pageSize < Text.wordLimit) :
    Positions pageSize (tokens ++ [tokenAt pageSize tokens.length]) := by
  intro i t ht
  rcases getElem?_concat_cases ht with ⟨-, hold⟩ | ⟨rfl, rfl⟩
  · exact h i t hold
  · exact ⟨rfl, hlt⟩

end Memory

/-! ## Controllers -/

namespace Controller

variable {α : Type} {c c' : Controller α} {m : Memory α}

/-- A controller whose tokens are the positions of its pages. -/
structure Spaced (c : Controller α) : Prop extends WellFormed c where
  positions : Memory.Positions c.pageSize c.pageTokens

/-- The token of the current page is its position. -/
theorem Spaced.offset (h : Spaced c) :
    Memory.offset c.currentToken = (c.page - 1) * c.pageSize := by
  obtain ⟨ht, hlt⟩ := h.positions _ _ h.getElem_page
  rw [ht, Memory.offset_tokenAt hlt]

/-- The request of a controller gets its page. -/
theorem Spaced.answer (h : Spaced c) (m : Memory α) :
    m.page c.params.toRequest = m.pageAt c.pageSize c.page :=
  Memory.page_eq h.pageSize_pos h.page_pos rfl h.offset

theorem Spaced.reply (h : Spaced c) (m : Memory α) (log : List ListRequest) :
    Memory.recorded (log, m) c.params.toRequest =
      (.ok (m.pageAt c.pageSize c.page), c.params.toRequest :: log, m) := by
  rw [← h.answer m]; rfl

theorem Spaced.landed (h : Spaced c) : Spaced c.issue.landed :=
  { h.issue.landed with positions := h.positions }

/-- Events other than answers keep the tokens in place. -/
theorem Spaced.step (h : Spaced c) {e : Event α}
    (he : ∀ g answer, e ≠ .complete g answer) : Spaced (c.step e) := by
  refine { h.toWellFormed.step e with positions := ?_ }
  have ht := transition_step c e
  generalize c.step e = c' at ht ⊢
  cases ht with
  | ignored | broken | shown => exact absurd rfl (he _ _)
  | idle | issued | moved | unmoved | sorted | sameQuery | sameSize | refreshed =>
    exact h.positions
  | queried | resized | reset => exact Memory.positions_first _
  | deleted => exact h.positions.mono (List.take_prefix _ _)

theorem spaced_start (pageSize : Nat) (sorting : Sorting) (query : FilterQuery)
    (params : Dictionary String) :
    Spaced (start pageSize sorting query params : Controller α) :=
  { wellFormed_start pageSize sorting query params with positions := Memory.positions_first _ }

/-- Showing a page of the list keeps the tokens in place. -/
theorem Spaced.shows (h : Spaced c) (fits : m.items.length < Text.wordLimit)
    (hs : Shows c (m.pageAt c.pageSize c.page) c') : Spaced c' := by
  refine { h.toWellFormed.shows hs with positions := ?_ }
  rw [hs.keeps.pageSize]
  cases hs with
  | back | void => exact h.positions.mono (List.take_prefix _ _)
  | inside | counted | ended => exact h.positions
  | grown t full last token =>
    obtain ⟨hf, ht⟩ := Memory.nextToken_pageAt_eq_some token
    have hle := hf.le
    rw [last] at ht hle
    rw [ht]
    exact h.positions.concat (by omega)

/-! ## Settling -/

/-- The end of the list as it is known after fetching the last known page of `c`. -/
structure Extent (m : Memory α) (c c' : Controller α) : Prop where
  openEnd : c'.openEnd = true ↔ c.openEnd = true ∧ m.Followed c.pageSize c.page
  length_tokens : c'.pageTokens.length = if c'.openEnd then c'.page + 1 else c'.page
  totalCount : c'.totalCount = min (c.page * c.pageSize) m.items.length

/-- The page of `c` has been fetched, or the last one of the list if the page is not there. -/
structure Settles (m : Memory α) (c c' : Controller α) : Prop where
  spaced : Spaced c'
  pageSize : c'.pageSize = c.pageSize
  fetched : c'.lastKey = some c'.key
  failed : c'.failed = false
  page : c'.page = min c.page (m.pageCount c.pageSize)
  items : c'.items = m.slice c.pageSize c'.page
  /-- A closed end is right only if it is that of the list. -/
  extent : c.page = c.pageTokens.length →
    c.openEnd = true ∨ m.items.length ≤ c.page * c.pageSize → Extent m c c'

/-- The count of the items of a list in memory fits a word if their number does. -/
theorem countUpTo_slice (fits : m.items.length < Text.wordLimit) (pos : 1 ≤ c.page)
    (full : (c.page - 1) * c.pageSize < m.items.length) :
    c.countUpTo (m.slice c.pageSize c.page).length = min (c.page * c.pageSize) m.items.length := by
  rw [countUpTo, Memory.pred_mul_add_length_slice pos full]
  exact Text.toWord_of_lt (Nat.lt_of_le_of_lt (Nat.min_le_right _ _) fits)

/-- What the last known page says about the end of the list is right. -/
theorem Spaced.extent_full (h : Spaced c) (fits : m.items.length < Text.wordLimit)
    (full : (c.page - 1) * c.pageSize < m.items.length)
    (hs : Shows c.issue.landed (m.pageAt c.pageSize c.page) c')
    (last : c.page = c.pageTokens.length) : Extent m c c' := by
  have hpos := h.page_pos
  have hne := (Memory.slice_ne_nil_iff h.pageSize_pos hpos).mpr full
  have hcount := countUpTo_slice fits hpos full
  cases hs with
  | back empty | void empty => exact absurd empty hne
  | inside full silent =>
    rcases silent with silent | silent
    · exact absurd last silent
    · exact absurd (Memory.nextToken_pageAt_eq_some silent).2.symm (Memory.tokenAt_ne_empty _)
  | counted full _ token ended =>
    have ended : c.openEnd = false := ended
    refine ⟨?_, ?_, hcount⟩
    · show c.openEnd = true ↔ _
      simp only [ended, Bool.false_eq_true, false_and]
    · show c.pageTokens.length = if c.openEnd then c.page + 1 else c.page
      rw [ended, if_neg Bool.false_ne_true, last]
  | ended full _ token opened =>
    have hf := Memory.not_followed_of_nextToken hpos token
    exact ⟨by simp [hf], last.symm, hcount⟩
  | grown t full _ token resolved opened =>
    have opened : c.openEnd = true := opened
    obtain ⟨hf, -⟩ := Memory.nextToken_pageAt_eq_some token
    refine ⟨?_, ?_, hcount⟩
    · show c.openEnd = true ↔ _
      simp only [opened, hf, and_self]
    · show (c.pageTokens ++ [some t]).length = if c.openEnd then c.page + 1 else c.page
      rw [opened, if_pos rfl, List.length_append, List.length_singleton, last]

/-- A page that is there is shown after one fetch. -/
theorem Spaced.settles_full (h : Spaced c) (fits : m.items.length < Text.wordLimit)
    (full : (c.page - 1) * c.pageSize < m.items.length)
    (hs : Shows c.issue.landed (m.pageAt c.pageSize c.page) c') : Settles m c c' := by
  have hpos := h.page_pos
  have hne := (Memory.slice_ne_nil_iff h.pageSize_pos hpos).mpr full
  have hkey := hs.key_eq hne
  have hpage : c'.page = c.page := congrArg FetchKey.page hkey
  have hcount : c.page ≤ m.pageCount c.pageSize := by
    by_cases later : 1 < c.page
    · exact (m.le_pageCount_iff h.pageSize_pos later).mpr full
    · exact Nat.le_trans (by omega) (m.one_le_pageCount _)
  have hshown : c'.failed = false ∧ c'.items = m.slice c.pageSize c.page := by
    cases hs with
    | back empty | void empty => exact absurd empty hne
    | inside | counted | ended | grown => exact ⟨rfl, rfl⟩
  exact {
    spaced := h.landed.shows fits hs
    pageSize := hs.keeps.pageSize
    fetched := by rw [hs.keeps.lastKey, hkey]; rfl
    failed := hshown.1
    page := by rw [hpage, Nat.min_eq_left hcount]
    items := by rw [hpage]; exact hshown.2
    extent := fun last _ => h.extent_full fits full hs last }

/-- An empty first page: the list is empty. -/
theorem Spaced.settles_void (h : Spaced c) (fits : m.items.length < Text.wordLimit)
    (first : c.page = 1) (empty : m.items.length = 0)
    (hs : Shows c.issue.landed (m.pageAt c.pageSize c.page) c') : Settles m c c' := by
  have hnil : m.items = [] := List.length_eq_zero_iff.mp empty
  have hslice : (m.pageAt c.pageSize c.page).items = [] := by
    rw [Memory.pageAt, Memory.slice, hnil, List.take_nil, List.drop_nil]
  have hsize := h.pageSize_pos
  have hnf : ¬m.Followed c.pageSize c.page := by
    rw [Memory.Followed, first, Nat.one_mul]
    omega
  have hspaced := h.landed.shows fits hs
  have hlen := h.tokens.length_pos
  cases hs with
  | back _ later => exact absurd first (Nat.ne_of_gt later)
  | inside full | counted full | ended full | grown _ full => exact absurd hslice full
  | void =>
    exact {
      spaced := hspaced
      pageSize := rfl
      fetched := rfl
      failed := rfl
      page := (Nat.min_eq_left (first ▸ m.one_le_pageCount _)).symm
      items := hslice.symm
      extent := fun _ _ => {
        openEnd := by simp [hnf]
        length_tokens := by
          show (c.pageTokens.take 1).length = c.page
          rw [List.length_take]; omega
        totalCount := by rw [empty, Nat.min_zero] } }

/-- An empty page after the first one: the controller steps back to the last known page before it,
which it has not fetched. -/
theorem Spaced.back (h : Spaced c) (fits : m.items.length < Text.wordLimit) (later : 1 < c.page)
    (empty : m.items.length ≤ (c.page - 1) * c.pageSize)
    (hs : Shows c.issue.landed (m.pageAt c.pageSize c.page) c') :
    Spaced c' ∧ c'.lastKey ≠ some c'.key ∧ c'.page = c.page - 1 ∧ c'.pageSize = c.pageSize ∧
      c'.openEnd = false ∧ c'.pageTokens.length = c.page - 1 := by
  have hslice := (Memory.slice_eq_nil_iff h.pageSize_pos h.page_pos).mpr empty
  have hspaced := h.landed.shows fits hs
  have hle := h.page_le
  cases hs with
  | void _ first => exact absurd later (Nat.not_lt.mpr first)
  | inside full | counted full | ended full | grown _ full => exact absurd hslice full
  | back =>
    refine ⟨hspaced, fun hk => ?_, rfl, rfl, rfl, ?_⟩
    · have : c.page = c.page - 1 := congrArg FetchKey.page (Option.some.inj hk)
      omega
    · show (c.pageTokens.take (c.page - 1)).length = c.page - 1
      rw [List.length_take]; omega

/-- What holds after stepping back holds of the page that was empty. -/
theorem Settles.of_back {c₁ : Controller α} (hsize : 1 ≤ c.pageSize) (later : 1 < c.page)
    (empty : m.items.length ≤ (c.page - 1) * c.pageSize) (page : c₁.page = c.page - 1)
    (pageSize : c₁.pageSize = c.pageSize) (closed : c₁.openEnd = false)
    (tokens : c₁.pageTokens.length = c.page - 1) (h : Settles m c₁ c') : Settles m c c' := by
  have hmul := mul_eq_pred_mul_add (Nat.le_of_lt later) c.pageSize
  have hcount := m.le_pageCount_iff hsize later
  have hnf : ¬m.Followed c.pageSize c.page := fun hf => by
    have := hf.le
    omega
  obtain ⟨openEnd, length_tokens, totalCount⟩ := h.extent (page.trans tokens.symm)
    (.inr (by rw [page, pageSize]; exact empty))
  rw [closed] at openEnd
  rw [page, pageSize] at totalCount
  exact {
    spaced := h.spaced
    pageSize := h.pageSize.trans pageSize
    fetched := h.fetched
    failed := h.failed
    page := by rw [h.page, page, pageSize]; omega
    items := by rw [h.items, pageSize]
    extent := fun _ _ => {
      openEnd := by simp [openEnd, hnf]
      length_tokens := length_tokens
      totalCount := by rw [totalCount]; omega } }

/-- A page that is to be fetched is shown if it is there, and otherwise the last one of the list.
There is one request for each page on the way. -/
theorem Spaced.settle (h : Spaced c) (fits : m.items.length < Text.wordLimit)
    (due : c.lastKey ≠ some c.key) (log : List ListRequest) :
    let r := Paging.settle Memory.recorded c (log, m)
    Settles m c r.controller ∧ r.source.2 = m ∧
      r.source.1.length + r.controller.page = log.length + c.page + 1 := by
  -- Every empty page leads one page back, so this is on the number of pages before the current one.
  induction hn : c.page - 1 generalizing c log with
  | zero =>
    have first : c.page = 1 := by have := h.page_pos; omega
    have hr := h.reply m log
    have hs := shows_applyPage c.issue.landed (m.pageAt c.pageSize c.page)
    rw [settle_of_page due hr]
    generalize c.issue.landed.applyPage _ = c₁ at hs ⊢
    have hS : Settles m c c₁ := by
      rcases Nat.eq_zero_or_pos m.items.length with empty | full
      · exact h.settles_void fits first empty hs
      · exact h.settles_full fits (by rw [first, Nat.zero_mul]; exact full) hs
    rw [settle_of_idle hS.fetched]
    refine ⟨hS, rfl, ?_⟩
    have := hS.page
    have := m.one_le_pageCount c.pageSize
    show log.length + 1 + c₁.page = _
    omega
  | succ n ih =>
    have later : 1 < c.page := by omega
    have hr := h.reply m log
    have hs := shows_applyPage c.issue.landed (m.pageAt c.pageSize c.page)
    rw [settle_of_page due hr]
    generalize c.issue.landed.applyPage _ = c₁ at hs ⊢
    rcases Nat.lt_or_ge ((c.page - 1) * c.pageSize) m.items.length with full | empty
    · have hS := h.settles_full fits full hs
      have hcount := (m.le_pageCount_iff h.pageSize_pos later).mpr full
      rw [settle_of_idle hS.fetched]
      refine ⟨hS, rfl, ?_⟩
      have := hS.page
      show log.length + 1 + c₁.page = _
      omega
    · obtain ⟨hspaced, hdue, hpage, hsize, hclosed, htokens⟩ := h.back fits later empty hs
      obtain ⟨hS, hm, hlen⟩ := ih hspaced hdue (c.params.toRequest :: log) (by omega)
      refine ⟨hS.of_back h.pageSize_pos later empty hpage hsize hclosed htokens, hm,
        hlen.trans ?_⟩
      rw [List.length_cons, hpage]
      omega

end Controller

/-! ## Tables -/

/-- A table over a list in memory, which keeps the requests it got, the latest first. -/
abbrev MemoryTable (α : Type) := Table (List ListRequest × Memory α) α

namespace Table

variable {α : Type} {t t' : MemoryTable α}

/-- An event leaves the tokens at the positions of their pages. -/
theorem spaced_update (h : t.controller.Spaced) {e : Event} (hu : t.update e = .ok t') :
    t'.controller.Spaced ∧ t'.source = t.source := by
  obtain ⟨hs, hc⟩ := update_eq_ok hu
  refine ⟨?_, hs⟩
  rw [hc]
  cases he : e.change (α := α) with
  | none => exact h
  | some e' => exact h.step fun g answer heq => e.change_ne_complete g answer (by rw [he, heq])

/-- Performing the fetches that are due. -/
theorem settles_settled (h : t.controller.Spaced) (fits : t.source.2.items.length < Text.wordLimit)
    (due : t.controller.lastKey ≠ some t.controller.key) :
    let t' := (t.settled Memory.recorded).1
    Controller.Settles t.source.2 t.controller t'.controller ∧ t'.source.2 = t.source.2 := by
  obtain ⟨hS, hm, -⟩ := h.settle fits due t.source.1
  exact ⟨hS, hm⟩

/-- So do the fetches after it. -/
theorem spaced_settled (h : t.controller.Spaced) (fits : t.source.2.items.length < Text.wordLimit) :
    let t' := (t.settled Memory.recorded).1
    t'.controller.Spaced ∧ t'.source.2 = t.source.2 := by
  by_cases hk : t.controller.lastKey = some t.controller.key
  · rw [settled_of_idle hk]
    exact ⟨h, rfl⟩
  · obtain ⟨hS, hm⟩ := settles_settled h fits hk
    exact ⟨hS.spaced, hm⟩

end Table

end CursorPaging.Paging
