import CursorPaging.Proofs.Paging.Spacing

/-!
# Walking to the end of a list

A table over a list in memory that moves forward while the end is open. Each move shows the next
page, until a page without a token closes the list. A full last page that has a token makes one more
move necessary, which finds nothing and steps back:

* `flatten_slices`: the pages are the list in parts;
* `Visits.walk`: the pages on the way;
* `Visits.walk_end`: the end of the way;
* `Table.walk_loaded`: the whole way from the first page on.
-/

namespace CursorPaging.Paging

variable {α : Type}

namespace Memory

variable {m : Memory α} {pageSize page : Nat}

/-- Pages from the first one on are a part of the list from the start on. -/
theorem flatten_slices (m : Memory α) (pageSize n : Nat) :
    ((List.range n).map fun i => m.slice pageSize (i + 1)).flatten =
      m.items.take (n * pageSize) := by
  induction n with
  | zero => rw [Nat.zero_mul]; rfl
  | succ n ih =>
    have hle : n * pageSize ≤ (n + 1) * pageSize := Nat.mul_le_mul_right _ (Nat.le_succ n)
    have hslice : m.slice pageSize (n + 1) =
        (m.items.take ((n + 1) * pageSize)).drop (n * pageSize) := by
      rw [slice, ← List.take_eq_take_min, Nat.add_sub_cancel]
    have htake : m.items.take (n * pageSize) =
        (m.items.take ((n + 1) * pageSize)).take (n * pageSize) := by
      rw [List.take_take, Nat.min_eq_left hle]
    rw [List.range_succ, List.map_append, List.flatten_append, ih, htake]
    simp only [List.map_cons, List.map_nil, List.flatten_singleton, hslice, List.take_append_drop]

theorem lt_pageCount (size : 1 ≤ pageSize) (pos : 1 ≤ page) (h : page < m.pageCount pageSize) :
    page * pageSize < m.items.length := by
  have hlt := (m.le_pageCount_iff size (Nat.lt_add_one_of_le pos)).mp h
  rwa [Nat.add_sub_cancel] at hlt

/-- The pages before the last one have a token. -/
theorem followed_of_lt (size : 1 ≤ pageSize) (pos : 1 ≤ page) (h : page < m.pageCount pageSize) :
    m.Followed pageSize page :=
  .inl (lt_pageCount size pos h)

theorem length_le_pageCount_mul (m : Memory α) (size : 1 ≤ pageSize) :
    m.items.length ≤ m.pageCount pageSize * pageSize := by
  by_contra h
  have hlast := (m.le_pageCount_iff size (Nat.lt_succ_of_le (m.one_le_pageCount pageSize))).mpr
    (Nat.not_le.mp h)
  exact Nat.not_succ_le_self _ hlast

theorem not_followed_of_gt (size : 1 ≤ pageSize) (h : m.pageCount pageSize < page) :
    ¬m.Followed pageSize page := by
  intro hf
  have hle := m.length_le_pageCount_mul size
  have hmul := mul_eq_pred_mul_add (show 1 ≤ page by omega) pageSize
  have hpred := Nat.mul_le_mul_right pageSize (Nat.le_sub_one_of_lt h)
  have := hf.le
  omega

/-- The last page is full if the page size divides the number of items. -/
theorem pageCount_mul_eq_length_iff (size : 1 ≤ pageSize) :
    m.pageCount pageSize * pageSize = m.items.length ↔
      0 < m.items.length ∧ pageSize ∣ m.items.length := by
  constructor
  · intro h
    rw [← h]
    exact ⟨Nat.mul_pos (m.one_le_pageCount _) size, Nat.dvd_mul_left _ _⟩
  · rintro ⟨hlen, j, hj⟩
    have hj : m.items.length = j * pageSize := hj.trans (Nat.mul_comm _ _)
    have hpos : 1 ≤ j := Nat.pos_of_ne_zero fun h0 => by
      rw [hj, h0, Nat.zero_mul] at hlen
      exact Nat.lt_irrefl 0 hlen
    have hcount : m.pageCount pageSize ≤ j := Nat.not_lt.mp fun hlt =>
      Nat.ne_of_gt (lt_pageCount size hpos hlt) hj
    have hmul := Nat.mul_le_mul_right pageSize hcount
    exact Nat.le_antisymm (hj ▸ hmul) (m.length_le_pageCount_mul size)

/-- The last page has a token if it is full, and full pages have one. -/
theorem followed_pageCount_iff (size : 1 ≤ pageSize) :
    m.Followed pageSize (m.pageCount pageSize) ↔
      m.tokenOnFullPage = true ∧ 0 < m.items.length ∧ pageSize ∣ m.items.length := by
  have hle := m.length_le_pageCount_mul size
  rw [Followed, pageCount_mul_eq_length_iff size]
  exact or_iff_right (Nat.not_lt.mpr hle)

end Memory

namespace Table

/-! ## Rounds of a walk -/

section Walks

variable {σ : Type} {source : Source σ α} {t t' : Table σ α}

theorem walk_of_closed (h : t.controller.openEnd = false) (n : Nat) :
    t.walk source n = (t, [], none) := by
  cases n with
  | zero => rfl
  | succ n => rw [walk, h]; rfl

theorem walk_of_open (h : t.controller.openEnd = true) {xs : List (Exchange α)}
    (hh : t.handle source .nextPage = .ok (t', xs)) (n : Nat) :
    t.walk source (n + 1) = let r := t'.walk source n; (r.1, xs :: r.2.1, r.2.2) := by
  rw [walk, h, if_pos rfl, hh]

end Walks

/-! ## Pages of a walk -/

/-- A table that went to a page for the first time, after some number of requests, and shows this
page, or the last one of the list if the page is not there. -/
structure Visits (t : MemoryTable α) (m : Memory α) (pageSize page requests : Nat) : Prop where
  spaced : t.controller.Spaced
  size : t.controller.pageSize = pageSize
  fetched : t.controller.lastKey = some t.controller.key
  failed : t.controller.failed = false
  shown : t.controller.page = min page (m.pageCount pageSize)
  items : t.controller.items = m.slice pageSize t.controller.page
  openEnd : t.controller.openEnd = true ↔ m.Followed pageSize page
  length_tokens : t.controller.pageTokens.length =
    if t.controller.openEnd then t.controller.page + 1 else t.controller.page
  totalCount : t.controller.totalCount = min (page * pageSize) m.items.length
  list : t.source.2 = m
  log : t.source.1.length = requests

variable {m : Memory α} {pageSize page requests : Nat} {t t' : MemoryTable α}

/-- Fetching the page after the known ones. -/
theorem visits_settled (h : t.controller.Spaced) (fits : t.source.2.items.length < Text.wordLimit)
    (due : t.controller.lastKey ≠ some t.controller.key)
    (last : t.controller.page = t.controller.pageTokens.length)
    (opened : t.controller.openEnd = true) {n : Nat}
    (hn : n + min t.controller.page (t.source.2.pageCount t.controller.pageSize) =
      t.source.1.length + t.controller.page + 1) :
    (t.settled Memory.recorded).1.Visits t.source.2 t.controller.pageSize
      t.controller.page n := by
  obtain ⟨hS, hm, hlog⟩ := h.settle fits due t.source.1
  have hE := hS.extent last (.inl opened)
  exact {
    spaced := hS.spaced
    size := hS.pageSize
    fetched := hS.fetched
    failed := hS.failed
    shown := hS.page
    items := hS.items
    openEnd := hE.openEnd.trans (and_iff_right opened)
    length_tokens := hE.length_tokens
    totalCount := hE.totalCount
    list := hm
    log := by
      rw [hS.page] at hlog
      exact Nat.add_right_cancel (hlog.trans hn.symm) }

namespace Visits

theorem pageSize_pos (h : t.Visits m pageSize page requests) : 1 ≤ pageSize := by
  rw [← h.size]; exact h.spaced.pageSize_pos

theorem le_pageCount (h : t.Visits m pageSize page requests) (pos : 1 ≤ page)
    (followed : m.Followed pageSize page) : page ≤ m.pageCount pageSize := by
  rcases Nat.eq_or_lt_of_le pos with rfl | later
  · exact m.one_le_pageCount _
  · have hmul := mul_eq_pred_mul_add pos pageSize
    have hle := followed.le
    have hsize := h.pageSize_pos
    exact (m.le_pageCount_iff hsize later).mpr (by omega)

theorem closed (h : t.Visits m pageSize page requests) (hf : ¬m.Followed pageSize page) :
    t.controller.openEnd = false :=
  Bool.eq_false_iff.mpr fun ho => hf (h.openEnd.mp ho)

/-- Moving forward from a page that has a token. -/
theorem nextPage (h : t.Visits m pageSize page requests) (fits : m.items.length < Text.wordLimit)
    (pos : 1 ≤ page) (followed : m.Followed pageSize page) {n : Nat}
    (hn : n + min (page + 1) (m.pageCount pageSize) = requests + page + 2) :
    ∃ t' xs, t.handle Memory.recorded .nextPage = .ok (t', xs) ∧
      t'.Visits m pageSize (page + 1) n := by
  have hopen := h.openEnd.mpr followed
  have hpage : t.controller.page = page := by
    rw [h.shown, Nat.min_eq_left (h.le_pageCount pos followed)]
  have hlen : t.controller.pageTokens.length = t.controller.page + 1 := by
    rw [h.length_tokens, if_pos hopen]
  have hu := nextPage_of_known (Nat.le_of_eq hlen.symm)
  have hspaced := (spaced_update h.spaced hu).1
  have due : t.controller.lastKey ≠
      some { t.controller with page := t.controller.page + 1 }.key := fun hk => by
    have : t.controller.page = t.controller.page + 1 :=
      congrArg FetchKey.page (Option.some.inj (h.fetched.symm.trans hk))
    omega
  obtain rfl := h.list
  obtain rfl := h.size
  obtain rfl := h.log
  obtain rfl := hpage
  exact ⟨_, _, handle_of_ok hu, visits_settled hspaced fits due hlen.symm hopen hn⟩

/-- The pages on the way, which are there and take one request each. -/
theorem walk (h : t.Visits m pageSize page page) (fits : m.items.length < Text.wordLimit)
    (pos : 1 ≤ page) {i : Nat} (hi : i + page ≤ m.pageCount pageSize) :
    (t.walk Memory.recorded i).1.Visits m pageSize (i + page) (i + page) ∧
      (t.walk Memory.recorded i).2.2 = none := by
  induction i generalizing t page with
  | zero => rw [Nat.zero_add]; exact ⟨h, rfl⟩
  | succ i ih =>
    have hf := Memory.followed_of_lt h.pageSize_pos pos (show page < m.pageCount pageSize by omega)
    obtain ⟨t', xs, hh, hv⟩ := h.nextPage fits pos hf (n := page + 1) (by omega)
    rw [walk_of_open (h.openEnd.mpr hf) hh, Nat.add_right_comm i 1 page]
    exact ih hv (Nat.le_succ_of_le pos) (by omega)

/-- The way ends at the last page, or behind it if that has a token; then two more requests were
needed to find out that there is no page after it. -/
theorem walk_end (h : t.Visits m pageSize page page) (fits : m.items.length < Text.wordLimit)
    (pos : 1 ≤ page) (hp : page ≤ m.pageCount pageSize) {n : Nat}
    (hn : m.pageCount pageSize < n + page) :
    (t.walk Memory.recorded n).2.2 = none ∧
      ∃ last, m.pageCount pageSize ≤ last ∧ ¬m.Followed pageSize last ∧
        (t.walk Memory.recorded n).1.Visits m pageSize last
          (if m.Followed pageSize (m.pageCount pageSize) then m.pageCount pageSize + 2
            else m.pageCount pageSize) := by
  have size := h.pageSize_pos
  induction n generalizing t page with
  | zero => omega
  | succ n ih =>
    rcases Nat.lt_or_eq_of_le hp with hlt | rfl
    · have hf := Memory.followed_of_lt size pos hlt
      obtain ⟨t', xs, hh, hv⟩ := h.nextPage fits pos hf (n := page + 1) (by omega)
      rw [walk_of_open (h.openEnd.mpr hf) hh]
      exact ih hv (Nat.le_succ_of_le pos) hlt (by omega)
    · by_cases hf : m.Followed pageSize (m.pageCount pageSize)
      · -- The empty page behind the list, and the last page once more.
        obtain ⟨t', xs, hh, hv⟩ := h.nextPage fits pos hf (n := m.pageCount pageSize + 2) (by omega)
        have hnf := Memory.not_followed_of_gt size (Nat.lt_succ_self (m.pageCount pageSize))
        rw [walk_of_open (h.openEnd.mpr hf) hh, walk_of_closed (hv.closed hnf), if_pos hf]
        exact ⟨rfl, _, Nat.le_succ _, hnf, hv⟩
      · rw [walk_of_closed (h.closed hf), if_neg hf]
        exact ⟨rfl, _, Nat.le_refl _, hf, h⟩

/-- At the end all pages are known and all items counted. -/
theorem at_end (h : t.Visits m pageSize page requests) (behind : m.pageCount pageSize ≤ page)
    (hf : ¬m.Followed pageSize page) :
    t.controller.openEnd = false ∧ t.controller.pagesCount = m.pageCount pageSize ∧
      t.controller.page = m.pageCount pageSize ∧ t.controller.totalCount = m.items.length ∧
      t.controller.items = m.slice pageSize (m.pageCount pageSize) := by
  have closed := h.closed hf
  have shown : t.controller.page = m.pageCount pageSize := by
    rw [h.shown, Nat.min_eq_right behind]
  have hle := Nat.le_trans (m.length_le_pageCount_mul h.pageSize_pos)
    (Nat.mul_le_mul_right pageSize behind)
  refine ⟨closed, ?_, shown, ?_, ?_⟩
  · rw [h.spaced.pagesCount, h.length_tokens, closed, if_neg Bool.false_ne_true, shown]
  · rw [h.totalCount, Nat.min_eq_right hle]
  · rw [h.items, shown]

end Visits

/-- The first page of a list. -/
theorem visits_load {t : MemoryTable α} (pos : 1 ≤ pageSize) {sorting : Sorting}
    {query : FilterQuery} {params : Dictionary String}
    (fresh : t.controller = .start pageSize sorting query params) (unused : t.source = ([], m))
    (fits : m.items.length < Text.wordLimit) :
    (t.step Memory.recorded .load).Visits m pageSize 1 1 := by
  have hspaced : t.controller.Spaced := by rw [fresh]; exact Controller.spaced_start ..
  have hcount := m.one_le_pageCount pageSize
  have hsize : t.controller.pageSize = pageSize := by rw [fresh]; exact if_neg (by omega)
  have hpage : t.controller.page = 1 := by rw [fresh]; rfl
  have hv := visits_settled (n := 1) hspaced (by rw [unused]; exact fits)
    (by rw [fresh]; exact nofun) (by rw [fresh]; rfl) (by rw [fresh]; rfl)
    (by rw [unused, hsize, hpage, Nat.min_eq_left hcount]; rfl)
  rw [unused, hsize, hpage] at hv
  rw [step_of_ok (show t.update .load = .ok t from rfl)]
  exact hv

/-- Moving forward from the first page leads through a list. -/
structure Traverses (t : MemoryTable α) (m : Memory α) (pageSize : Nat) : Prop where
  /-- No move is refused, and no fetch fails. -/
  succeeds : ∀ n, (t.walk Memory.recorded n).2.2 = none ∧
    (t.walk Memory.recorded n).1.controller.failed = false
  /-- As long as there are pages, each move shows another one. -/
  page : ∀ i < m.pageCount pageSize, (t.walk Memory.recorded i).1.controller.page = i + 1
  /-- These pages are the whole list in parts. -/
  items : ((List.range (m.pageCount pageSize)).map fun i =>
    (t.walk Memory.recorded i).1.controller.items).flatten = m.items
  /-- As many moves as there are pages are enough. -/
  ended : ∀ n, m.pageCount pageSize ≤ n →
    let last := (t.walk Memory.recorded n).1
    last.controller.openEnd = false ∧
      last.controller.pagesCount = m.pageCount pageSize ∧
      last.controller.page = m.pageCount pageSize ∧
      last.controller.totalCount = m.items.length ∧
      last.controller.items = m.slice pageSize (m.pageCount pageSize) ∧
      last.source.1.length =
        if m.tokenOnFullPage = true ∧ 0 < m.items.length ∧ pageSize ∣ m.items.length then
          m.pageCount pageSize + 2
        else m.pageCount pageSize

/-- Loading a table and moving forward while the end is open leads through the list to its last
page, where all pages are known and all items counted. There is one request for each page, and two
more if the last page is full and has a token nevertheless. -/
theorem walk_loaded {m : Memory α} (fits : m.items.length < Text.wordLimit) {pageSize : Nat}
    (pos : 1 ≤ pageSize) {sorting : Sorting} {query : FilterQuery} {params : Dictionary String}
    {t : MemoryTable α} (fresh : t.controller = .start pageSize sorting query params)
    (unused : t.source = ([], m)) : (t.step Memory.recorded .load).Traverses m pageSize := by
  have hv := visits_load pos fresh unused fits
  generalize t.step Memory.recorded .load = t at hv ⊢
  have hway := fun i (hi : i < m.pageCount pageSize) => hv.walk fits (Nat.le_refl 1) (i := i) hi
  have hend := fun n (hn : m.pageCount pageSize ≤ n) =>
    hv.walk_end fits (Nat.le_refl 1) (m.one_le_pageCount pageSize) (n := n) (Nat.lt_succ_of_le hn)
  have hshown : ∀ i < m.pageCount pageSize,
      (t.walk Memory.recorded i).1.controller.page = i + 1 := fun i hi => by
    rw [(hway i hi).1.shown]; exact Nat.min_eq_left hi
  refine ⟨fun n => ?_, hshown, ?_, fun n hn => ?_⟩
  · rcases Nat.lt_or_ge n (m.pageCount pageSize) with hn | hn
    · exact ⟨(hway n hn).2, (hway n hn).1.failed⟩
    · obtain ⟨hf, _, -, -, hl⟩ := hend n hn
      exact ⟨hf, hl.failed⟩
  · have hitems : ∀ i ∈ List.range (m.pageCount pageSize),
        (t.walk Memory.recorded i).1.controller.items = m.slice pageSize (i + 1) := fun i hi => by
      have hi := List.mem_range.mp hi
      rw [(hway i hi).1.items, hshown i hi]
    rw [List.map_congr_left hitems, Memory.flatten_slices,
      List.take_of_length_le (m.length_le_pageCount_mul pos)]
  · obtain ⟨-, last, behind, hf, hl⟩ := hend n hn
    obtain ⟨closed, known, shown, counted, items⟩ := hl.at_end behind hf
    refine ⟨closed, known, shown, counted, items, ?_⟩
    rw [hl.log]
    simp only [Memory.followed_pageCount_iff pos]

/-- A list of three full pages, the last of which has a token. -/
theorem walk_loaded_three_full_pages :
    let m : Memory Nat := ⟨[1, 2, 3, 4, 5, 6], true⟩
    let t : MemoryTable Nat :=
      withController ([], m) (.start 2 ⟨"Name", false⟩ .empty .empty) .default
    (m.items.length < Text.wordLimit ∧ 1 ≤ 2) ∧ (t.step Memory.recorded .load).Traverses m 2 :=
  have fits : [1, 2, 3, 4, 5, 6].length < Text.wordLimit := by decide
  ⟨⟨fits, by decide⟩, walk_loaded fits (by decide) rfl rfl⟩

end Table

end CursorPaging.Paging
