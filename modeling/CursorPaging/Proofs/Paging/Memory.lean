import CursorPaging.Paging.Source
import CursorPaging.Proofs.Text.Digits
import Mathlib.Tactic.Tauto

/-!
# The pages of a list in memory

The tokens of a list in memory are positions in it, written in decimal. A request for a page gets
the items from its position on, as far as they are there, and the position of the next page if there
may be more of them. A list in memory has fewer items than a word counts (`Text.wordLimit`), so that
its positions are read back as they were written:

* `slice`, `pageCount`, `Followed`, `tokenAt`: the pages of a list and their tokens;
* `offset_tokenAt`: reading a token back;
* `le_pageCount_iff`: which pages have items;
* `page_eq`: the answer to a request for a page.
-/

namespace CursorPaging.Paging

theorem mul_eq_pred_mul_add {page : Nat} (h : 1 ≤ page) (n : Nat) :
    page * n = (page - 1) * n + n := by
  rw [← Nat.succ_mul, Nat.succ_eq_add_one, Nat.sub_add_cancel h]

namespace Memory

variable {α : Type} (m : Memory α) (pageSize page : Nat)

/-- The items of a page: those from position `(page - 1) * pageSize` to position `page * pageSize`
or to the end of the list. -/
def slice : List α :=
  (m.items.take (min (page * pageSize) m.items.length)).drop ((page - 1) * pageSize)

/-- The number of pages; an empty list has one. -/
def pageCount : Nat := max 1 ((m.items.length + pageSize - 1) / pageSize)

/-- Whether a page comes with a token: there are items after it, or a full page always has one. -/
def Followed : Prop :=
  page * pageSize < m.items.length ∨
    m.tokenOnFullPage = true ∧ page * pageSize = m.items.length

instance : Decidable (m.Followed pageSize page) := inferInstanceAs (Decidable (_ ∨ _))

/-- The token of the page at a place of the list of pages, whose first page has none. -/
def tokenAt (pageSize : Nat) : Nat → Option String
  | 0 => none
  | i + 1 => some (Text.decimal ((i + 1) * pageSize))

/-- The list as a source that keeps the requests it got. -/
abbrev recorded : Source (List ListRequest × Memory α) α := Source.recording source

/-- What the list has for a page. -/
def pageAt : ListPage α :=
  ⟨m.slice pageSize page, if m.Followed pageSize page then tokenAt pageSize page else none⟩

variable {m} {pageSize page}

theorem offset_tokenAt {i : Nat} (h : i * pageSize < Text.wordLimit) :
    offset (tokenAt pageSize i) = i * pageSize := by
  cases i with
  | zero => rw [Nat.zero_mul]; rfl
  | succ i => rw [tokenAt, offset, Text.unsigned?_decimal h]; rfl

theorem tokenAt_ne_empty (i : Nat) : tokenAt pageSize i ≠ some "" := by
  cases i with
  | zero => exact nofun
  | succ i => exact fun h => Text.decimal_ne_empty _ (Option.some.inj h)

theorem length_slice : (m.slice pageSize page).length =
    min (page * pageSize) m.items.length - (page - 1) * pageSize := by
  rw [slice, List.length_drop, List.length_take, Nat.min_eq_left (Nat.min_le_right _ _)]

theorem slice_eq_nil_iff (size : 1 ≤ pageSize) (pos : 1 ≤ page) :
    m.slice pageSize page = [] ↔ m.items.length ≤ (page - 1) * pageSize := by
  have hmul := mul_eq_pred_mul_add pos pageSize
  rw [← List.length_eq_zero_iff, length_slice]
  omega

theorem slice_ne_nil_iff (size : 1 ≤ pageSize) (pos : 1 ≤ page) :
    m.slice pageSize page ≠ [] ↔ (page - 1) * pageSize < m.items.length := by
  rw [Ne, slice_eq_nil_iff size pos, Nat.not_le]

/-- The items up to the end of a page that is not empty. -/
theorem pred_mul_add_length_slice (pos : 1 ≤ page) (full : (page - 1) * pageSize < m.items.length) :
    (page - 1) * pageSize + (m.slice pageSize page).length =
      min (page * pageSize) m.items.length := by
  have hmul := mul_eq_pred_mul_add pos pageSize
  rw [length_slice]
  omega

/-- The pages that are not empty are those up to the last one. -/
theorem le_pageCount_iff (m : Memory α) (size : 1 ≤ pageSize) (later : 1 < page) :
    page ≤ m.pageCount pageSize ↔ (page - 1) * pageSize < m.items.length := by
  have hmul := mul_eq_pred_mul_add (Nat.le_of_lt later) pageSize
  have hdiv : page ≤ (m.items.length + pageSize - 1) / pageSize ↔
      page * pageSize ≤ m.items.length + pageSize - 1 := Nat.le_div_iff_mul_le size
  rw [pageCount]
  omega

theorem one_le_pageCount (m : Memory α) (pageSize : Nat) : 1 ≤ m.pageCount pageSize :=
  Nat.le_max_left _ _

theorem Followed.le (h : m.Followed pageSize page) : page * pageSize ≤ m.items.length := by
  rcases h with h | ⟨-, h⟩
  · exact Nat.le_of_lt h
  · exact Nat.le_of_eq h

/-- Whether the list has a token for a request for a page. -/
theorem followed_iff (size : 1 ≤ pageSize) (pos : 1 ≤ page) :
    (min (page * pageSize) m.items.length < m.items.length ∨
      m.tokenOnFullPage = true ∧ (m.slice pageSize page).length = pageSize) ↔
      m.Followed pageSize page := by
  have hmul := mul_eq_pred_mul_add pos pageSize
  have hend : min (page * pageSize) m.items.length < m.items.length ↔
      page * pageSize < m.items.length := by omega
  have hfull : (m.slice pageSize page).length = pageSize ↔
      page * pageSize < m.items.length ∨ page * pageSize = m.items.length := by
    rw [length_slice]; omega
  rw [hend, hfull, Followed]
  tauto

/-- The answer to a request for a page. -/
theorem page_eq {request : ListRequest} (size : 1 ≤ pageSize) (pos : 1 ≤ page)
    (hs : request.maxResults = pageSize) (ho : offset request.nextToken = (page - 1) * pageSize) :
    m.page request = m.pageAt pageSize page := by
  have hstop : (page - 1) * pageSize + pageSize = page * pageSize :=
    (mul_eq_pred_mul_add pos pageSize).symm
  have htoken : some (Text.decimal (page * pageSize)) = tokenAt pageSize page := by
    rw [← Nat.sub_add_cancel pos]; rfl
  simp only [Memory.page, hs, ho, hstop]
  rw [← slice, pageAt]
  by_cases hf : m.Followed pageSize page
  · rw [if_pos hf, if_pos ((followed_iff size pos).mpr hf), Nat.min_eq_left hf.le,
      htoken]
  · rw [if_neg hf, if_neg fun h => hf ((followed_iff size pos).mp h)]

/-- A token that comes with a page is the position of the next one. -/
theorem nextToken_pageAt_eq_some {t : String} (h : (m.pageAt pageSize page).nextToken = some t) :
    m.Followed pageSize page ∧ some t = tokenAt pageSize page := by
  rw [pageAt] at h
  dsimp only at h
  split at h
  · exact ⟨by assumption, h.symm⟩
  · cases h

theorem not_followed_of_nextToken (pos : 1 ≤ page)
    (h : (m.pageAt pageSize page).nextToken = none) : ¬m.Followed pageSize page := by
  intro hf
  rw [pageAt, ← Nat.sub_add_cancel pos] at h
  rw [← Nat.sub_add_cancel pos] at hf
  rw [if_pos hf] at h
  cases h

end Memory

end CursorPaging.Paging
