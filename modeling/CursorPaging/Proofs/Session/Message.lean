import CursorPaging.Session.Message

/-!
# Kinds of messages

What a reader of the output can tell of a message, and what the messages of a page (`ofPage`) are:
its rows in order under its number, then one page message, and nothing else.
-/

namespace CursorPaging.Session.Message

/-- The number that a page message shows. -/
def pageNumber? : Message → Option Nat
  | .page _ report => some report.pagination.page
  | _ => none

/-- The row of a row message, under the number of its page. -/
def row? : Message → Option (Nat × Json)
  | .record _ number item => some (number, item)
  | _ => none

/-- Whether a message is a summary. -/
def isSummary : Message → Bool
  | .summary .. => true
  | _ => false

/-- Whether a message is an error. -/
def isError : Message → Bool
  | .error _ => true
  | _ => false

variable (resource : Resource) (c : Paging.Controller Json)

/-- The messages of a page give its number once. -/
theorem pageNumber?_ofPage : (ofPage resource c).filterMap pageNumber? = [c.page] := by
  simp [ofPage, List.filterMap_append, List.filterMap_map, Function.comp_def, pageNumber?, report,
    Paging.Controller.paginationView]

/-- They hold its rows in order, under its number. -/
theorem row?_ofPage : (ofPage resource c).filterMap row? = c.items.map (c.page, ·) := by
  simp [ofPage, List.filterMap_append, List.filterMap_map, Function.comp_def, row?]

theorem mem_ofPage {m : Message} (h : m ∈ ofPage resource c) :
    (∃ item ∈ c.items, m = .record resource c.page item) ∨ m = .page resource (report c) := by
  rcases List.mem_append.mp h with h | h
  · obtain ⟨item, hitem, rfl⟩ := List.mem_map.mp h
    exact .inl ⟨item, hitem, rfl⟩
  · exact .inr (List.mem_singleton.mp h)

theorem isSummary_ofPage : ∀ m ∈ ofPage resource c, m.isSummary = false := by
  intro m hm
  obtain ⟨_, -, rfl⟩ | rfl := mem_ofPage resource c hm <;> rfl

theorem isError_ofPage : ∀ m ∈ ofPage resource c, m.isError = false := by
  intro m hm
  obtain ⟨_, -, rfl⟩ | rfl := mem_ofPage resource c hm <;> rfl

theorem filter_ofPage : (ofPage resource c).filter (fun m => !m.isError) = ofPage resource c :=
  List.filter_eq_self.mpr fun m hm => by rw [isError_ofPage resource c m hm]; rfl

end CursorPaging.Session.Message
