import CursorPaging.Listing
import CursorPaging.Resource
import CursorPaging.Proofs.Dictionary

/-!
# Bodies of requests

A body holds the parts of a request under their keys, of those with one key the last (`get?_body`).
The body of a request for a page is that of the first page with the token set, as long as no filter
and no extra parameter has the key of the token (`LeavesToken`):

* `get?_body_first`: the first page has no token;
* `body_withToken`: the others have theirs, and all else as the first page.
-/

namespace CursorPaging

namespace ListRequest

/-- The keys of the body that belong to the page and the order. -/
def reservedKeys : List String := [maxResultsKey, nextTokenKey, sortTokenKey]

/-- The part of the body that says how many items a page has. -/
def sizePart (r : ListRequest) : Entries Json := [(maxResultsKey, .nat r.maxResults)]

theorem sorted_sizePart (r : ListRequest) : r.sizePart.Sorted := List.pairwise_singleton _ _

/-- The form in which the tokens of a property are sent. -/
def groupJson (ts : List WireToken) : Json := .arr (ts.map WireToken.toJson)

theorem bodyParts_eq (r : ListRequest) :
    r.bodyParts = r.sizePart ++ (r.nextToken.toList.map fun t => (nextTokenKey, .str t)) ++
      (r.sortToken.toList.map fun s => (sortTokenKey, s.toJson)) ++
      (r.filters.entries.map fun e => (e.1, groupJson e.2)) ++
      (r.extraParams.entries.map fun e => (e.1, .str e.2)) := rfl

/-- Extra parameters come before filters, and filters before all else. -/
theorem get?_body (r : ListRequest) (key : String) :
    r.body.get? key =
      ((r.extraParams.get? key).map Json.str).or
        (((r.filters.get? key).map groupJson).or
          ((if sortTokenKey = key then r.sortToken.map SortToken.toJson else none).or
            ((if nextTokenKey = key then r.nextToken.map Json.str else none).or
              (if maxResultsKey = key then some (.nat r.maxResults) else none)))) := by
  have hextra := Entries.Sorted.map Json.str r.extraParams.sorted
  have hfilters := Entries.Sorted.map groupJson r.filters.sorted
  have hsort := Entries.sorted_map_toList SortToken.toJson r.sortToken sortTokenKey
  have htoken := Entries.sorted_map_toList Json.str r.nextToken nextTokenKey
  show Entries.get? key (Entries.insertAll [] r.bodyParts) = _
  simp only [bodyParts_eq, Entries.insertAll_append]
  rw [Entries.get?_insertAll hextra, Entries.get?_insertAll hfilters, Entries.get?_insertAll hsort,
    Entries.get?_insertAll htoken, Entries.get?_insertAll r.sorted_sizePart,
    Entries.get?_map Json.str, Entries.get?_map groupJson,
    Entries.get?_map_toList SortToken.toJson, Entries.get?_map_toList Json.str, Entries.get?_nil,
    Option.or_none]
  rfl

/-- The request with another token. -/
def withToken (r : ListRequest) (token : Option String) : ListRequest :=
  { r with nextToken := token }

/-- Filters and extra parameters leave the key of the token alone. -/
structure LeavesToken (r : ListRequest) : Prop where
  filters : ∀ e ∈ r.filters.entries, e.1 ≠ nextTokenKey
  extraParams : ∀ e ∈ r.extraParams.entries, e.1 ≠ nextTokenKey

/-- The parts of the body after the size of the page and its token. -/
def laterParts (r : ListRequest) : List (String × Json) :=
  (r.sortToken.toList.map fun s => (sortTokenKey, s.toJson)) ++
    (r.filters.entries.map fun (k, ts) => (k, Json.arr (ts.map WireToken.toJson))) ++
    (r.extraParams.entries.map fun (k, v) => (k, Json.str v))

variable {r : ListRequest}

theorem LeavesToken.laterParts (h : r.LeavesToken) : ∀ e ∈ r.laterParts, e.1 ≠ nextTokenKey := by
  intro e he
  rcases List.mem_append.mp he with he | he
  · rcases List.mem_append.mp he with he | he
    · obtain ⟨s, -, rfl⟩ := List.mem_map.mp he
      exact (by decide : sortTokenKey ≠ nextTokenKey)
    · obtain ⟨f, hf, rfl⟩ := List.mem_map.mp he
      exact h.filters f hf
  · obtain ⟨p, hp, rfl⟩ := List.mem_map.mp he
    exact h.extraParams p hp

theorem body_first (r : ListRequest) :
    (r.withToken none).body.entries = r.sizePart.insertAll r.laterParts := by
  show Entries.ofList (r.withToken none).bodyParts = _
  simp only [bodyParts, withToken, Option.toList_none, List.map_nil, List.cons_append,
    List.nil_append]
  rfl

theorem body_later (r : ListRequest) (t : String) :
    (r.withToken (some t)).body.entries =
      (r.sizePart.insert nextTokenKey (.str t)).insertAll r.laterParts := by
  show Entries.ofList (r.withToken (some t)).bodyParts = _
  simp only [bodyParts, withToken, Option.toList_some, List.map_cons, List.map_nil,
    List.cons_append, List.nil_append]
  rfl

theorem get?_body_first (h : r.LeavesToken) :
    (r.withToken none).body.get? nextTokenKey = none := by
  show Entries.get? nextTokenKey (r.withToken none).body.entries = none
  rw [body_first, Entries.get?_insertAll_of_ne h.laterParts]
  rfl

/-- The other requests differ from it in the token alone. -/
theorem body_withToken (h : r.LeavesToken) (t : String) :
    (r.withToken (some t)).body = (r.withToken none).body.insert nextTokenKey (.str t) := by
  refine Dictionary.ext ?_
  show _ = (r.withToken none).body.entries.insert nextTokenKey (.str t)
  rw [body_later, body_first, r.sorted_sizePart.insertAll_insert h.laterParts]

end ListRequest

/-- No list can be filtered by a property that is named like another part of the body. -/
theorem Resource.not_accepts_reservedKeys (r : Resource) :
    ∀ key ∈ ListRequest.reservedKeys, r.accepts key = false := by
  cases r <;> decide

end CursorPaging
