import CursorPaging.Paging.Fetch
import CursorPaging.Proofs.Listing
import CursorPaging.Proofs.Query.Grouping

/-!
# What a fetch sends

The body of a request is one flat object, in which a filter could be overwritten by a parameter of
the same name, or overwrite the size of the page, its token or the order. As long as no property is
named like one of these, all filters reach the server (`Sends`):

* `get?_body_property`: what the body holds for a property;
* `isSome_get?_body_iff`: the keys of the body;
* `not_mem_reservedKeys`: no query for a resource gets in the way of the other parts;
* `body_carries_filters`: all of this, and what the filters that were sent tell about the query;
* `nextToken_of_extraParam`: a parameter that stands in for the token of a page.
-/

namespace CursorPaging.Paging.FetchParams

open ListRequest (maxResultsKey nextTokenKey sortTokenKey reservedKeys)

variable {p : FetchParams} {property : String}

/-- No property is named like another part of the body. -/
def LeavesFilters (p : FetchParams) : Prop :=
  ∀ property ∈ p.query.properties, property ∉ reservedKeys ∧ p.extraParams.get? property = none

instance (p : FetchParams) : Decidable p.LeavesFilters :=
  inferInstanceAs (Decidable (∀ property ∈ p.query.properties,
    property ∉ reservedKeys ∧ p.extraParams.get? property = none))

/-- The filters of a property as they stand in the request. -/
theorem map_groupJson_grouped (q : FilterQuery) (property : String) :
    (q.grouped.get? property).map ListRequest.groupJson =
      if property ∈ q.properties then some (.arr (q.array property)) else none := by
  rw [q.get?_grouped]
  by_cases h : property ∈ q.properties
  · rw [if_neg (FilterQuery.tokensOf_ne_nil_iff.mpr h), if_pos h, Option.map_some,
      ListRequest.groupJson, List.map_map]
    rfl
  · rw [if_pos (Classical.not_not.mp (mt FilterQuery.tokensOf_ne_nil_iff.mp h)), if_neg h]
    rfl

theorem get?_body_property (h : p.LeavesFilters) (hp : property ∈ p.query.properties) :
    p.toRequest.body.get? property = some (.arr (p.query.array property)) := by
  rw [ListRequest.get?_body]
  show ((p.extraParams.get? property).map Json.str).or
    (((p.query.grouped.get? property).map ListRequest.groupJson).or _) = _
  rw [(h property hp).2, map_groupJson_grouped, if_pos hp]
  rfl

theorem isSome_ite_iff {α : Type} {c : Prop} [Decidable c] {o : Option α} :
    (if c then o else none).isSome = true ↔ c ∧ o.isSome = true := by
  by_cases h : c
  · simp [h]
  · simp [h]

/-- Every part of a request is in its body, whether it has been overwritten or not. -/
theorem isSome_get?_body_iff (p : FetchParams) (key : String) :
    (p.toRequest.body.get? key).isSome = true ↔
      key ∈ p.query.properties ∨ key = maxResultsKey ∨ key = sortTokenKey ∨
        (p.extraParams.get? key).isSome = true ∨
        (key = nextTokenKey ∧ p.pagination.nextToken.isSome = true) := by
  rw [ListRequest.get?_body]
  show Option.isSome (((p.extraParams.get? key).map Json.str).or
    (((p.query.grouped.get? key).map ListRequest.groupJson).or
      ((if sortTokenKey = key then some p.sorting.toToken.toJson else none).or
        ((if nextTokenKey = key then p.pagination.nextToken.map Json.str else none).or
          (if maxResultsKey = key then some (.nat p.pagination.pageSize) else none))))) = true ↔ _
  rw [map_groupJson_grouped]
  simp only [Option.isSome_or, Option.isSome_map, Bool.or_eq_true, isSome_ite_iff,
    Option.isSome_some, and_true, @eq_comm _ _ key]
  tauto

/-- All filters are in the body, each under its property and in the order of entry, and nothing is
there besides but the other parts of the request. -/
structure Sends (p : FetchParams) : Prop where
  filters : ∀ property ∈ p.query.properties,
    p.toRequest.body.get? property = some (.arr (p.query.array property))
  complete : (p.query.properties.map fun property => (p.query.array property).length).sum =
    p.query.tokens.length
  keys : ∀ key, (p.toRequest.body.get? key).isSome = true ↔
    key ∈ p.query.properties ∨ key = maxResultsKey ∨ key = sortTokenKey ∨
      (p.extraParams.get? key).isSome = true ∨
      (key = nextTokenKey ∧ p.pagination.nextToken.isSome = true)
  token : (p.toRequest.body.get? nextTokenKey).isSome = true ↔
    p.pagination.nextToken.isSome = true ∨ (p.extraParams.get? nextTokenKey).isSome = true

theorem LeavesFilters.isSome_get?_body_nextTokenKey (h : p.LeavesFilters) :
    (p.toRequest.body.get? nextTokenKey).isSome = true ↔
      p.pagination.nextToken.isSome = true ∨ (p.extraParams.get? nextTokenKey).isSome = true := by
  have hproperty : nextTokenKey ∉ p.query.properties := fun hp => (h _ hp).1 (by decide)
  have hsize : nextTokenKey ≠ maxResultsKey := by decide
  have hsort : nextTokenKey ≠ sortTokenKey := by decide
  rw [isSome_get?_body_iff]
  simp only [hproperty, hsize, hsort, false_or, true_and]
  exact or_comm

/-- A request whose extra parameters leave the filters alone sends all that it should. -/
theorem LeavesFilters.sends (h : p.LeavesFilters) : Sends p where
  filters _ hp := get?_body_property h hp
  complete := p.query.sum_length_array
  keys := isSome_get?_body_iff p
  token := h.isSome_get?_body_nextTokenKey

end FetchParams

open ListRequest (nextTokenKey reservedKeys)

/-- No property of a resource is named like another part of the body. -/
theorem not_mem_reservedKeys {r : Resource} {offset : Int} {steps : List Query.Step}
    {q : FilterQuery} (h : Query.build (some r) offset steps = .ok q) :
    ∀ property ∈ q.properties, property ∉ reservedKeys := by
  intro property hp hreserved
  obtain ⟨t, ht, rfl⟩ := FilterQuery.mem_properties.mp hp
  have haccepts := (Query.accepts_build h t ht).1
  rw [r.not_accepts_reservedKeys _ hreserved] at haccepts
  cases haccepts

theorem hasOperators_build {resource : Resource} {offset : Int} {steps : List Query.Step}
    {q : FilterQuery} (h : Query.build (some resource) offset steps = .ok q) : q.HasOperators :=
  fun t ht => List.contains_iff_mem.mp (Query.accepts_build h t ht).2

/-- No filter is lost on its way into the body, none of a query for a resource gets in the way of
another part of the request, and of such a query the body tells all but how the tokens of different
properties are interleaved. -/
theorem body_carries_filters :
    (∀ p : FetchParams, p.LeavesFilters → p.Sends) ∧
    (∀ (r : Resource) (offset : Int) (steps : List Query.Step) (q : FilterQuery),
      Query.build (some r) offset steps = .ok q →
        ∀ property ∈ q.properties, property ∉ reservedKeys) ∧
    ∀ (r r' : Resource) (offset offset' : Int) (steps steps' : List Query.Step)
      (q q' : FilterQuery),
      Query.build (some r) offset steps = .ok q → Query.build (some r') offset' steps' = .ok q' →
        ((∀ property, q.array property = q'.array property) ↔ Interleaved q.tokens q'.tokens) := by
  refine ⟨fun p h => h.sends, fun r offset steps q h => not_mem_reservedKeys h, ?_⟩
  intro r r' offset offset' steps steps' q q' h h'
  exact FilterQuery.array_eq_iff (hasOperators_build h) (hasOperators_build h')

/-- Two filters on the states of sessions with one on their owners before, between or after them, on
the second page. -/
theorem body_carries_filters_states :
    let states : Query.Step := .token "States" "!=" "CLOSED"
    let others : Query.Step := .token "States" "!=" "DELETED"
    let owner : Query.Step := .token "Owners" ":" "ann"
    let q : FilterQuery :=
      ⟨[⟨"States", "!=", "CLOSED"⟩, ⟨"Owners", ":", "ann"⟩, ⟨"States", "!=", "DELETED"⟩], .and⟩
    let q' : FilterQuery :=
      ⟨[⟨"Owners", ":", "ann"⟩, ⟨"States", "!=", "CLOSED"⟩, ⟨"States", "!=", "DELETED"⟩], .and⟩
    let p : FetchParams := ⟨⟨2, 20, some "t"⟩, ⟨"Name", false⟩, q, 0, .ofList [("Scope", "all")]⟩
    Query.build (some .sessions) 0 [states, owner, others] = .ok q ∧
      Query.build (some .sessions) 0 [owner, states, others] = .ok q' ∧
      p.LeavesFilters ∧ p.Sends ∧ (∀ property ∈ q.properties, property ∉ reservedKeys) ∧
      ((∀ property, q.array property = q'.array property) ↔ Interleaved q.tokens q'.tokens) := by
  intro states others owner q q' p
  have hq : Query.build (some .sessions) 0 [states, owner, others] = .ok q := by decide
  have hq' : Query.build (some .sessions) 0 [owner, states, others] = .ok q' := by decide
  have hp : p.LeavesFilters := by decide
  exact ⟨hq, hq', hp, body_carries_filters.1 p hp,
    body_carries_filters.2.1 .sessions 0 _ q hq,
    body_carries_filters.2.2 .sessions .sessions 0 0 _ _ q q' hq hq'⟩

/-- A parameter that is named like the token of a page is sent in its place. -/
theorem nextToken_of_extraParam :
    let p : FetchParams :=
      ⟨⟨1, 20, none⟩, ⟨"Name", false⟩, .empty, 0, .ofList [(nextTokenKey, "x")]⟩
    p.LeavesFilters ∧ p.pagination.nextToken = none ∧
      p.toRequest.body.get? nextTokenKey = some (.str "x") :=
  ⟨by decide, rfl, rfl⟩

end CursorPaging.Paging
