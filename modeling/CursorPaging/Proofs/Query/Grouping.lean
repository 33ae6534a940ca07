import CursorPaging.Proofs.Dictionary
import CursorPaging.Proofs.Query.Builder
import Mathlib.Algebra.BigOperators.Group.List.Lemmas
import Mathlib.Algebra.GroupWithZero.Nat

/-!
# Filters as they are sent

A request sends the tokens of a query by property (`array`), so that of the order of entry it keeps
that of the tokens of each property:

* `get?_grouped`: what is sent for a property;
* `sum_length_array`: every token is sent once;
* `interleaved_iff`: what the order of the tokens of each property determines;
* `array_eq_iff`: what the arrays of a query with known operators determine.
-/

namespace CursorPaging

namespace FilterQuery

variable {q q' : FilterQuery} {property : String}

/-- The tokens of a property. -/
def tokensOf (q : FilterQuery) (property : String) : List FilterToken :=
  q.tokens.filter fun t => t.property = property

/-- What is sent for a property: its tokens in the order of entry, each with its operator as sent
and its value. -/
def array (q : FilterQuery) (property : String) : List Json :=
  (q.tokensOf property).map fun t =>
    .object [("Operator", .str (wireOperator t.operator)), ("Value", .str t.value)]

/-- The properties of a query, each once. -/
def properties (q : FilterQuery) : List String := (q.tokens.map FilterToken.property).dedup

theorem mem_properties : property ∈ q.properties ↔ ∃ t ∈ q.tokens, t.property = property := by
  rw [properties, List.mem_dedup, List.mem_map]

theorem tokensOf_ne_nil_iff : q.tokensOf property ≠ [] ↔ property ∈ q.properties := by
  rw [mem_properties, tokensOf, Ne, List.filter_eq_nil_iff]
  simp

/-! ## Groups -/

theorem get?_addToGroup (groups : Dictionary (List WireToken)) (t : FilterToken) (key : String) :
    (addToGroup groups t).get? key =
      if t.property = key then some ((groups.get? key).getD [] ++ [t.toWire])
      else groups.get? key := by
  rw [addToGroup, Dictionary.get?_insert]
  split
  · rename_i h
    rw [h]
  · rfl

/-- Tokens are appended to the group of their property, which is there as soon as it has one. -/
theorem get?_foldl_addToGroup (tokens : List FilterToken) (groups : Dictionary (List WireToken))
    (key : String) :
    (tokens.foldl addToGroup groups).get? key =
      let new := (tokens.filter fun t => t.property = key).map FilterToken.toWire
      if new = [] then groups.get? key else some ((groups.get? key).getD [] ++ new) := by
  induction tokens generalizing groups with
  | nil => rfl
  | cons t tokens ih =>
    rw [List.foldl_cons, ih, get?_addToGroup]
    by_cases h : t.property = key
    · simp only [h, if_true, decide_true, List.filter_cons_of_pos, List.map_cons, Option.getD_some,
        List.append_assoc, List.singleton_append, reduceCtorEq, if_false]
      split
      · rename_i hnew
        rw [hnew]
      · rfl
    · simp only [h, if_false, decide_false, Bool.false_eq_true, not_false_eq_true,
        List.filter_cons_of_neg]

/-- Under a property stand its filters in order, and nothing if there are none. -/
theorem get?_grouped (q : FilterQuery) (property : String) :
    q.grouped.get? property =
      if q.tokensOf property = [] then none
      else some ((q.tokensOf property).map FilterToken.toWire) := by
  rw [grouped, get?_foldl_addToGroup]
  simp only [List.map_eq_nil_iff]
  rfl

/-- No filter is lost or sent twice. -/
theorem sum_length_array (q : FilterQuery) :
    (q.properties.map fun property => (q.array property).length).sum = q.tokens.length := by
  have hlength : ∀ property, (q.array property).length =
      (q.tokens.map FilterToken.property).count property := by
    intro property
    rw [array, List.length_map, tokensOf, ← List.countP_eq_length_filter, List.count,
      List.countP_map]
    congr 1
  simp only [hlength]
  rw [properties, List.sum_map_count_dedup_eq_length, List.length_map]

end FilterQuery

/-! ## Interleavings -/

/-- One list of tokens becomes the other when neighbours of different properties change places. -/
inductive Interleaved : List FilterToken → List FilterToken → Prop where
  | nil : Interleaved [] []
  | cons (t : FilterToken) {ts ts' : List FilterToken} (rest : Interleaved ts ts') :
    Interleaved (t :: ts) (t :: ts')
  | swap {t t' : FilterToken} (differ : t.property ≠ t'.property) (ts : List FilterToken) :
    Interleaved (t :: t' :: ts) (t' :: t :: ts)
  | trans {ts ts' ts'' : List FilterToken} (first : Interleaved ts ts')
      (second : Interleaved ts' ts'') : Interleaved ts ts''

namespace Interleaved

variable {ts ts' : List FilterToken} {t : FilterToken}

theorem refl (ts : List FilterToken) : Interleaved ts ts := by
  induction ts with
  | nil => exact .nil
  | cons t ts ih => exact .cons t ih

theorem filter_eq (h : Interleaved ts ts') (property : String) :
    (ts.filter fun t => t.property = property) = ts'.filter fun t => t.property = property := by
  induction h with
  | nil => rfl
  | cons t _ ih => simp only [List.filter_cons, ih]
  | @swap t t' differ ts =>
    by_cases ht : t.property = property
    · have ht' : t'.property ≠ property := fun h => differ (ht.trans h.symm)
      simp [ht, ht']
    · simp [List.filter_cons, ht]
  | trans _ _ ih ih' => exact ih.trans ih'

/-- A token goes past all those of other properties. -/
theorem middle {before : List FilterToken} (differ : ∀ t' ∈ before, t'.property ≠ t.property)
    (after : List FilterToken) : Interleaved (t :: (before ++ after)) (before ++ t :: after) := by
  induction before with
  | nil => exact refl _
  | cons t' before ih =>
    obtain ⟨hne, hdiffer⟩ := List.forall_mem_cons.mp differ
    exact (swap hne.symm _).trans (.cons t' (ih hdiffer))

theorem of_filter_eq (h : ∀ property, (ts.filter fun t => t.property = property) =
    ts'.filter fun t => t.property = property) : Interleaved ts ts' := by
  induction ts generalizing ts' with
  | nil =>
    cases ts' with
    | nil => exact .nil
    | cons t ts' =>
      have := h t.property
      simp at this
  | cons t ts ih =>
    -- The first token of its property in the other list is this one.
    have ht := h t.property
    rw [List.filter_cons_of_pos (by simp)] at ht
    obtain ⟨before, after, rfl, hbefore, -, hafter⟩ := List.filter_eq_cons_iff.mp ht.symm
    have hdiffer : ∀ t' ∈ before, t'.property ≠ t.property := by
      intro t' ht' he
      exact hbefore t' ht' (by simpa using he)
    refine (Interleaved.cons t (ih fun property => ?_)).trans (middle hdiffer after)
    have hp := h property
    by_cases he : t.property = property
    · subst he
      have hnone : (before.filter fun t' => t'.property = t.property) = [] := by
        rw [List.filter_eq_nil_iff]
        exact hbefore
      rw [List.filter_append, hnone, List.nil_append, hafter]
    · simpa [List.filter_append, List.filter_cons, he] using hp

end Interleaved

/-- Only the order of the filters of one property matters. -/
theorem interleaved_iff {ts ts' : List FilterToken} : Interleaved ts ts' ↔
    ∀ property, (ts.filter fun t => t.property = property) =
      ts'.filter fun t => t.property = property :=
  ⟨Interleaved.filter_eq, Interleaved.of_filter_eq⟩

/-! ## What the arrays tell -/

/-- The operators of filters are sent as different ones. -/
theorem wireOperator_inj : ∀ o ∈ Query.operators, ∀ o' ∈ Query.operators,
    wireOperator o = wireOperator o' → o = o' := by decide

theorem eq_of_map_eq {α β : Type} {f : α → β} {l l' : List α}
    (inj : ∀ a ∈ l, ∀ a' ∈ l', f a = f a' → a = a') (h : l.map f = l'.map f) : l = l' := by
  induction l generalizing l' with
  | nil => exact (List.map_eq_nil_iff.mp h.symm).symm
  | cons a l ih =>
    cases l' with
    | nil => cases h
    | cons a' l' =>
      obtain ⟨ha, hl⟩ := List.cons.inj h
      have hrest : ∀ b ∈ l, ∀ b' ∈ l', f b = f b' → b = b' := fun b hb b' hb' =>
        inj b (List.mem_cons_of_mem a hb) b' (List.mem_cons_of_mem a' hb')
      rw [inj a List.mem_cons_self a' List.mem_cons_self ha, ih hrest hl]

theorem object_operator_value_inj {o o' v v' : String}
    (h : Json.object [("Operator", .str o), ("Value", .str v)] =
      Json.object [("Operator", .str o'), ("Value", .str v')]) : o = o' ∧ v = v' := by
  obtain ⟨ho, hv⟩ := Entries.ofList_pair_inj (by decide) (Json.obj.inj h)
  exact ⟨Json.str.inj ho, Json.str.inj hv⟩

namespace FilterQuery

variable {q q' : FilterQuery}

/-- Every token has one of the operators of filters. -/
def HasOperators (q : FilterQuery) : Prop := ∀ t ∈ q.tokens, t.operator ∈ Query.operators

theorem tokensOf_eq_of_array_eq (hq : q.HasOperators) (hq' : q'.HasOperators) {property : String}
    (h : q.array property = q'.array property) : q.tokensOf property = q'.tokensOf property := by
  refine eq_of_map_eq (fun t ht t' ht' he => ?_) h
  obtain ⟨ht, hp⟩ := List.mem_filter.mp ht
  obtain ⟨ht', hp'⟩ := List.mem_filter.mp ht'
  obtain ⟨ho, hv⟩ := object_operator_value_inj he
  have ho := wireOperator_inj _ (hq t ht) _ (hq' t' ht') ho
  have hp : t.property = t'.property := (of_decide_eq_true hp).trans (of_decide_eq_true hp').symm
  obtain ⟨p, o, v⟩ := t
  rw [show p = t'.property from hp, show o = t'.operator from ho, show v = t'.value from hv]

/-- Queries with the same arrays differ in how the tokens of different properties are interleaved,
and in nothing else about their tokens. -/
theorem array_eq_iff (hq : q.HasOperators) (hq' : q'.HasOperators) :
    (∀ property, q.array property = q'.array property) ↔ Interleaved q.tokens q'.tokens := by
  rw [interleaved_iff]
  refine ⟨fun h property => tokensOf_eq_of_array_eq hq hq' (h property), fun h property => ?_⟩
  exact congrArg (List.map _) (h property)

end FilterQuery

end CursorPaging
