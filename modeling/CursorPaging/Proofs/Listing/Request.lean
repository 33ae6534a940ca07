import CursorPaging.Proofs.Listing
import Mathlib.Data.List.Basic

/-!
# Requests and their bodies

A body is one flat object, but the parts of a request are told apart in it as long as none of them
has the key of another one (`Separate`): the page and the order have keys of their own, and under
every other key a text is a parameter and an array is a filter. So no two requests of this kind have
the same body:

* `SortToken.toJson_injective`, `groupJson_injective`: what the parts look like tells what they are;
* `Separate.get?_body_of_reserved`, `Separate.get?_body_of_free`: what is found under a key;
* `body_determines`: the body holds the last part of each key, and determines the request.
-/

namespace CursorPaging

/-! ## Parts -/

theorem SortDirection.name_injective : Function.Injective name := by
  intro d d' h
  cases d <;> cases d' <;> first | rfl | exact absurd h (by decide)

theorem SortToken.toJson_injective : Function.Injective toJson := by
  intro t t' h
  obtain ⟨hkey, hdirection⟩ := Entries.ofList_pair_inj (by decide) (Json.obj.inj h)
  have hkey : t.key = t'.key := Json.str.inj hkey
  have hdirection : t.direction = t'.direction :=
    SortDirection.name_injective (Json.str.inj hdirection)
  cases t
  cases t'
  exact congrArg₂ SortToken.mk hkey hdirection

theorem WireToken.toJson_injective : Function.Injective toJson := by
  intro t t' h
  obtain ⟨hoperator, hvalue⟩ := Entries.ofList_pair_inj (by decide) (Json.obj.inj h)
  have hoperator : t.operator = t'.operator := Json.str.inj hoperator
  have hvalue : t.value = t'.value := Json.str.inj hvalue
  cases t
  cases t'
  exact congrArg₂ WireToken.mk hoperator hvalue

theorem Json.nat_injective : Function.Injective nat := fun _ _ h =>
  Int.ofNat.inj (Number.integer.inj (Json.num.inj h))

namespace ListRequest

theorem groupJson_injective : Function.Injective groupJson := fun _ _ h =>
  List.map_injective_iff.mpr WireToken.toJson_injective (Json.arr.inj h)

/-! ## Keys -/

/-- No part of a request has the key of another one. -/
structure Separate (r : ListRequest) : Prop where
  filters : ∀ e ∈ r.filters.entries, e.1 ∉ reservedKeys ∧ r.extraParams.get? e.1 = none
  extraParams : ∀ e ∈ r.extraParams.entries, e.1 ∉ reservedKeys

namespace Separate

variable {r r' : ListRequest} {key : String}

theorem filters_of_reserved (h : r.Separate) (hk : key ∈ reservedKeys) :
    r.filters.get? key = none := by
  by_contra hne
  obtain ⟨ts, hts⟩ := Option.ne_none_iff_exists'.mp hne
  exact (h.filters _ (Entries.mem_of_get? hts)).1 hk

theorem extraParams_of_reserved (h : r.Separate) (hk : key ∈ reservedKeys) :
    r.extraParams.get? key = none := by
  by_contra hne
  obtain ⟨v, hv⟩ := Option.ne_none_iff_exists'.mp hne
  exact h.extraParams _ (Entries.mem_of_get? hv) hk

theorem filters_or_extraParams (h : r.Separate) (key : String) :
    r.filters.get? key = none ∨ r.extraParams.get? key = none := by
  cases hts : r.filters.get? key with
  | none => exact .inl rfl
  | some ts => exact .inr (h.filters _ (Entries.mem_of_get? hts)).2

/-- Under a reserved key there is its part and nothing else. -/
theorem get?_body_of_reserved (h : r.Separate) (hk : key ∈ reservedKeys) :
    r.body.get? key =
      (if sortTokenKey = key then r.sortToken.map SortToken.toJson else none).or
        ((if nextTokenKey = key then r.nextToken.map Json.str else none).or
          (if maxResultsKey = key then some (.nat r.maxResults) else none)) := by
  rw [get?_body, h.extraParams_of_reserved hk, h.filters_of_reserved hk]
  rfl

/-- Under the other keys there are extra parameters and filters. -/
theorem get?_body_of_free (r : ListRequest) (hk : key ∉ reservedKeys) :
    r.body.get? key =
      ((r.extraParams.get? key).map Json.str).or ((r.filters.get? key).map groupJson) := by
  simp only [reservedKeys, List.mem_cons, List.not_mem_nil, or_false, not_or] at hk
  obtain ⟨hsize, htoken, hsort⟩ := hk
  rw [get?_body, if_neg (Ne.symm hsort), if_neg (Ne.symm htoken), if_neg (Ne.symm hsize)]
  simp only [Option.or_none]

/-- Under a key that is free, a text is a parameter. -/
theorem bind_asString? (p : Option String) (g : Option (List WireToken)) :
    ((p.map Json.str).or (g.map groupJson)).bind Json.asString? = p := by
  cases p <;> cases g <;> rfl

/-- A value under a free key tells whether it is a text or filters, and which. -/
theorem free_inj {p p' : Option String} {g g' : Option (List WireToken)}
    (h : g = none ∨ p = none) (h' : g' = none ∨ p' = none)
    (he : (p.map Json.str).or (g.map groupJson) = (p'.map Json.str).or (g'.map groupJson)) :
    g = g' ∧ p = p' := by
  obtain rfl : p = p' := by rw [← bind_asString? p g, he, bind_asString?]
  refine ⟨?_, rfl⟩
  cases p with
  | none => exact Option.map_injective groupJson_injective he
  | some v => rw [h.resolve_right nofun, h'.resolve_right nofun]

theorem get?_maxResultsKey (h : r.Separate) :
    r.body.get? maxResultsKey = some (.nat r.maxResults) :=
  h.get?_body_of_reserved (by decide)

theorem get?_nextTokenKey (h : r.Separate) :
    r.body.get? nextTokenKey = r.nextToken.map Json.str :=
  (h.get?_body_of_reserved (by decide)).trans Option.or_none

theorem get?_sortTokenKey (h : r.Separate) :
    r.body.get? sortTokenKey = r.sortToken.map SortToken.toJson :=
  (h.get?_body_of_reserved (by decide)).trans Option.or_none

/-- The filters and the parameters are found under all other keys. -/
theorem free_parts_inj (h : r.Separate) (h' : r'.Separate) (he : r.body = r'.body) (key : String) :
    r.filters.get? key = r'.filters.get? key ∧
      r.extraParams.get? key = r'.extraParams.get? key := by
  by_cases hk : key ∈ reservedKeys
  · rw [h.filters_of_reserved hk, h'.filters_of_reserved hk, h.extraParams_of_reserved hk,
      h'.extraParams_of_reserved hk]
    exact ⟨rfl, rfl⟩
  · refine free_inj (h.filters_or_extraParams key) (h'.filters_or_extraParams key) ?_
    rw [← get?_body_of_free r hk, ← get?_body_of_free r' hk, he]

/-- Two requests with one body are the same. -/
theorem eq_of_body_eq (h : r.Separate) (h' : r'.Separate) (he : r.body = r'.body) : r = r' := by
  have hsize : some (Json.nat r.maxResults) = some (Json.nat r'.maxResults) := by
    rw [← h.get?_maxResultsKey, he, h'.get?_maxResultsKey]
  have htoken : r.nextToken.map Json.str = r'.nextToken.map Json.str := by
    rw [← h.get?_nextTokenKey, he, h'.get?_nextTokenKey]
  have hsort : r.sortToken.map SortToken.toJson = r'.sortToken.map SortToken.toJson := by
    rw [← h.get?_sortTokenKey, he, h'.get?_sortTokenKey]
  have hfilters := Dictionary.ext_get? fun key => (free_parts_inj h h' he key).1
  have hextra := Dictionary.ext_get? fun key => (free_parts_inj h h' he key).2
  cases r
  cases r'
  rw [mk.injEq]
  exact ⟨Json.nat_injective (Option.some.inj hsize),
    Option.map_injective (fun _ _ => Json.str.inj) htoken,
    Option.map_injective SortToken.toJson_injective hsort, hfilters, hextra⟩

end Separate

/-- Under each key the body holds the parameter of this name; if there is none, the filters of the
property of this name; and if there are none either, what belongs to the page or the order. Of
requests whose parts have different keys, no two have the same body. -/
theorem body_determines :
    (∀ (r : ListRequest) (key : String), r.body.get? key =
      ((r.extraParams.get? key).map Json.str).or
        (((r.filters.get? key).map groupJson).or
          ((if sortTokenKey = key then r.sortToken.map SortToken.toJson else none).or
            ((if nextTokenKey = key then r.nextToken.map Json.str else none).or
              (if maxResultsKey = key then some (.nat r.maxResults) else none))))) ∧
    ∀ r r' : ListRequest, r.Separate → r'.Separate → r.body = r'.body → r = r' :=
  ⟨get?_body, fun _ _ h h' he => h.eq_of_body_eq h' he⟩

/-- The filters and parameters of a request, entered in two orders and once with a value that is
overwritten. -/
theorem body_determines_reordered :
    let ready : List WireToken := [⟨"=", "READY"⟩, ⟨"!=", "CLOSED"⟩]
    let ann : List WireToken := [⟨"CONTAINS", "ann"⟩]
    let r : ListRequest :=
      ⟨20, some "t", some ⟨"Name", .desc⟩, .ofList [("States", ready), ("Owners", ann)],
        .ofList [("Region", "eu"), ("Scope", "all")]⟩
    let r' : ListRequest :=
      ⟨20, some "t", some ⟨"Name", .desc⟩,
        .ofList [("Owners", []), ("Owners", ann), ("States", ready)],
        .ofList [("Scope", "all"), ("Region", "eu")]⟩
    r.Separate ∧ r'.Separate ∧ r.body = r'.body ∧ r = r' := by
  intro ready ann r r'
  have h : r.Separate := ⟨by decide, by decide⟩
  have h' : r'.Separate := ⟨by decide, by decide⟩
  have hfilters : r.filters = r'.filters := by decide
  have hextra : r.extraParams = r'.extraParams := by decide
  have he : r.body = r'.body := by
    rw [body, body, bodyParts, bodyParts, hfilters, hextra]
  exact ⟨h, h', he, body_determines.2 r r' h h' he⟩

end ListRequest

end CursorPaging
