import CursorPaging.Dictionary

/-!
# Equal dictionaries

Entries in key order are determined by the values of their keys (`Sorted.ext`), so that the order in
which different keys were set does not show:

* `Sorted.insert_comm`, `Sorted.insertAll_insert`: a key that is set once may be set last;
* `get?_insertAll_of_ne`: keys that are not set keep their value;
* `get?_insertAll`: what is set last counts;
* `Sorted.ofList_perm`, `mem_ofList`: entries are only brought into order;
* `ofList_pair_inj`: two values under different keys are both kept.
-/

namespace CursorPaging.Entries

universe u

variable {α : Type u} {es es' new : Entries α} {key key' : String} {value value' : α}

theorem get?_of_lt (h : ∀ e ∈ es, key < e.1) : es.get? key = none := by
  induction es with
  | nil => rfl
  | cons e es ih =>
    obtain ⟨hlt, hes⟩ := List.forall_mem_cons.mp h
    have hne : e.1 ≠ key := fun he => String.lt_irrefl key (he ▸ hlt)
    rw [get?, if_neg hne, ih hes]

theorem get?_head (es : Entries α) (key : String) (value : α) :
    get? key ((key, value) :: es) = some value := if_pos rfl

/-- The first key is the least one, so that it is found at the head of both lists. -/
theorem Sorted.head_le {e e' : String × α} (h' : Sorted (e' :: es'))
    (hg : ∀ key, get? key (e :: es) = get? key (e' :: es')) : ¬e.1 < e'.1 := by
  intro hlt
  have hnone : get? e.1 (e' :: es') = none := get?_of_lt <| List.forall_mem_cons.mpr
    ⟨hlt, fun a ha => String.lt_trans hlt ((List.pairwise_cons.mp h').1 a ha)⟩
  have hsome := get?_head es e.1 e.2
  rw [show (e.1, e.2) = e from rfl, hg, hnone] at hsome
  cases hsome

/-- The values of the keys determine the entries. -/
theorem Sorted.ext (h : es.Sorted) (h' : es'.Sorted) (hg : ∀ key, es.get? key = es'.get? key) :
    es = es' := by
  induction es generalizing es' with
  | nil =>
    cases es' with
    | nil => rfl
    | cons e' es' =>
      have := (hg e'.1).trans (get?_head es' e'.1 e'.2)
      cases this
  | cons e es ih =>
    cases es' with
    | nil =>
      have := (get?_head es e.1 e.2).symm.trans (hg e.1)
      cases this
    | cons e' es' =>
      have hk : e.1 = e'.1 := String.le_antisymm
        (String.not_lt.mp (h.head_le fun k => (hg k).symm)) (String.not_lt.mp (h'.head_le hg))
      obtain ⟨k, v⟩ := e
      obtain ⟨k', v'⟩ := e'
      obtain rfl : k = k' := hk
      have hv := hg k
      rw [get?_head, get?_head, Option.some.injEq] at hv
      obtain ⟨hlt, hs⟩ := List.pairwise_cons.mp h
      obtain ⟨hlt', hs'⟩ := List.pairwise_cons.mp h'
      rw [hv, ih hs hs' fun key => ?_]
      by_cases he : k = key
      · subst he
        rw [get?_of_lt hlt, get?_of_lt hlt']
      · have := hg key
        rwa [get?, get?, if_neg he, if_neg he] at this

/-- The order of insertions under different keys makes no difference. -/
theorem Sorted.insert_comm (h : es.Sorted) (hne : key ≠ key') :
    (es.insert key value).insert key' value' = (es.insert key' value').insert key value := by
  refine ((h.insert _ _).insert _ _).ext ((h.insert _ _).insert _ _) fun k => ?_
  simp only [get?_insert]
  split
  · rename_i hk'
    rw [if_neg (fun hk => hne (hk.trans hk'.symm))]
  · rfl

/-- A key that no other entry sets may be set last. -/
theorem Sorted.insertAll_insert (h : es.Sorted) (hne : ∀ e ∈ new, e.1 ≠ key) :
    (es.insert key value).insertAll new = (es.insertAll new).insert key value := by
  induction new generalizing es with
  | nil => rfl
  | cons e new ih =>
    obtain ⟨he, hnew⟩ := List.forall_mem_cons.mp hne
    show ((es.insert key value).insert e.1 e.2).insertAll new = _
    rw [h.insert_comm he.symm, ih (h.insert e.1 e.2) hnew]
    rfl

theorem get?_insertAll_of_ne (hne : ∀ e ∈ new, e.1 ≠ key) :
    (es.insertAll new).get? key = es.get? key := by
  induction new generalizing es with
  | nil => rfl
  | cons e new ih =>
    obtain ⟨he, hnew⟩ := List.forall_mem_cons.mp hne
    show ((es.insert e.1 e.2).insertAll new).get? key = _
    rw [ih hnew, get?_insert, if_neg he]

/-- The last insertion under a key wins. -/
theorem get?_insertAll (h : new.Sorted) (key : String) :
    (es.insertAll new).get? key = (new.get? key).or (es.get? key) := by
  induction new generalizing es with
  | nil => rfl
  | cons e new ih =>
    obtain ⟨hlt, hnew⟩ := List.pairwise_cons.mp h
    show ((es.insert e.1 e.2).insertAll new).get? key = _
    rw [ih hnew, get?_insert, get?]
    by_cases he : e.1 = key
    · rw [if_pos he, if_pos he, get?_of_lt (he ▸ hlt)]
      rfl
    · rw [if_neg he, if_neg he]

theorem insertAll_append (es new new' : Entries α) :
    es.insertAll (new ++ new') = (es.insertAll new).insertAll new' := List.foldl_append

theorem Sorted.ofList_eq (h : es.Sorted) : ofList es = es := by
  refine (sorted_ofList es).ext h fun key => ?_
  rw [ofList, get?_insertAll h, get?_nil, Option.or_none]

/-- Keys that are all different may be set in any order. -/
theorem Sorted.insertAll_perm {new' : Entries α} (h : es.Sorted) (hp : new.Perm new')
    (hne : (new.map Prod.fst).Nodup) : es.insertAll new = es.insertAll new' := by
  induction hp generalizing es with
  | nil => rfl
  | cons e _ ih => exact ih (h.insert e.1 e.2) (List.nodup_cons.mp hne).2
  | swap e e' new =>
    have hkey : e'.1 ≠ e.1 := fun heq => (List.nodup_cons.mp hne).1 (heq ▸ List.mem_cons_self)
    show ((es.insert e'.1 e'.2).insert e.1 e.2).insertAll new = _
    rw [h.insert_comm hkey]
    rfl
  | trans hp _ ih ih' => exact (ih h hne).trans (ih' h ((hp.map Prod.fst).nodup_iff.mp hne))

/-- The order of the entries makes no difference if the keys are distinct. -/
theorem Sorted.ofList_perm (h : es.Sorted) (hp : new.Perm es) : ofList new = es := by
  have hkeys : (new.map Prod.fst).Nodup := (hp.map Prod.fst).nodup_iff.mpr <|
    List.Pairwise.map _ (fun _ _ hlt => String.ne_of_lt hlt) h
  rw [ofList, Sorted.insertAll_perm List.Pairwise.nil hp hkeys]
  exact h.ofList_eq

theorem sorted_of_keys (keys : List String) (hkeys : es.map Prod.fst = keys)
    (h : keys.Pairwise (· < ·)) : es.Sorted := by
  subst hkeys
  exact List.pairwise_map.mp h

theorem mem_insert {e : String × α} {value : α} (h : e ∈ es.insert key value) :
    e = (key, value) ∨ e ∈ es := by
  induction es with
  | nil => exact .inl (List.mem_singleton.mp h)
  | cons a es ih =>
    simp only [insert] at h
    split at h
    · exact List.mem_cons.mp h
    · split at h
      · exact (List.mem_cons.mp h).imp_right (List.mem_cons_of_mem _)
      · rcases List.mem_cons.mp h with rfl | h
        · exact .inr List.mem_cons_self
        · exact (ih h).imp_right (List.mem_cons_of_mem _)

theorem mem_insertAll {e : String × α} (h : e ∈ es.insertAll new) : e ∈ es ∨ e ∈ new := by
  induction new generalizing es with
  | nil => exact .inl h
  | cons a new ih =>
    rcases ih h with h | h
    · rcases mem_insert h with rfl | h
      · exact .inr List.mem_cons_self
      · exact .inl h
    · exact .inr (List.mem_cons_of_mem _ h)

theorem mem_ofList {e : String × α} (h : e ∈ ofList new) : e ∈ new :=
  (mem_insertAll h).resolve_left List.not_mem_nil

/-- The values of two different keys can be read off again. -/
theorem ofList_pair_inj {x x' y y' : α} (hne : key ≠ key')
    (h : ofList [(key, x), (key', y)] = ofList [(key, x'), (key', y')]) : x = x' ∧ y = y' := by
  have hfirst := congrArg (get? key) h
  have hsecond := congrArg (get? key') h
  simp only [ofList, insertAll, List.foldl_cons, List.foldl_nil, get?_insert, if_true, hne.symm,
    if_false, Option.some.injEq] at hfirst hsecond
  exact ⟨hfirst, hsecond⟩

theorem mem_of_get? {es : Entries α} {key : String} {value : α} (h : es.get? key = some value) :
    (key, value) ∈ es := by
  induction es with
  | nil => cases h
  | cons e es ih =>
    rw [get?] at h
    split at h
    · rename_i hk
      cases h
      rw [← hk]
      exact List.mem_cons_self
    · exact List.mem_cons_of_mem _ (ih h)

theorem get?_erase_of_ne (hne : key ≠ key') : (es.erase key).get? key' = es.get? key' := by
  induction es with
  | nil => rfl
  | cons e es ih =>
    by_cases he : e.1 = key
    · have hk : e.1 ≠ key' := fun h => hne (he.symm.trans h)
      rw [erase, List.filter_cons_of_neg (by simpa using he), get?, if_neg hk]
      exact ih
    · rw [erase, List.filter_cons_of_pos (by simpa using he), get?, get?]
      split
      · rfl
      · exact ih

section Map

universe v

variable {β : Type v} (f : α → β)

theorem get?_map (es : Entries α) (key : String) :
    get? key (es.map fun e => (e.1, f e.2)) = (es.get? key).map f := by
  induction es with
  | nil => rfl
  | cons e es ih =>
    rw [List.map_cons, get?, get?, ih]
    split <;> rfl

theorem Sorted.map (h : es.Sorted) : Sorted (es.map fun e => (e.1, f e.2)) :=
  List.Pairwise.map _ (fun _ _ hlt => hlt) h

/-- A value that may be absent, under its key. -/
theorem get?_map_toList (o : Option α) (key key' : String) :
    get? key' (o.toList.map fun a => (key, f a)) = if key = key' then o.map f else none := by
  cases o with
  | none => rw [Option.map_none, ite_self]; rfl
  | some a => rfl

theorem sorted_map_toList (o : Option α) (key : String) :
    Sorted (o.toList.map fun a => (key, f a)) := by
  cases o with
  | none => exact List.Pairwise.nil
  | some a => exact List.pairwise_singleton _ _

end Map

end CursorPaging.Entries

namespace CursorPaging.Dictionary

universe u

variable {α : Type u} {d d' : Dictionary α}

/-- A dictionary is determined by what is found in it. -/
theorem ext_get? (h : ∀ key, d.get? key = d'.get? key) : d = d' :=
  Dictionary.ext (d.sorted.ext d'.sorted h)

end CursorPaging.Dictionary
