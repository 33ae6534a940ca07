/-!
# Dictionaries

Finite maps with string keys, kept as lists in strictly increasing key order, so that equal maps
are equal lists. `insert` overwrites, `get?_insert` says what each key holds afterwards, and
`Dictionary` carries the order as a proof.
-/

namespace CursorPaging

universe u

/-- A list of entries. -/
abbrev Entries (α : Type u) := List (String × α)

namespace Entries

variable {α : Type u}

/-- Keys in strictly increasing order. -/
def Sorted (es : Entries α) : Prop := es.Pairwise fun a b => a.1 < b.1

/-- The value of the first entry with a key. -/
def get? (key : String) : Entries α → Option α
  | [] => none
  | (k, v) :: es => if k = key then some v else get? key es

/-- Sets the value of a key, at its place in the order. -/
def insert (key : String) (value : α) : Entries α → Entries α
  | [] => [(key, value)]
  | (k, v) :: es =>
    if key < k then (key, value) :: (k, v) :: es
    else if key = k then (key, value) :: es
    else (k, v) :: insert key value es

/-- The entries without those of a key. -/
def erase (key : String) (es : Entries α) : Entries α := es.filter fun e => e.1 ≠ key

/-- Sets the values of keys one after another, so that the last one counts. -/
def insertAll (es new : Entries α) : Entries α := new.foldl (fun acc e => acc.insert e.1 e.2) es

/-- The entries in key order, the last value of a repeated key counting. -/
def ofList (es : List (String × α)) : Entries α := insertAll [] es

@[simp] theorem get?_nil (key : String) : get? key ([] : Entries α) = none := rfl

theorem get?_insert (es : Entries α) (key key' : String) (value : α) :
    (es.insert key value).get? key' = if key = key' then some value else es.get? key' := by
  induction es with
  | nil => simp [insert, get?]
  | cons e es ih =>
    obtain ⟨k, v⟩ := e
    by_cases h₁ : key < k
    · simp [insert, get?, h₁]
    · by_cases h₂ : key = k
      · subst h₂
        by_cases h₃ : key = key' <;> simp [insert, get?, h₃]
      · by_cases h₃ : k = key'
        · subst h₃; simp [insert, get?, h₁, h₂]
        · simp [insert, get?, h₁, h₂, h₃, ih]

theorem mem_key_insert {es : Entries α} {key : String} {value : α} {e : String × α}
    (h : e ∈ es.insert key value) : e.1 = key ∨ e ∈ es := by
  induction es with
  | nil => simp [insert] at h; exact .inl (by rw [h])
  | cons a es ih =>
    obtain ⟨k, v⟩ := a
    simp only [insert] at h
    split at h
    · rcases List.mem_cons.mp h with h | h
      · exact .inl (by rw [h])
      · exact .inr h
    · split at h
      · rcases List.mem_cons.mp h with h | h
        · exact .inl (by rw [h])
        · exact .inr (List.mem_cons_of_mem _ h)
      · rcases List.mem_cons.mp h with h | h
        · exact .inr (by rw [h]; exact List.mem_cons_self)
        · exact (ih h).imp id (List.mem_cons_of_mem _)

theorem lt_of_not_lt_of_ne {a b : String} (h : ¬a < b) (hne : a ≠ b) : b < a := by
  by_cases h' : b < a
  · exact h'
  · exact absurd (String.le_antisymm (String.not_lt.mp h') (String.not_lt.mp h)) hne

theorem Sorted.insert {es : Entries α} (h : es.Sorted) (key : String) (value : α) :
    (es.insert key value).Sorted := by
  induction es with
  | nil => simp [Entries.insert, Sorted]
  | cons e es ih =>
    obtain ⟨k, v⟩ := e
    obtain ⟨hk, hes⟩ := List.pairwise_cons.mp h
    simp only [Entries.insert]
    split
    · rename_i hlt
      refine List.pairwise_cons.mpr ⟨?_, h⟩
      intro b hb
      rcases List.mem_cons.mp hb with rfl | hb
      · exact hlt
      · exact String.lt_trans hlt (hk b hb)
    · split
      · rename_i heq
        subst heq
        exact List.pairwise_cons.mpr ⟨hk, hes⟩
      · rename_i hlt hne
        refine List.pairwise_cons.mpr ⟨?_, ih hes⟩
        intro b hb
        rcases mem_key_insert hb with hb | hb
        · rw [hb]; exact lt_of_not_lt_of_ne hlt hne
        · exact hk b hb

theorem Sorted.insertAll {es : Entries α} (h : es.Sorted) (new : Entries α) :
    (es.insertAll new).Sorted := by
  induction new generalizing es with
  | nil => exact h
  | cons e new ih => exact ih (h.insert e.1 e.2)

theorem sorted_ofList (es : List (String × α)) : (ofList es).Sorted :=
  Sorted.insertAll (List.Pairwise.nil) es

end Entries

/-- Entries in strictly increasing key order. -/
@[ext] structure Dictionary (α : Type u) where
  /-- The entries, in key order. -/
  entries : Entries α
  sorted : entries.Sorted

namespace Dictionary

variable {α : Type u}

/-- The dictionary without entries. -/
def empty : Dictionary α := ⟨[], List.Pairwise.nil⟩

instance : Inhabited (Dictionary α) := ⟨empty⟩

instance [DecidableEq α] : DecidableEq (Dictionary α) := fun a b =>
  decidable_of_iff (a.entries = b.entries) Dictionary.ext_iff.symm

/-- The value of a key. -/
def get? (d : Dictionary α) (key : String) : Option α := d.entries.get? key

/-- Sets the value of a key. -/
def insert (d : Dictionary α) (key : String) (value : α) : Dictionary α :=
  ⟨d.entries.insert key value, d.sorted.insert key value⟩

/-- The dictionary of a list of entries, the last value of a repeated key counting. -/
def ofList (es : List (String × α)) : Dictionary α := ⟨Entries.ofList es, Entries.sorted_ofList es⟩

theorem get?_insert (d : Dictionary α) (key key' : String) (value : α) :
    (d.insert key value).get? key' = if key = key' then some value else d.get? key' :=
  Entries.get?_insert d.entries key key' value

end Dictionary

end CursorPaging
