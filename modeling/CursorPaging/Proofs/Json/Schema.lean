import CursorPaging.Json.Decode
import CursorPaging.Proofs.Json.Text
import Mathlib.Logic.Relation

/-!
# Keys that a decoder does not know

A decoder of records passes over keys that it does not know, in the records within a record as well.
Where it looks for records, and which keys it knows there, is its schema; `Adds` puts one unknown
key somewhere into a value. A decoder that follows its schema does not notice (`Ignores`):

* `ignores_list`, `ignores_record`, `ignores_flat`: lists and records of such decoders;
* `Ignores.extends`: any number of unknown keys.
-/

namespace CursorPaging.Json

variable {α β : Type}

/-- Where a decoder looks for records, and the keys that it knows in them. -/
inductive Schema where
  | plain
  | record (known : List (String × Schema))
  | list (item : Schema)

/-- The second value is the first one with another key somewhere that is not known there. -/
inductive Adds : Schema → Json → Json → Prop where
  | key {known : List (String × Schema)} {fields : Entries Json} {name : String} (value : Json)
    (unknown : Entries.get? name known = none) :
    Adds (.record known) (.obj fields) (.obj (fields.insert name value))
  | field {known : List (String × Schema)} {before after : Entries Json} {name : String}
    {schema : Schema} {v v' : Json} (knows : Entries.get? name known = some schema)
    (within : Adds schema v v') :
    Adds (.record known) (.obj (before ++ (name, v) :: after))
      (.obj (before ++ (name, v') :: after))
  | position {known : List (String × Schema)} {before after : List Json} {name : String}
    {schema : Schema} {v v' : Json} (knows : known[before.length]? = some (name, schema))
    (within : Adds schema v v') :
    Adds (.record known) (.arr (before ++ v :: after)) (.arr (before ++ v' :: after))
  | item {schema : Schema} {before after : List Json} {v v' : Json} (within : Adds schema v v') :
    Adds (.list schema) (.arr (before ++ v :: after)) (.arr (before ++ v' :: after))

/-- The second value is the first one with any number of unknown keys. -/
def Extends (schema : Schema) : Json → Json → Prop := Relation.ReflTransGen (Adds schema)

/-- A decoder gives the same result with an unknown key. -/
def Ignores (schema : Schema) (decode : Json → Except DecodeError α) : Prop :=
  ∀ v v', Adds schema v v' → decode v' = decode v

variable {schema : Schema} {decode : Json → Except DecodeError α}

/-- A decoder that ignores one unknown key ignores any number of them. -/
theorem Ignores.extends (h : Ignores schema decode) {v v' : Json} (he : Extends schema v v') :
    decode v' = decode v := by
  induction he with
  | refl => rfl
  | tail _ last ih => rw [h _ _ last, ih]

theorem ignores_plain (decode : Json → Except DecodeError α) : Ignores .plain decode := nofun

theorem Ignores.bind (h : Ignores schema decode) (f : α → Except DecodeError β) :
    Ignores schema fun v => decode v >>= f := fun v v' ha => by
  show decode v' >>= f = decode v >>= f
  rw [h v v' ha]

/-! ## Lists -/

theorem decodeItems_congr {v v' : Json} (h : decode v' = decode v) (before after : List Json) :
    decodeItems decode (before ++ v' :: after) = decodeItems decode (before ++ v :: after) := by
  induction before with
  | nil => simp only [List.nil_append, decodeItems, h]
  | cons u before ih => simp only [List.cons_append, decodeItems, ih]

/-- A decoder of lists ignores what the decoder of their items ignores. -/
theorem ignores_list (h : Ignores schema decode) : Ignores (.list schema) (decodeList decode) := by
  intro v v' ha
  cases ha with
  | item within => exact decodeItems_congr (h _ _ within) _ _

/-! ## Records -/

section Records

variable {σ : Type} {f : RecordFormat Json σ} {known : List (String × Schema)}
  {fields : List (FieldFormat Json σ)}

/-- The fields have the names that are known, and follow the schemas that go with them. -/
def Follows (known : List (String × Schema)) (fields : List (FieldFormat Json σ)) : Prop :=
  List.Forall₂ (fun k field => field.name = k.1 ∧ ∀ part, Ignores k.2 (field.store part))
    known fields

theorem Follows.find?_of_unknown (h : Follows known fields) {name : String}
    (unknown : Entries.get? name known = none) :
    fields.find? (fun field => field.name = name) = none := by
  induction h with
  | nil => rfl
  | @cons k field known fields first _ ih =>
    rw [Entries.get?] at unknown
    split at unknown
    · cases unknown
    · rename_i hne
      rw [List.find?_cons_of_neg (by simpa [first.1] using hne), ih unknown]

theorem Follows.find?_of_known (h : Follows known fields) {name : String}
    (knows : Entries.get? name known = some schema) :
    ∃ field, fields.find? (fun field => field.name = name) = some field ∧
      ∀ part, Ignores schema (field.store part) := by
  induction h with
  | nil => cases knows
  | @cons k field known fields first _ ih =>
    rw [Entries.get?] at knows
    split at knows
    · rename_i heq
      obtain rfl := Option.some.inj knows
      exact ⟨field, List.find?_cons_of_pos (by simpa [first.1] using heq), first.2⟩
    · rename_i hne
      rw [List.find?_cons_of_neg (by simpa [first.1] using hne)]
      exact ih knows

/-- A key that is passed over leaves no trace. -/
theorem fromFields_insert {name : String}
    (passed : ∀ part v, f.storeNamed part name v = .ok part) (value : Json) (start : σ)
    (entries : Entries Json) :
    f.fromFields start (entries.insert name value) = f.fromFields start entries := by
  induction entries generalizing start with
  | nil => simp only [Entries.insert, RecordFormat.fromFields, passed]
  | cons e entries ih =>
    obtain ⟨k, v⟩ := e
    rw [Entries.insert]
    split
    · rw [RecordFormat.fromFields, passed]
    · split
      · rename_i heq
        subst heq
        simp only [RecordFormat.fromFields, passed]
      · simp only [RecordFormat.fromFields, ih]

theorem fromFields_congr {name : String} {v v' : Json}
    (same : ∀ part, f.storeNamed part name v' = f.storeNamed part name v)
    (before after : Entries Json) (start : σ) :
    f.fromFields start (before ++ (name, v') :: after) =
      f.fromFields start (before ++ (name, v) :: after) := by
  induction before generalizing start with
  | nil => simp only [List.nil_append, RecordFormat.fromFields, same]
  | cons e before ih => simp only [List.cons_append, RecordFormat.fromFields, ih]

theorem Follows.fromPositions_congr (h : Follows known fields) {before after : List Json}
    {name : String} {v v' : Json} (knows : known[before.length]? = some (name, schema))
    (within : Adds schema v v') (length : Nat) (part : σ) :
    f.fromPositions length fields part (before ++ v' :: after) =
      f.fromPositions length fields part (before ++ v :: after) := by
  induction h generalizing before part with
  | nil => cases knows
  | @cons k field known fields first _ ih =>
    cases before with
    | nil =>
      obtain rfl : k = (name, schema) := Option.some.inj knows
      simp only [List.nil_append, RecordFormat.fromPositions, first.2 part v v' within]
    | cons u before =>
      simp only [List.cons_append, RecordFormat.fromPositions]
      split
      · exact ih knows _
      · rfl

/-- A decoder of records ignores unknown keys, and what its fields ignore. -/
theorem ignores_record (h : Follows known f.fields) (start : σ) :
    Ignores (.record known) (decodeRecord f start) := by
  intro v v' ha
  cases ha with
  | key value unknown =>
    refine fromFields_insert (fun part v => ?_) value start _
    rw [RecordFormat.storeNamed, h.find?_of_unknown unknown]
  | field knows within =>
    obtain ⟨field, hfind, hfield⟩ := h.find?_of_known knows
    refine fromFields_congr (fun part => ?_) _ _ start
    simp only [RecordFormat.storeNamed, hfind, hfield part _ _ within]
  | position knows within =>
    show f.fromPositions _ f.fields start _ = f.fromPositions _ f.fields start _
    rw [List.length_append, List.length_append]
    exact h.fromPositions_congr knows within _ start

/-- The schema of a record whose fields hold no records. -/
def Schema.flat (f : RecordFormat Json σ) : Schema :=
  .record (f.fields.map fun field => (field.name, .plain))

theorem ignores_flat (f : RecordFormat Json σ) (start : σ) :
    Ignores (.flat f) (decodeRecord f start) :=
  ignores_record (List.forall₂_map_left_iff.mpr <| List.forall₂_same.mpr fun _ _ =>
    ⟨rfl, fun _ => ignores_plain _⟩) start

end Records

end CursorPaging.Json
