import CursorPaging.Http.RateLimit
import CursorPaging.Preferences
import CursorPaging.Query
import CursorPaging.Proofs.Json.Schema

/-!
# Payloads that are saved and read again

What is saved as JSON reads back as it was: from the written text, with keys added that nothing is
known of, and from the array of the fields (`Codec.Lossless`). Whether the value of a field is read
back is one question, and what a record makes of its fields is another, so that each is answered on
its own:

* `decodeBelow_nat`, `decodeList_map`, `decodeOption_optional`: values of fields;
* `ofJson_object`, `ofJson_array` of each record: its fields, whatever values were read as them;
* `laws` of each payload: both of them, together with `Ignores` and `Plain`;
* `Codec.Laws.lossless`: what follows from the laws for any type.
-/

namespace CursorPaging

namespace Json

variable {α : Type}

/-! ## Values of fields -/

theorem decodeBelow_nat {limit n : Nat} (h : n < limit) (name : String) :
    decodeBelow limit name (.nat n) = .ok n := by
  have hn : 0 ≤ (n : Int) ∧ (n : Int) < limit := ⟨Int.natCast_nonneg n, Int.ofNat_lt.mpr h⟩
  show (if 0 ≤ (n : Int) ∧ (n : Int) < limit then Except.ok (n : Int).toNat else _) = _
  rw [if_pos hn, Int.toNat_natCast]

/-- A list is read back if its items are. -/
theorem decodeList_map {toJson : α → Json} {decode : Json → Except DecodeError α} {xs : List α}
    (h : ∀ x ∈ xs, decode (toJson x) = .ok x) :
    decodeList decode (.arr (xs.map toJson)) = .ok xs := by
  show decodeItems decode (xs.map toJson) = .ok xs
  induction xs with
  | nil => rfl
  | cons x xs ih =>
    obtain ⟨hx, hxs⟩ := List.forall_mem_cons.mp h
    rw [List.map_cons, decodeItems, hx, ih hxs]
    rfl

theorem decodeOption_optional (o : Option String) :
    decodeOption decodeString (.optional o) = .ok o := by
  cases o <;> rfl

/-- The order of the keys is a matter of the keys only, so that it can be computed. -/
theorem object_eq {fields : List (String × Json)} {es : Entries Json} (keys : List String)
    (hkeys : es.map Prod.fst = keys) (hlt : keys.Pairwise (· < ·)) (hp : fields.Perm es) :
    Json.object fields = .obj es :=
  congrArg Json.obj ((Entries.sorted_of_keys keys hkeys hlt).ofList_perm hp)

theorem plain_nat {room n : Nat} (h : n < Text.wordLimit) : Plain room (.nat n) :=
  .integer ⟨by omega, Int.ofNat_lt.mpr h⟩

theorem plain_optional {room : Nat} (o : Option String) : Plain room (.optional o) := by
  cases o with
  | none => exact .null
  | some s => exact .str s

theorem plain_object {room : Nat} {fields : List (String × Json)}
    (h : ∀ f ∈ fields, Plain room f.2) : Plain (room + 1) (.object fields) :=
  .obj (Entries.sorted_ofList fields) fun f hf => h f (Entries.mem_ofList hf)

theorem plain_list {room : Nat} {toJson : α → Json} {xs : List α}
    (h : ∀ x ∈ xs, Plain room (toJson x)) : Plain (room + 1) (.arr (xs.map toJson)) := by
  refine .arr fun v hv => ?_
  obtain ⟨x, hx, rfl⟩ := List.mem_map.mp hv
  exact h x hx

/-! ## Codecs -/

/-- How the values of a type are written and read. -/
structure Codec (α : Type) where
  toJson : α → Json
  /-- The fields with their names, in declared order. -/
  fields : α → List (String × Json)
  ofJson : Json → Except DecodeError α
  schema : Schema

namespace Codec

variable {c : Codec α} {valid : α → Prop}

/-- The array of the fields. -/
def toArray (c : Codec α) (x : α) : Json := .arr ((c.fields x).map Prod.snd)

/-- A JSON value is read as the given one, also with unknown keys, and so is its written form. -/
structure Reads (c : Codec α) (v : Json) (x : α) : Prop where
  value : ∀ v', Extends c.schema v v' → c.ofJson v' = .ok x
  text : (Json.ofString? v.compact).map c.ofJson = some (.ok x)

/-- Every valid value is read back from its JSON form, and from the array of its fields; unknown
keys make no difference in any JSON value. -/
structure Lossless (c : Codec α) (valid : α → Prop) : Prop where
  object : ∀ x, valid x → c.Reads (c.toJson x) x
  array : ∀ x, valid x → c.Reads (c.toArray x) x
  unknown : ∀ v v', Extends c.schema v v' → c.ofJson v' = c.ofJson v

/-- What a codec has to keep for its values not to get lost: a decoder that follows the schema, no
fields in the JSON form but those of the array, and both of them read back. -/
structure Laws (c : Codec α) (valid : α → Prop) : Prop where
  ignores : Ignores c.schema c.ofJson
  written : ∀ x, ∃ fields, c.toJson x = .object fields ∧ fields ⊆ c.fields x
  plain : ∀ x, valid x → ∀ f ∈ c.fields x, Plain (maxDepth - 1) f.2
  object : ∀ x, valid x → c.ofJson (c.toJson x) = .ok x
  array : ∀ x, valid x → c.ofJson (c.toArray x) = .ok x

/-- A value is read back from its text, in any order of its keys and with unknown ones. -/
theorem reads (ignores : Ignores c.schema c.ofJson) {v : Json} {x : α} (plain : Plain maxDepth v)
    (h : c.ofJson v = .ok x) : c.Reads v x where
  value _ he := (ignores.extends he).trans h
  text := by rw [ofString?_compact plain, Option.map_some, h]

/-- A codec that follows the laws loses nothing. -/
theorem Laws.lossless (h : c.Laws valid) : c.Lossless valid where
  object x hx := by
    obtain ⟨fields, hfields, hsub⟩ := h.written x
    refine reads h.ignores ?_ (h.object x hx)
    rw [hfields]
    exact plain_object fun f hf => h.plain x hx f (hsub hf)
  array x hx := by
    refine reads h.ignores (.arr fun v hv => ?_) (h.array x hx)
    obtain ⟨f, hf, rfl⟩ := List.mem_map.mp hv
    exact h.plain x hx f hf
  unknown _ _ he := h.ignores.extends he

end Codec

end Json

open Json (Codec Plain Schema Ignores)

/-! ## Columns -/

namespace ColumnChoice

variable {c : ColumnChoice} {room : Nat}

theorem toJson_eq : c.toJson = .obj [("id", .str c.id), ("visible", .bool c.visible)] :=
  Json.object_eq ["id", "visible"] rfl (by decide) (.refl _)

theorem ofJson_toJson : ofJson c.toJson = .ok c := by
  rw [toJson_eq]
  rfl

theorem plain_toJson : Plain (room + 1) c.toJson :=
  Json.plain_object (by simp [Plain.str, Plain.bool])

theorem ignores_ofJson : Ignores (.flat format) ofJson := (Json.ignores_flat _ _).bind _

end ColumnChoice

namespace ColumnOption

/-- How a column that can be chosen is written and read. -/
def codec : Codec ColumnOption where
  toJson := toJson
  fields o := [("id", .str o.id), ("label", .str o.label), ("alwaysVisible", .bool o.alwaysVisible)]
  ofJson := ofJson
  schema := .flat format

theorem toJson_eq (o : ColumnOption) :
    o.toJson = .obj [("alwaysVisible", .bool o.alwaysVisible), ("id", .str o.id),
      ("label", .str o.label)] :=
  Json.object_eq ["alwaysVisible", "id", "label"] rfl (by decide)
    (.trans (.cons _ (.swap _ _ _)) (.swap _ _ _))

theorem laws : codec.Laws fun _ => True where
  ignores := (Json.ignores_flat _ _).bind _
  written _ := ⟨_, rfl, List.Subset.refl _⟩
  plain o _ := by simp [codec, Plain.str, Plain.bool]
  object o _ := by
    show ofJson o.toJson = _
    rw [toJson_eq]
    rfl
  array _ _ := rfl

end ColumnOption

/-! ## Page sizes -/

namespace PageSizeOption

variable {o : PageSizeOption} {room : Nat} {size : Json}

theorem toJson_eq : o.toJson = .obj [("label", .str o.label), ("value", .nat o.value)] :=
  Json.object_eq ["label", "value"] rfl (by decide) (.swap _ _ _)

theorem ofJson_object (h : Json.decodeSize size = .ok o.value) :
    ofJson (.obj [("label", .str o.label), ("value", size)]) = .ok o := by
  simp [ofJson, Json.decodeRecord, RecordFormat.fromFields, RecordFormat.storeNamed, format, h,
    Json.decodeString, required, bind, Except.bind, pure, Except.pure]

theorem ofJson_toJson (h : o.value < Text.wordLimit) : ofJson o.toJson = .ok o := by
  rw [toJson_eq]
  exact ofJson_object (Json.decodeBelow_nat h _)

theorem plain_toJson (h : o.value < Text.wordLimit) : Plain (room + 1) o.toJson :=
  Json.plain_object (by simp [Plain.str, Json.plain_nat h])

theorem ignores_ofJson : Ignores (.flat format) ofJson := (Json.ignores_flat _ _).bind _

end PageSizeOption

namespace PageSizes

variable {ps : PageSizes} {offers : Json}

/-- Every size fits a word. -/
def Valid (ps : PageSizes) : Prop := ∀ o ∈ ps.options, o.value < Text.wordLimit

/-- How the page sizes on offer are written and read. -/
def codec : Codec PageSizes where
  toJson := toJson
  fields ps := [("title", .str ps.title), ("options", .arr (ps.options.map PageSizeOption.toJson))]
  ofJson := ofJson
  schema := .record [("title", .plain), ("options", .list (.flat PageSizeOption.format))]

theorem toJson_eq (ps : PageSizes) : ps.toJson =
    .obj [("options", .arr (ps.options.map PageSizeOption.toJson)), ("title", .str ps.title)] :=
  Json.object_eq ["options", "title"] rfl (by decide) (.swap _ _ _)

theorem ofJson_object (h : Json.decodeList PageSizeOption.ofJson offers = .ok ps.options) :
    ofJson (.obj [("options", offers), ("title", .str ps.title)]) = .ok ps := by
  simp [ofJson, Json.decodeRecord, RecordFormat.fromFields, RecordFormat.storeNamed, format, h,
    Json.decodeString, required, bind, Except.bind, pure, Except.pure]

theorem ofJson_array (h : Json.decodeList PageSizeOption.ofJson offers = .ok ps.options) :
    ofJson (.arr [.str ps.title, offers]) = .ok ps := by
  simp [ofJson, Json.decodeRecord, RecordFormat.fromItems, RecordFormat.fromPositions, format, h,
    Json.decodeString, required, bind, Except.bind, pure, Except.pure]

theorem decodeList_options (h : ps.Valid) : Json.decodeList PageSizeOption.ofJson
    (.arr (ps.options.map PageSizeOption.toJson)) = .ok ps.options :=
  Json.decodeList_map fun o ho => PageSizeOption.ofJson_toJson (h o ho)

theorem ignores_ofJson : Ignores codec.schema ofJson := by
  refine (Json.ignores_record ?_ _).bind _
  exact .cons ⟨rfl, fun _ => Json.ignores_plain _⟩ <|
    .cons ⟨rfl, fun _ => (Json.ignores_list PageSizeOption.ignores_ofJson).bind _⟩ .nil

theorem laws : codec.Laws Valid where
  ignores := ignores_ofJson
  written _ := ⟨_, rfl, List.Subset.refl _⟩
  plain ps h := by
    have hoptions : Plain (Json.maxDepth - 1) (.arr (ps.options.map PageSizeOption.toJson)) :=
      Json.plain_list fun o ho => PageSizeOption.plain_toJson (h o ho)
    simpa [codec, Plain.str] using hoptions
  object ps h := by
    show ofJson ps.toJson = _
    rw [toJson_eq]
    exact ofJson_object (decodeList_options h)
  array ps h := ofJson_array (decodeList_options h)

end PageSizes

/-! ## Preferences -/

namespace Preferences

variable {p : Preferences} {size columns custom : Json}

/-- The page size fits a word. -/
def Valid (p : Preferences) : Prop := p.pageSize < Text.wordLimit

/-- How preferences are written and read. -/
def codec : Codec Preferences where
  toJson := toJson
  fields p := [("pageSize", .nat p.pageSize),
    ("contentDisplay", .arr (p.columns.map ColumnChoice.toJson)), ("custom", .optional p.custom)]
  ofJson := ofJson
  schema := .record [("pageSize", .plain), ("contentDisplay", .list (.flat ColumnChoice.format)),
    ("custom", .plain)]

theorem toJson_eq (p : Preferences) : p.toJson =
    .obj (("contentDisplay", .arr (p.columns.map ColumnChoice.toJson)) ::
      (p.custom.toList.map fun c => ("custom", .str c)) ++ [("pageSize", .nat p.pageSize)]) := by
  obtain ⟨size, columns, _ | c⟩ := p
  · exact Json.object_eq ["contentDisplay", "pageSize"] rfl (by decide) (.swap _ _ _)
  · exact Json.object_eq ["contentDisplay", "custom", "pageSize"] rfl (by decide)
      (.trans (.swap _ _ _) (.cons _ (.swap _ _ _)))

theorem ofJson_object (hcolumns : Json.decodeList ColumnChoice.ofJson columns = .ok p.columns)
    (hsize : Json.decodeSize size = .ok p.pageSize) :
    ofJson (.obj (("contentDisplay", columns) ::
      (p.custom.toList.map fun c => ("custom", .str c)) ++ [("pageSize", size)])) = .ok p := by
  obtain ⟨_, _, _ | c⟩ := p <;>
    simp [ofJson, Json.decodeRecord, RecordFormat.fromFields, RecordFormat.storeNamed, format,
      hsize, hcolumns, Json.decodeOption, Json.decodeString, Except.map, required, bind,
      Except.bind, pure, Except.pure]

theorem ofJson_array (hsize : Json.decodeSize size = .ok p.pageSize)
    (hcolumns : Json.decodeList ColumnChoice.ofJson columns = .ok p.columns)
    (hcustom : Json.decodeOption Json.decodeString custom = .ok p.custom) :
    ofJson (.arr [size, columns, custom]) = .ok p := by
  simp [ofJson, Json.decodeRecord, RecordFormat.fromItems, RecordFormat.fromPositions, format,
    hsize, hcolumns, hcustom, required, bind, Except.bind, pure, Except.pure]

theorem decodeList_columns (p : Preferences) : Json.decodeList ColumnChoice.ofJson
    (.arr (p.columns.map ColumnChoice.toJson)) = .ok p.columns :=
  Json.decodeList_map fun _ _ => ColumnChoice.ofJson_toJson

theorem ignores_ofJson : Ignores codec.schema ofJson := by
  refine (Json.ignores_record ?_ _).bind _
  exact .cons ⟨rfl, fun _ => Json.ignores_plain _⟩ <|
    .cons ⟨rfl, fun _ => (Json.ignores_list ColumnChoice.ignores_ofJson).bind _⟩ <|
    .cons ⟨rfl, fun _ => Json.ignores_plain _⟩ .nil

theorem laws : codec.Laws Valid where
  ignores := ignores_ofJson
  written p := by
    refine ⟨_, rfl, ?_⟩
    obtain ⟨_, _, _ | c⟩ := p <;> simp [codec, Json.optional]
  plain p h := by
    have hcolumns : Plain (Json.maxDepth - 1) (.arr (p.columns.map ColumnChoice.toJson)) :=
      Json.plain_list fun c _ => ColumnChoice.plain_toJson
    simpa [codec, Json.plain_nat h, Json.plain_optional] using hcolumns
  object p h := by
    show ofJson p.toJson = _
    rw [toJson_eq]
    exact ofJson_object (decodeList_columns p) (Json.decodeBelow_nat h _)
  array p h :=
    ofJson_array (Json.decodeBelow_nat h _) (decodeList_columns p) (Json.decodeOption_optional _)

end Preferences

/-! ## Orders -/

theorem SortDirection.ofJson_toJson (d : SortDirection) : ofJson d.toJson = .ok d := by
  cases d <;> rfl

namespace SortToken

variable {t : SortToken} {direction : Json}

/-- How a sort token is written and read. -/
def codec : Codec SortToken where
  toJson := toJson
  fields t := [("Key", .str t.key), ("Operator", t.direction.toJson)]
  ofJson := ofJson
  schema := .flat format

theorem toJson_eq (t : SortToken) :
    t.toJson = .obj [("Key", .str t.key), ("Operator", t.direction.toJson)] :=
  Json.object_eq ["Key", "Operator"] rfl (by decide) (.refl _)

theorem ofJson_object (h : SortDirection.ofJson direction = .ok t.direction) :
    ofJson (.obj [("Key", .str t.key), ("Operator", direction)]) = .ok t := by
  simp [ofJson, Json.decodeRecord, RecordFormat.fromFields, RecordFormat.storeNamed, format, h,
    Json.decodeString, required, bind, Except.bind, pure, Except.pure]

theorem ofJson_array (h : SortDirection.ofJson direction = .ok t.direction) :
    ofJson (.arr [.str t.key, direction]) = .ok t := by
  simp [ofJson, Json.decodeRecord, RecordFormat.fromItems, RecordFormat.fromPositions, format, h,
    Json.decodeString, required, bind, Except.bind, pure, Except.pure]

theorem laws : codec.Laws fun _ => True where
  ignores := (Json.ignores_flat _ _).bind _
  written _ := ⟨_, rfl, List.Subset.refl _⟩
  plain t _ := by simp [codec, SortDirection.toJson, Plain.str]
  object t _ := by
    show ofJson t.toJson = _
    rw [toJson_eq]
    exact ofJson_object t.direction.ofJson_toJson
  array t _ := ofJson_array t.direction.ofJson_toJson

end SortToken

namespace Sorting

/-- How an order is written and read. -/
def codec : Codec Sorting where
  toJson := toJson
  fields s := [("column", .str s.column), ("descending", .bool s.descending)]
  ofJson := ofJson
  schema := .flat format

theorem toJson_eq (s : Sorting) :
    s.toJson = .obj [("column", .str s.column), ("descending", .bool s.descending)] :=
  Json.object_eq ["column", "descending"] rfl (by decide) (.refl _)

theorem laws : codec.Laws fun _ => True where
  ignores := (Json.ignores_flat _ _).bind _
  written _ := ⟨_, rfl, List.Subset.refl _⟩
  plain s _ := by simp [codec, Plain.str, Plain.bool]
  object s _ := by
    show ofJson s.toJson = _
    rw [toJson_eq]
    rfl
  array _ _ := rfl

end Sorting

/-! ## Filters -/

theorem Join.ofJson_toJson (j : Join) : ofJson j.toJson = .ok j := by
  cases j <;> rfl

namespace FilterToken

/-- How a filter as entered is written and read. -/
def codec : Codec FilterToken where
  toJson := toJson
  fields t :=
    [("propertyKey", .str t.property), ("operator", .str t.operator), ("value", .str t.value)]
  ofJson := ofJson
  schema := .flat format

theorem toJson_eq (t : FilterToken) : t.toJson =
    .obj [("operator", .str t.operator), ("propertyKey", .str t.property),
      ("value", .str t.value)] :=
  Json.object_eq ["operator", "propertyKey", "value"] rfl (by decide) (.swap _ _ _)

theorem ofJson_toJson (t : FilterToken) : ofJson t.toJson = .ok t := by
  rw [toJson_eq]
  rfl

theorem plain_fields {room : Nat} (t : FilterToken) : ∀ f ∈ codec.fields t, Plain room f.2 := by
  simp [codec, Plain.str]

theorem ignores_ofJson : Ignores (.flat format) ofJson := (Json.ignores_flat _ _).bind _

theorem laws : codec.Laws fun _ => True where
  ignores := ignores_ofJson
  written _ := ⟨_, rfl, List.Subset.refl _⟩
  plain t _ := t.plain_fields
  object t _ := t.ofJson_toJson
  array _ _ := rfl

end FilterToken

namespace FilterQuery

variable {q : FilterQuery} {tokens operation : Json}

/-- How a query is written and read. -/
def codec : Codec FilterQuery where
  toJson := toJson
  fields q :=
    [("tokens", .arr (q.tokens.map FilterToken.toJson)), ("operation", q.operation.toJson)]
  ofJson := ofJson
  schema := .record [("tokens", .list (.flat FilterToken.format)), ("operation", .plain)]

theorem toJson_eq (q : FilterQuery) :
    q.toJson = .obj [("operation", q.operation.toJson),
      ("tokens", .arr (q.tokens.map FilterToken.toJson))] :=
  Json.object_eq ["operation", "tokens"] rfl (by decide) (.swap _ _ _)

theorem ofJson_object (hoperation : Join.ofJson operation = .ok q.operation)
    (htokens : Json.decodeList FilterToken.ofJson tokens = .ok q.tokens) :
    ofJson (.obj [("operation", operation), ("tokens", tokens)]) = .ok q := by
  simp [ofJson, Json.decodeRecord, RecordFormat.fromFields, RecordFormat.storeNamed, format,
    hoperation, htokens, required, bind, Except.bind, pure, Except.pure]

theorem ofJson_array (htokens : Json.decodeList FilterToken.ofJson tokens = .ok q.tokens)
    (hoperation : Join.ofJson operation = .ok q.operation) :
    ofJson (.arr [tokens, operation]) = .ok q := by
  simp [ofJson, Json.decodeRecord, RecordFormat.fromItems, RecordFormat.fromPositions, format,
    hoperation, htokens, required, bind, Except.bind, pure, Except.pure]

theorem decodeList_tokens (q : FilterQuery) : Json.decodeList FilterToken.ofJson
    (.arr (q.tokens.map FilterToken.toJson)) = .ok q.tokens :=
  Json.decodeList_map fun t _ => t.ofJson_toJson

theorem ignores_ofJson : Ignores codec.schema ofJson := by
  refine (Json.ignores_record ?_ _).bind _
  exact .cons ⟨rfl, fun _ => (Json.ignores_list FilterToken.ignores_ofJson).bind _⟩ <|
    .cons ⟨rfl, fun _ => Json.ignores_plain _⟩ .nil

theorem laws : codec.Laws fun _ => True where
  ignores := ignores_ofJson
  written _ := ⟨_, rfl, List.Subset.refl _⟩
  plain q _ := by
    have htokens : Plain (Json.maxDepth - 1) (.arr (q.tokens.map FilterToken.toJson)) :=
      Json.plain_list fun t _ => Json.plain_object t.plain_fields
    simpa [codec, Join.toJson, Plain.str] using htokens
  object q _ := by
    show ofJson q.toJson = _
    rw [toJson_eq]
    exact ofJson_object q.operation.ofJson_toJson q.decodeList_tokens
  array q _ := ofJson_array q.decodeList_tokens q.operation.ofJson_toJson

end FilterQuery

namespace WireToken

/-- How a filter as sent is written and read. -/
def codec : Codec WireToken where
  toJson := toJson
  fields t := [("Operator", .str t.operator), ("Value", .str t.value)]
  ofJson := ofJson
  schema := .flat format

theorem toJson_eq (t : WireToken) :
    t.toJson = .obj [("Operator", .str t.operator), ("Value", .str t.value)] :=
  Json.object_eq ["Operator", "Value"] rfl (by decide) (.refl _)

theorem laws : codec.Laws fun _ => True where
  ignores := (Json.ignores_flat _ _).bind _
  written _ := ⟨_, rfl, List.Subset.refl _⟩
  plain t _ := by simp [codec, Plain.str]
  object t _ := by
    show ofJson t.toJson = _
    rw [toJson_eq]
    rfl
  array _ _ := rfl

end WireToken

/-! ## Rate limits -/

namespace Http.RateLimit

variable {r : RateLimit} {rate burst : Json}

/-- Both bounds fit half a word. -/
structure Valid (r : RateLimit) : Prop where
  rate : r.requestsPerSecond < Nat.pow 2 32
  burst : r.burstSize < Nat.pow 2 32

/-- How a rate limit is written and read. -/
def codec : Codec RateLimit where
  toJson := toJson
  fields r := [("requests_per_second", .nat r.requestsPerSecond), ("burst_size", .nat r.burstSize)]
  ofJson := ofJson
  schema := .flat format

theorem toJson_eq (r : RateLimit) : r.toJson =
    .obj [("burst_size", .nat r.burstSize), ("requests_per_second", .nat r.requestsPerSecond)] :=
  Json.object_eq ["burst_size", "requests_per_second"] rfl (by decide) (.swap _ _ _)

theorem ofJson_object (hburst : Json.decodeHalfWord burst = .ok r.burstSize)
    (hrate : Json.decodeHalfWord rate = .ok r.requestsPerSecond) :
    ofJson (.obj [("burst_size", burst), ("requests_per_second", rate)]) = .ok r := by
  simp [ofJson, Json.decodeRecord, RecordFormat.fromFields, RecordFormat.storeNamed, format,
    hburst, hrate, Parts.finish, required, bind, Except.bind, pure, Except.pure]

theorem ofJson_array (hrate : Json.decodeHalfWord rate = .ok r.requestsPerSecond)
    (hburst : Json.decodeHalfWord burst = .ok r.burstSize) :
    ofJson (.arr [rate, burst]) = .ok r := by
  simp [ofJson, Json.decodeRecord, RecordFormat.fromItems, RecordFormat.fromPositions, format,
    hburst, hrate, Parts.finish, required, bind, Except.bind, pure, Except.pure]

theorem halfWord_lt {n : Nat} (h : n < Nat.pow 2 32) : n < Text.wordLimit :=
  Nat.lt_trans h (by decide)

theorem laws : codec.Laws Valid where
  ignores := (Json.ignores_flat _ _).bind _
  written _ := ⟨_, rfl, List.Subset.refl _⟩
  plain r h := by
    simp [codec, Json.plain_nat (halfWord_lt h.rate), Json.plain_nat (halfWord_lt h.burst)]
  object r h := by
    show ofJson r.toJson = _
    rw [toJson_eq]
    exact ofJson_object (Json.decodeBelow_nat h.burst _) (Json.decodeBelow_nat h.rate _)
  array r h := ofJson_array (Json.decodeBelow_nat h.rate _) (Json.decodeBelow_nat h.burst _)

end Http.RateLimit

/-! ## All payloads -/

/-- Every payload that is saved is read back as it was. -/
theorem payloads_lossless :
    Preferences.codec.Lossless Preferences.Valid ∧ PageSizes.codec.Lossless PageSizes.Valid ∧
      ColumnOption.codec.Lossless (fun _ => True) ∧ FilterQuery.codec.Lossless (fun _ => True) ∧
      FilterToken.codec.Lossless (fun _ => True) ∧ Sorting.codec.Lossless (fun _ => True) ∧
      SortToken.codec.Lossless (fun _ => True) ∧ WireToken.codec.Lossless (fun _ => True) ∧
      Http.RateLimit.codec.Lossless Http.RateLimit.Valid :=
  ⟨Preferences.laws.lossless, PageSizes.laws.lossless, ColumnOption.laws.lossless,
    FilterQuery.laws.lossless, FilterToken.laws.lossless, Sorting.laws.lossless,
    SortToken.laws.lossless, WireToken.laws.lossless, Http.RateLimit.laws.lossless⟩

/-- The greatest page size, no columns and no custom value. -/
theorem payloads_lossless_greatest :
    Preferences.Valid ⟨Text.wordLimit - 1, [], none⟩ ∧
      Preferences.codec.Reads
        (.obj [("contentDisplay", .arr []), ("pageSize", .nat (Text.wordLimit - 1))])
        ⟨Text.wordLimit - 1, [], none⟩ := by
  have hvalid : Preferences.Valid ⟨Text.wordLimit - 1, [], none⟩ := by
    unfold Preferences.Valid
    decide
  refine ⟨hvalid, ?_⟩
  have hreads := payloads_lossless.1.object _ hvalid
  rwa [show Preferences.codec.toJson _ = _ from Preferences.toJson_eq _] at hreads

end CursorPaging
