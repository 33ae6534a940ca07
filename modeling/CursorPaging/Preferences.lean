import CursorPaging.Error
import CursorPaging.Json.Decode

/-!
# Preferences

What a user chooses for a table: the page size among those offered, and which columns are shown in
which order. `Preferences.check` refuses choices that a table cannot follow.
-/

namespace CursorPaging

/-- The page size of a table for which none was chosen. -/
def defaultPageSize : Nat := 20

/-! ## Columns -/

/-- A column in the chosen order, and whether it is shown. -/
structure ColumnChoice where
  id : String
  visible : Bool
  deriving DecidableEq

namespace ColumnChoice

/-- The JSON form. -/
def toJson (c : ColumnChoice) : Json := .object [("id", .str c.id), ("visible", .bool c.visible)]

/-- The parts of a choice read so far. -/
structure Parts where
  id : Option String
  visible : Option Bool

/-- The format of a choice. -/
def format : RecordFormat Json Parts where
  name := "ContentDisplayItem"
  fields :=
    [⟨"id", false, fun p v => do return { p with id := some (← Json.decodeString v) }⟩,
     ⟨"visible", false, fun p v => do return { p with visible := some (← Json.decodeBool v) }⟩]

/-- The choice of a JSON form. -/
def ofJson (v : Json) : Except DecodeError ColumnChoice := do
  let p ← Json.decodeRecord format ⟨none, none⟩ v
  return ⟨← required "id" p.id, ← required "visible" p.visible⟩

end ColumnChoice

/-- A column that can be chosen, and whether it is shown whatever is chosen. -/
structure ColumnOption where
  id : String
  label : String
  alwaysVisible : Bool
  deriving DecidableEq

namespace ColumnOption

/-- A column that can be hidden. -/
def hideable (id label : String) : ColumnOption := ⟨id, label, false⟩

/-- The JSON form. -/
def toJson (o : ColumnOption) : Json :=
  .object [("id", .str o.id), ("label", .str o.label), ("alwaysVisible", .bool o.alwaysVisible)]

/-- The parts of an option read so far. -/
structure Parts where
  id : Option String
  label : Option String
  alwaysVisible : Option Bool

/-- The format of an option. -/
def format : RecordFormat Json Parts where
  name := "ContentDisplayOption"
  fields :=
    [⟨"id", false, fun p v => do return { p with id := some (← Json.decodeString v) }⟩,
     ⟨"label", false, fun p v => do return { p with label := some (← Json.decodeString v) }⟩,
     ⟨"alwaysVisible", true, fun p v => do
        return { p with alwaysVisible := some (← Json.decodeBool v) }⟩]

/-- The option of a JSON form. -/
def ofJson (v : Json) : Except DecodeError ColumnOption := do
  let p ← Json.decodeRecord format ⟨none, none, none⟩ v
  return ⟨← required "id" p.id, ← required "label" p.label, p.alwaysVisible.getD false⟩

end ColumnOption

/-! ## Page sizes -/

/-- A page size that is offered. -/
structure PageSizeOption where
  value : Nat
  label : String
  deriving DecidableEq

namespace PageSizeOption

/-- The JSON form. -/
def toJson (o : PageSizeOption) : Json := .object [("value", .nat o.value), ("label", .str o.label)]

/-- The parts of a page size read so far. -/
structure Parts where
  value : Option Nat
  label : Option String

/-- The format of a page size. -/
def format : RecordFormat Json Parts where
  name := "PageSizeOption"
  fields :=
    [⟨"value", false, fun p v => do return { p with value := some (← Json.decodeSize v) }⟩,
     ⟨"label", false, fun p v => do return { p with label := some (← Json.decodeString v) }⟩]

/-- The page size of a JSON form. -/
def ofJson (v : Json) : Except DecodeError PageSizeOption := do
  let p ← Json.decodeRecord format ⟨none, none⟩ v
  return ⟨← required "value" p.value, ← required "label" p.label⟩

end PageSizeOption

/-- The page sizes that are offered. -/
structure PageSizes where
  title : String
  options : List PageSizeOption
  deriving DecidableEq

namespace PageSizes

/-- Offers the given sizes. -/
def ofList (sizes : List Nat) : PageSizes :=
  ⟨"Page size", sizes.map fun n => ⟨n, Text.decimal n ++ " resources"⟩⟩

/-- The sizes that are offered unless others are configured. -/
def defaultSizes : List Nat := [5, 10, 20, 50, 100]

/-- The offer of the default sizes. -/
def default : PageSizes := ofList defaultSizes

/-- Whether a size is offered. -/
def contains (ps : PageSizes) (size : Nat) : Bool := ps.options.any fun o => o.value == size

/-- The JSON form. -/
def toJson (ps : PageSizes) : Json :=
  .object [("title", .str ps.title), ("options", .arr (ps.options.map PageSizeOption.toJson))]

/-- The parts of an offer read so far. -/
structure Parts where
  title : Option String
  options : Option (List PageSizeOption)

/-- The format of an offer. -/
def format : RecordFormat Json Parts where
  name := "PageSizePreference"
  fields :=
    [⟨"title", false, fun p v => do return { p with title := some (← Json.decodeString v) }⟩,
     ⟨"options", false, fun p v => do
        return { p with options := some (← Json.decodeList PageSizeOption.ofJson v) }⟩]

/-- The offer of a JSON form. -/
def ofJson (v : Json) : Except DecodeError PageSizes := do
  let p ← Json.decodeRecord format ⟨none, none⟩ v
  return ⟨← required "title" p.title, ← required "options" p.options⟩

end PageSizes

/-! ## Preferences -/

/-- What a user chooses for a table. -/
structure Preferences where
  pageSize : Nat
  /-- The columns in the chosen order; none stands for every column. -/
  columns : List ColumnChoice
  custom : Option String
  deriving DecidableEq

namespace Preferences

/-- The preferences of a user who chose nothing. -/
def default : Preferences := ⟨defaultPageSize, [], none⟩

/-- The preferences that show every column in order. -/
def forColumns (options : List ColumnOption) : Preferences :=
  { default with columns := options.map fun o => ⟨o.id, true⟩ }

/-- The preferences with another page size. -/
def withPageSize (p : Preferences) (size : Nat) : Preferences := { p with pageSize := size }

/-- The JSON form, without a custom value where there is none. -/
def toJson (p : Preferences) : Json :=
  .object <|
    [("pageSize", .nat p.pageSize), ("contentDisplay", .arr (p.columns.map ColumnChoice.toJson))] ++
      (p.custom.toList.map fun c => ("custom", .str c))

/-- The parts of preferences read so far. -/
structure Parts where
  pageSize : Option Nat
  columns : Option (List ColumnChoice)
  custom : Option String

/-- The format of preferences. -/
def format : RecordFormat Json Parts where
  name := "Preferences"
  fields :=
    [⟨"pageSize", false, fun p v => do return { p with pageSize := some (← Json.decodeSize v) }⟩,
     ⟨"contentDisplay", true, fun p v => do
        return { p with columns := some (← Json.decodeList ColumnChoice.ofJson v) }⟩,
     ⟨"custom", true, fun p v => do
        return { p with custom := ← Json.decodeOption Json.decodeString v }⟩]

/-- The preferences of a JSON form. -/
def ofJson (v : Json) : Except DecodeError Preferences := do
  let p ← Json.decodeRecord format ⟨none, none, none⟩ v
  return ⟨← required "pageSize" p.pageSize, p.columns.getD [], p.custom⟩

/-- The first id that repeats one of those before it, given those seen already. -/
def firstRepeated (seen : List String) : List String → Option String
  | [] => none
  | id :: ids => if seen.contains id then some id else firstRepeated (id :: seen) ids

/-- Refuses preferences whose page size is zero or not offered, or that name a column twice. -/
def check (p : Preferences) (offered : PageSizes) : Except Error Unit :=
  if p.pageSize = 0 then .error (.invalidValue "page_size" "must be positive")
  else if !offered.options.isEmpty && !offered.contains p.pageSize then
    .error (.invalidValue "page_size" (Text.decimal p.pageSize ++ " is not an offered page size"))
  else
    match firstRepeated [] (p.columns.map (·.id)) with
    | some id => .error (.invalidValue "content_display" ("duplicate column '" ++ id ++ "'"))
    | none => .ok ()

/-- Whether a column is shown whatever is chosen. -/
def isAlwaysVisible (options : List ColumnOption) (id : String) : Bool :=
  options.any fun o => o.id == id && o.alwaysVisible

/-- The ids of the columns that are shown, in order. -/
def visibleColumns (p : Preferences) (options : List ColumnOption) : List String :=
  if p.columns.isEmpty then options.map (·.id)
  else (p.columns.filter fun c => c.visible || isAlwaysVisible options c.id).map (·.id)

end Preferences

end CursorPaging
