import CursorPaging.Listing
import CursorPaging.Proofs.Dictionary
import Mathlib.Data.List.Forall2

/-!
# Responses

A response has to be an object, an error object in it counts more than all else, then come the items
and last the token. `Reads` has one rule for every outcome, and each says of the fields of the
response what has to be true of them, whatever the order in which they are read:

* `ReadItems.decodeItems_eq`, `FirstBad.decodeItems_eq`, `readItems_or_firstBad`: items are all
  read, or one of them is the first that cannot be;
* `Reads.ofResponse_eq`, `exists_reads`: the rules are right, and one of them always applies;
* `ofResponse_eq_iff`: what a response is read as, and that a response made of items and a token is
  read as these.
-/

namespace CursorPaging

variable {α : Type} {item : Json → Except DecodeError α}

/-! ## Items -/

/-- Every value is one item. -/
def ReadItems (item : Json → Except DecodeError α) : List Json → List α → Prop :=
  List.Forall₂ fun v a => item v = .ok a

/-- The first of the values that is no item, and why it is none. -/
def FirstBad (item : Json → Except DecodeError α) (values : List Json) (e : DecodeError) : Prop :=
  ∃ before v after, values = before ++ v :: after ∧ (∀ w ∈ before, ∃ a, item w = .ok a) ∧
    item v = .error e

theorem ReadItems.decodeItems_eq {values : List Json} {items : List α}
    (h : ReadItems item values items) : Json.decodeItems item values = .ok items := by
  induction h with
  | nil => rfl
  | cons hv _ ih =>
    simp only [Json.decodeItems, hv, ih]
    rfl

theorem FirstBad.decodeItems_eq {values : List Json} {e : DecodeError}
    (h : FirstBad item values e) : Json.decodeItems item values = .error e := by
  obtain ⟨before, v, after, rfl, sound, fails⟩ := h
  induction before with
  | nil => simp only [List.nil_append, Json.decodeItems, fails]
  | cons w before ih =>
    obtain ⟨⟨a, ha⟩, hbefore⟩ := List.forall_mem_cons.mp sound
    simp only [List.cons_append, Json.decodeItems, ha, ih hbefore]
    rfl

theorem ReadItems.of_mem {values : List Json} {items : List α} (h : ReadItems item values items)
    {v : Json} (hv : v ∈ values) : ∃ a, item v = .ok a := by
  induction h with
  | nil => cases hv
  | cons hw _ ih =>
    rcases List.mem_cons.mp hv with rfl | hv
    · exact ⟨_, hw⟩
    · exact ih hv

/-- Either all items can be read, or there is a first one that cannot. -/
theorem readItems_or_firstBad (item : Json → Except DecodeError α) (values : List Json) :
    (∃ items, ReadItems item values items) ∨ ∃ e, FirstBad item values e := by
  induction values with
  | nil => exact .inl ⟨[], .nil⟩
  | cons v values ih =>
    cases hv : item v with
    | error e => exact .inr ⟨e, [], v, values, rfl, by simp, hv⟩
    | ok a =>
      rcases ih with ⟨items, hitems⟩ | ⟨e, before, w, after, rfl, sound, fails⟩
      · exact .inl ⟨a :: items, .cons hv hitems⟩
      · exact .inr ⟨e, v :: before, w, after, rfl, List.forall_mem_cons.mpr ⟨⟨a, hv⟩, sound⟩, fails⟩

/-! ## Errors -/

/-- What an error object says; its code may be a number, and both fields may be missing. -/
def errorOf (e : Entries Json) : Error :=
  .api (errorCode (e.get? "code")) (((e.get? "message").bind Json.asString?).getD "")

/-- There is an error object among the fields. -/
def HasError (fields : Entries Json) : Prop := ∃ e, fields.get? "Error" = some (.obj e)

theorem apiError?_of_error {fields e : Entries Json} (h : fields.get? "Error" = some (.obj e)) :
    apiError? (.obj fields) = some (errorOf e) := by
  simp only [apiError?, Json.get?, h]
  rfl

theorem apiError?_of_not_hasError {fields : Entries Json} (h : ¬HasError fields) :
    apiError? (.obj fields) = none := by
  simp only [apiError?, Json.get?]
  cases he : fields.get? "Error" with
  | none => rfl
  | some v =>
    cases v with
    | obj e => exact absurd ⟨e, he⟩ h
    | _ => rfl

namespace ListPage

open ListRequest (nextTokenKey)

/-! ## Outcomes -/

/-- The items that a field holds; it may be missing or null. -/
inductive HoldsItems (item : Json → Except DecodeError α) : Option Json → List α → Prop where
  | missing : HoldsItems item none []
  | null : HoldsItems item (some .null) []
  | array {values : List Json} {items : List α} (each : ReadItems item values items) :
    HoldsItems item (some (.arr values)) items

/-- The token that a field holds; it may be missing or null. -/
inductive HoldsToken : Option Json → Option String → Prop where
  | missing : HoldsToken none none
  | null : HoldsToken (some .null) none
  | text (t : String) : HoldsToken (some (.str t)) (some t)

/-- What a response is read as, with its items under the given key. -/
inductive Reads (item : Json → Except DecodeError α) (key : String) :
    Json → Except Error (ListPage α) → Prop where
  | noObject {body : Json} (plain : body.asObject? = none) :
    Reads item key body (.error (.response "list response is not a JSON object"))
  | refused {fields e : Entries Json} (error : fields.get? "Error" = some (.obj e)) :
    Reads item key (.obj fields) (.error (errorOf e))
  | noArray {fields : Entries Json} {v : Json} (accepted : ¬HasError fields)
      (field : fields.get? key = some v) (notNull : v ≠ .null) (notArray : ∀ vs, v ≠ .arr vs) :
    Reads item key (.obj fields) (.error
      (.response ("expected '" ++ key ++ "' to be an array, got " ++ v.compact)))
  | badItem {fields : Entries Json} {values : List Json} {e : DecodeError}
      (accepted : ¬HasError fields) (field : fields.get? key = some (.arr values))
      (bad : FirstBad item values e) :
    Reads item key (.obj fields) (.error
      (.response ("invalid item in '" ++ key ++ "': " ++ e.message)))
  | noText {fields : Entries Json} {items : List α} {v : Json} (accepted : ¬HasError fields)
      (holds : HoldsItems item (fields.get? key) items) (field : fields.get? nextTokenKey = some v)
      (notNull : v ≠ .null) (notText : ∀ t, v ≠ .str t) :
    Reads item key (.obj fields) (.error
      (.response ("expected '" ++ nextTokenKey ++ "' to be a string, got " ++ v.compact)))
  | page {fields : Entries Json} {items : List α} {token : Option String}
      (accepted : ¬HasError fields) (holds : HoldsItems item (fields.get? key) items)
      (follows : HoldsToken (fields.get? nextTokenKey) token) :
    Reads item key (.obj fields) (.ok ⟨items, token⟩)

section Fields

variable {key : String} {fields : Entries Json} {field : Option Json} {v : Json}

theorem HoldsItems.readItems_eq {items : List α} (h : HoldsItems item field items) :
    readItems item key field = .ok items := by
  cases h with
  | missing | null => rfl
  | array each => simp only [readItems, each.decodeItems_eq]

theorem readItems_of_noArray (notNull : v ≠ .null) (notArray : ∀ vs, v ≠ .arr vs) :
    readItems item key (some v) =
      .error (.response ("expected '" ++ key ++ "' to be an array, got " ++ v.compact)) := by
  cases v with
  | null => exact absurd rfl notNull
  | arr vs => exact absurd rfl (notArray vs)
  | _ => rfl

theorem HoldsToken.readToken_eq {token : Option String} (h : HoldsToken field token) :
    readToken field = .ok token := by
  cases h <;> rfl

theorem readToken_of_noText (notNull : v ≠ .null) (notText : ∀ t, v ≠ .str t) :
    readToken (some v) = .error
      (.response ("expected '" ++ nextTokenKey ++ "' to be a string, got " ++ v.compact)) := by
  cases v with
  | null => exact absurd rfl notNull
  | str t => exact absurd rfl (notText t)
  | _ => rfl

/-- A field that holds no items is no array, or an array with something else in it. -/
theorem holdsItems_or (item : Json → Except DecodeError α) (field : Option Json) :
    (∃ items, HoldsItems item field items) ∨
      (∃ v, field = some v ∧ v ≠ .null ∧ ∀ vs, v ≠ .arr vs) ∨
      ∃ values e, field = some (.arr values) ∧ FirstBad item values e := by
  rcases field with _ | (_ | _ | _ | _ | values | _)
  · exact .inl ⟨[], .missing⟩
  · exact .inl ⟨[], .null⟩
  case some.arr =>
    rcases readItems_or_firstBad item values with ⟨items, each⟩ | ⟨e, bad⟩
    · exact .inl ⟨items, .array each⟩
    · exact .inr (.inr ⟨values, e, rfl, bad⟩)
  all_goals exact .inr (.inl ⟨_, rfl, nofun, nofun⟩)

theorem holdsToken_or (field : Option Json) :
    (∃ token, HoldsToken field token) ∨ ∃ v, field = some v ∧ v ≠ .null ∧ ∀ t, v ≠ .str t := by
  rcases field with _ | (_ | _ | _ | t | _ | _)
  · exact .inl ⟨none, .missing⟩
  · exact .inl ⟨none, .null⟩
  case some.str => exact .inl ⟨some t, .text t⟩
  all_goals exact .inr ⟨_, rfl, nofun, nofun⟩

/-- The items stand under another key than the token, so that taking them out leaves the token. -/
theorem ofResponse_of_accepted (hkey : key ≠ nextTokenKey) (accepted : ¬HasError fields) :
    ofResponse item key (.obj fields) = (do
      let items ← readItems item key (fields.get? key)
      let token ← readToken (fields.get? nextTokenKey)
      return ⟨items, token⟩) := by
  simp only [ofResponse, apiError?_of_not_hasError accepted, Entries.get?_erase_of_ne hkey]

end Fields

variable {key : String} {body : Json} {r : Except Error (ListPage α)}

/-- What the rules say is what is read. -/
theorem Reads.ofResponse_eq (hkey : key ≠ nextTokenKey) (h : Reads item key body r) :
    ofResponse item key body = r := by
  cases h with
  | noObject plain =>
    cases body with
    | obj fields => cases plain
    | _ => rfl
  | refused error => simp only [ofResponse, apiError?_of_error error]
  | noArray accepted field notNull notArray =>
    rw [ofResponse_of_accepted hkey accepted, field, readItems_of_noArray notNull notArray]
    rfl
  | badItem accepted field bad =>
    rw [ofResponse_of_accepted hkey accepted, field, readItems, bad.decodeItems_eq]
    rfl
  | noText accepted holds field notNull notText =>
    rw [ofResponse_of_accepted hkey accepted, holds.readItems_eq, field,
      readToken_of_noText notNull notText]
    rfl
  | page accepted holds follows =>
    rw [ofResponse_of_accepted hkey accepted, holds.readItems_eq, follows.readToken_eq]
    rfl

/-- There is a rule for every body. -/
theorem exists_reads (item : Json → Except DecodeError α) (key : String) (body : Json) :
    ∃ r, Reads item key body r := by
  cases body with
  | obj fields =>
    by_cases accepted : HasError fields
    · obtain ⟨e, error⟩ := accepted
      exact ⟨_, .refused error⟩
    · rcases holdsItems_or item (Entries.get? key fields) with
        ⟨items, hitems⟩ | ⟨v, field, notNull, notArray⟩ | ⟨values, e, field, bad⟩
      · rcases holdsToken_or (Entries.get? nextTokenKey fields) with
          ⟨token, htoken⟩ | ⟨v, field, notNull, notText⟩
        · exact ⟨_, .page accepted hitems htoken⟩
        · exact ⟨_, .noText accepted hitems field notNull notText⟩
      · exact ⟨_, .noArray accepted field notNull notArray⟩
      · exact ⟨_, .badItem accepted field bad⟩
  | _ => exact ⟨_, .noObject rfl⟩

/-! ## Responses that hold a page -/

/-- The fields of a response with items and a token, among other fields. -/
def fieldsOf (key : String) (others : Dictionary Json) (values : List Json)
    (token : Option String) : Dictionary Json :=
  (others.insert key (.arr values)).insert nextTokenKey (.optional token)

theorem get?_fieldsOf (key : String) (others : Dictionary Json) (values : List Json)
    (token : Option String) (k : String) :
    (fieldsOf key others values token).entries.get? k =
      if nextTokenKey = k then some (.optional token)
      else if key = k then some (.arr values)
      else others.entries.get? k := by
  show (fieldsOf key others values token).get? k = _
  rw [fieldsOf, Dictionary.get?_insert, Dictionary.get?_insert]
  rfl

theorem not_hasError_fieldsOf {others : Dictionary Json} (accepted : ¬HasError others.entries)
    (key : String) (values : List Json) (token : Option String) :
    ¬HasError (fieldsOf key others values token).entries := by
  rintro ⟨e, he⟩
  rw [get?_fieldsOf, if_neg (by decide)] at he
  split at he
  · cases he
  · exact accepted ⟨e, he⟩

theorem holdsToken_optional (token : Option String) :
    HoldsToken (some (.optional token)) token := by
  cases token with
  | none => exact .null
  | some t => exact .text t

/-- A response that is written from items and a token is read as these. -/
theorem reads_fieldsOf (hkey : key ≠ nextTokenKey) {others : Dictionary Json}
    (accepted : ¬HasError others.entries) (values : List Json) (token : Option String) :
    Reads .ok key (.obj (fieldsOf key others values token).entries) (.ok ⟨values, token⟩) := by
  refine .page (not_hasError_fieldsOf accepted key values token) ?holds ?follows
  case holds =>
    rw [get?_fieldsOf, if_neg hkey.symm, if_pos rfl]
    exact .array (List.forall₂_same.mpr fun _ _ => rfl)
  case follows =>
    rw [get?_fieldsOf, if_pos rfl]
    exact holdsToken_optional token

/-- A response is read by the rules and in no other way; one item that cannot be read is enough to
refuse it. What is read from a response that was made of items and a token are these items and this
token, whatever else it holds but an error object. -/
theorem ofResponse_eq_iff (item : Json → Except DecodeError α) (hkey : key ≠ nextTokenKey) :
    (∀ body r, ofResponse item key body = r ↔ Reads item key body r) ∧
    (∀ fields values v e, ¬HasError fields → fields.get? key = some (.arr values) → v ∈ values →
      item v = .error e → ∃ m, ofResponse item key (.obj fields) = .error (.response m)) ∧
    (∀ (others : Dictionary Json) values token, ¬HasError others.entries →
      ofResponse .ok key (.obj (fieldsOf key others values token).entries) =
        .ok ⟨values, token⟩) := by
  refine ⟨fun body r => ⟨?complete, fun h => h.ofResponse_eq hkey⟩, ?refused, ?page⟩
  case complete =>
    rintro rfl
    obtain ⟨r, h⟩ := exists_reads item key body
    rw [h.ofResponse_eq hkey]
    exact h
  case refused =>
    intro fields values v e accepted field hv hitem
    rcases readItems_or_firstBad item values with ⟨items, each⟩ | ⟨e', bad⟩
    · obtain ⟨a, ha⟩ := each.of_mem hv
      cases ha.symm.trans hitem
    · exact ⟨_, (Reads.badItem accepted field bad).ofResponse_eq hkey⟩
  case page =>
    intro others values token accepted
    exact (reads_fieldsOf hkey accepted values token).ofResponse_eq hkey

/-- An error object counts more than items of a wrong form, a null among the texts is refused, and
fields besides the items and the token do no harm. -/
theorem ofResponse_eq_iff_users :
    "Users" ≠ nextTokenKey ∧
    ofResponse Json.decodeString "Users"
        (.obj [("Error", .obj [("code", .nat 403)]), ("Users", .bool true)]) =
      .error (.api "403" "") ∧
    (∃ m, ofResponse Json.decodeString "Users" (.obj [("Users", .arr [.str "a", .null])]) =
      .error (.response m)) ∧
    ofResponse .ok "Users" (.obj (fieldsOf "Users" (.ofList [("Count", .nat 2), ("Error", .null)])
        [.str "a", .null] (some "t")).entries) =
      .ok ⟨[.str "a", .null], some "t"⟩ := by
  have hkey : "Users" ≠ nextTokenKey := by decide
  obtain ⟨iff, bad, roundTrip⟩ := ofResponse_eq_iff Json.decodeString hkey
  have hcode : errorCode (some (.nat 403)) = "403" := by decide +kernel
  refine ⟨hkey, (iff _ _).mpr (hcode ▸ .refused (e := [("code", .nat 403)]) rfl), ?bad,
    roundTrip _ _ _ ?accepted⟩
  case bad => exact bad _ [.str "a", .null] .null _ nofun rfl (by simp) rfl
  case accepted =>
    rintro ⟨e, he⟩
    have hnull : (Dictionary.ofList [("Count", Json.nat 2), ("Error", .null)]).entries.get?
        "Error" = some .null := rfl
    cases hnull.symm.trans he

end ListPage

end CursorPaging
