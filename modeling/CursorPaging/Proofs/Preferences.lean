import CursorPaging.Preferences

/-!
# Preferences that can be followed

What the check of preferences lets through, and which columns preferences show:

* `firstRepeated_eq_none_iff`, `firstRepeated_eq_some_iff`: the scan for an id that comes twice;
* `check_eq_ok_iff`, `check_eq_repeated_iff`: the preferences that pass, and those that name a
  column twice;
* `mem_visibleColumns_iff`: the columns that are shown;
* `mem_visibleColumns_iff_of_alwaysVisible`: an option that is always visible is shown as long as
  the choice of columns names it.
-/

namespace CursorPaging.Preferences

variable {p : Preferences} {offered : PageSizes} {seen ids : List String} {id : String}

/-! ## Ids that come twice -/

/-- The id is the first one of a list that comes a second time. -/
def FirstRepeat (ids : List String) (id : String) : Prop :=
  ∃ before after, ids = before ++ id :: after ∧ before.Nodup ∧ id ∈ before

/-- Ids that differ from those seen already and from one more. -/
theorem fresh_cons {x : String} :
    (∀ y ∈ ids, y ∉ x :: seen) ↔ x ∉ ids ∧ ∀ y ∈ ids, y ∉ seen := by
  constructor
  · intro h
    exact ⟨fun hx => h x hx List.mem_cons_self, fun y hy hs => h y hy (List.mem_cons_of_mem x hs)⟩
  · rintro ⟨hx, h⟩ y hy hs
    rcases List.mem_cons.mp hs with rfl | hs
    · exact hx hy
    · exact h y hy hs

/-- Nothing is repeated if the identifiers are distinct and none was seen. -/
theorem firstRepeated_eq_none_iff :
    firstRepeated seen ids = none ↔ ids.Nodup ∧ ∀ x ∈ ids, x ∉ seen := by
  induction ids generalizing seen with
  | nil => simp [firstRepeated]
  | cons x ids ih =>
    rw [firstRepeated, List.nodup_cons, List.forall_mem_cons]
    split
    · rename_i h
      have hx : x ∈ seen := by simpa using h
      simp [hx]
    · rename_i h
      have hx : x ∉ seen := by simpa using h
      rw [ih, fresh_cons]
      simp only [hx, not_false_eq_true, true_and, and_assoc, and_left_comm]

/-- The scan stops at the first id that was seen or comes a second time. -/
theorem firstRepeated_eq_some_iff :
    firstRepeated seen ids = some id ↔ ∃ before after, ids = before ++ id :: after ∧
      before.Nodup ∧ (∀ x ∈ before, x ∉ seen) ∧ (id ∈ seen ∨ id ∈ before) := by
  induction ids generalizing seen with
  | nil => simp [firstRepeated]
  | cons x ids ih =>
    rw [firstRepeated]
    split
    · rename_i h
      have hx : x ∈ seen := by simpa using h
      constructor
      · intro he
        obtain rfl := Option.some.inj he
        exact ⟨[], ids, rfl, List.nodup_nil, nofun, .inl hx⟩
      · rintro ⟨before, after, hids, -, fresh, -⟩
        rcases List.cons_eq_append_iff.mp hids with ⟨rfl, h⟩ | ⟨before', rfl, -⟩
        · rw [(List.cons.inj h).1]
        · exact absurd hx (fresh x List.mem_cons_self)
    · rename_i h
      have hx : x ∉ seen := by simpa using h
      rw [ih]
      constructor
      · rintro ⟨before, after, rfl, distinct, fresh, hid⟩
        obtain ⟨hnot, fresh⟩ := fresh_cons.mp fresh
        refine ⟨x :: before, after, rfl, List.nodup_cons.mpr ⟨hnot, distinct⟩,
          List.forall_mem_cons.mpr ⟨hx, fresh⟩, ?_⟩
        simpa [or_assoc, or_left_comm] using hid
      · rintro ⟨before, after, hids, distinct, fresh, hid⟩
        rcases List.cons_eq_append_iff.mp hids with ⟨rfl, h⟩ | ⟨before', rfl, rfl⟩
        · obtain ⟨rfl, -⟩ := List.cons.inj h
          simp [hx] at hid
        · obtain ⟨hnot, distinct⟩ := List.nodup_cons.mp distinct
          refine ⟨before', after, rfl, distinct,
            fresh_cons.mpr ⟨hnot, (List.forall_mem_cons.mp fresh).2⟩, ?_⟩
          simpa [or_assoc, or_left_comm] using hid

/-! ## The check -/

/-- The page size is positive, and among those offered unless none are. -/
structure Sized (p : Preferences) (offered : PageSizes) : Prop where
  positive : 0 < p.pageSize
  offered : offered.options = [] ∨ p.pageSize ∈ offered.options.map (·.value)

theorem contains_iff (offered : PageSizes) (size : Nat) :
    offered.contains size = true ↔ size ∈ offered.options.map (·.value) := by
  simp [PageSizes.contains]

theorem check_of_sized (h : p.Sized offered) :
    p.check offered = match firstRepeated [] (p.columns.map (·.id)) with
      | some id => .error (.invalidValue "content_display" ("duplicate column '" ++ id ++ "'"))
      | none => .ok () := by
  have hoffered : ¬(!offered.options.isEmpty && !offered.contains p.pageSize) = true := by
    rcases h.offered with h | h
    · simp [h]
    · simp [(contains_iff offered _).mpr h]
  exact (if_neg (Nat.ne_of_gt h.positive)).trans (if_neg hoffered)

theorem check_of_not_sized (h : ¬p.Sized offered) :
    ∃ message, p.check offered = .error (.invalidValue "page_size" message) := by
  unfold check
  split
  · exact ⟨_, rfl⟩
  · split
    · exact ⟨_, rfl⟩
    · rename_i hpos hoffered
      refine absurd ⟨Nat.pos_of_ne_zero hpos, ?_⟩ h
      rw [← contains_iff]
      simpa [Decidable.or_iff_not_imp_left] using hoffered

/-- Preferences pass if their page size is offered and no column stands twice. -/
theorem check_eq_ok_iff :
    p.check offered = .ok () ↔ p.Sized offered ∧ (p.columns.map (·.id)).Nodup := by
  by_cases h : p.Sized offered
  · have hnone : firstRepeated [] (p.columns.map (·.id)) = none ↔
        (p.columns.map (·.id)).Nodup := by simp [firstRepeated_eq_none_iff]
    rw [check_of_sized h, ← hnone]
    cases firstRepeated [] (p.columns.map (·.id)) <;> simp [h]
  · obtain ⟨message, he⟩ := check_of_not_sized h
    simp [he, h]

/-- An error about the columns names the first one that comes a second time. -/
theorem check_eq_repeated_iff {message : String} :
    p.check offered = .error (.invalidValue "content_display" message) ↔
      p.Sized offered ∧ ∃ id, FirstRepeat (p.columns.map (·.id)) id ∧
        message = "duplicate column '" ++ id ++ "'" := by
  by_cases h : p.Sized offered
  · have hsome (id : String) : firstRepeated [] (p.columns.map (·.id)) = some id ↔
        FirstRepeat (p.columns.map (·.id)) id := by
      simp [firstRepeated_eq_some_iff, FirstRepeat]
    rw [check_of_sized h]
    simp only [← hsome, h, true_and]
    cases firstRepeated [] (p.columns.map (·.id)) <;> simp [eq_comm]
  · obtain ⟨message', he⟩ := check_of_not_sized h
    simp [he, h]

/-! ## Columns that are shown -/

variable {options : List ColumnOption} {o : ColumnOption}

theorem isAlwaysVisible_iff :
    isAlwaysVisible options id = true ↔ ∃ o ∈ options, o.id = id ∧ o.alwaysVisible = true := by
  simp [isAlwaysVisible]

/-- Without a choice every column is shown; otherwise those chosen that are not hidden or cannot
be. -/
theorem mem_visibleColumns_iff :
    id ∈ p.visibleColumns options ↔
      (p.columns = [] ∧ ∃ o ∈ options, o.id = id) ∨
        ∃ c ∈ p.columns, c.id = id ∧ (c.visible = true ∨ isAlwaysVisible options id = true) := by
  unfold visibleColumns
  split
  · rename_i h
    have hnil : p.columns = [] := by simpa using h
    simp [hnil]
  · rename_i h
    have hne : p.columns ≠ [] := by simpa using h
    simp only [List.mem_map, List.mem_filter, Bool.or_eq_true, hne, false_and, false_or]
    constructor
    · rintro ⟨c, ⟨hc, hv⟩, rfl⟩
      exact ⟨c, hc, rfl, hv⟩
    · rintro ⟨c, hc, rfl, hv⟩
      exact ⟨c, ⟨hc, hv⟩, rfl⟩

/-- A column that is always visible is shown if no columns are chosen, and if it is among those that
are, be it as a hidden one; a choice that leaves it out does not show it. -/
theorem mem_visibleColumns_iff_of_alwaysVisible (ho : o ∈ options) (ha : o.alwaysVisible = true) :
    o.id ∈ p.visibleColumns options ↔ p.columns = [] ∨ o.id ∈ p.columns.map (·.id) := by
  have always : isAlwaysVisible options o.id = true := isAlwaysVisible_iff.mpr ⟨o, ho, rfl, ha⟩
  have known : ∃ o' ∈ options, o'.id = o.id := ⟨o, ho, rfl⟩
  rw [mem_visibleColumns_iff]
  simp only [always, known, or_true, and_true, List.mem_map]

/-- A column that is always visible, and one that can be hidden. -/
def nameAndState : List ColumnOption := [⟨"Name", "Name", true⟩, .hideable "State" "State"]

/-- The name is hidden by choice, and shown all the same. -/
theorem mem_visibleColumns_hidden_name :
    let p : Preferences := ⟨20, [⟨"State", true⟩, ⟨"Name", false⟩], none⟩
    let name : ColumnOption := ⟨"Name", "Name", true⟩
    name ∈ nameAndState ∧ name.alwaysVisible = true ∧
      p.visibleColumns nameAndState = ["State", "Name"] ∧
      (name.id ∈ p.visibleColumns nameAndState ↔
        p.columns = [] ∨ name.id ∈ p.columns.map (·.id)) := by
  intro p name
  have ho : name ∈ nameAndState := List.mem_cons_self
  exact ⟨ho, rfl, by decide, mem_visibleColumns_iff_of_alwaysVisible ho rfl⟩

/-- Preferences that pass the check and choose the state alone do not show the name. -/
theorem alwaysVisible_not_shown :
    let p : Preferences := ⟨20, [⟨"State", true⟩], none⟩
    let name : ColumnOption := ⟨"Name", "Name", true⟩
    p.check .default = .ok () ∧ name ∈ nameAndState ∧ name.alwaysVisible = true ∧
      p.visibleColumns nameAndState = ["State"] ∧ name.id ∉ p.visibleColumns nameAndState :=
  ⟨check_eq_ok_iff.mpr ⟨⟨by decide, .inr (by decide)⟩, by decide⟩, List.mem_cons_self, rfl,
    by decide, by decide⟩

end CursorPaging.Preferences
