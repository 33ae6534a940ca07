import CursorPaging.Proofs.Date.Day
import CursorPaging.Query.DateValue

/-!
# Completed date values

A date value that has been completed is a full date-time in its written form, so that completing it
again changes nothing, and a day is completed as if its first moment had been written out:

* `normalizeDate_eq_ok_iff`: the two ways in which a value is completed;
* `normalizeDate_text`: written forms are completed already;
* `normalizeDate_midnight`: days, and days with their first moment;
* `normalizeDate_projects`: both together.
-/

namespace CursorPaging.Query

open Date (Stamp Moment)

variable {value s : String} {offset : Int}

/-! ## The two ways -/

theorem exists_of_readLocal {cs : List Char} {m : Moment} (h : readLocal cs = .ok m) :
    m.day.exists? = true ∧ m.clock.exists? = true := by
  unfold readLocal at h
  split at h
  · rename_i hm
    cases h
    exact Date.exists_of_readMoment hm
  · split at h
    · rename_i hd
      cases h
      obtain ⟨_, _, _, -, -, hd⟩ := Date.readDay_eq_ok_iff.mp hd
      exact ⟨hd, rfl⟩
    · cases h

/-- A value is a full date-time as it is, or one with the given offset. -/
theorem normalizeDate_eq_ok_iff :
    normalizeDate value offset = .ok s ↔ ∃ stamp : Stamp, s = stamp.text ∧
      (Date.readStamp value.toList = .ok stamp ∨
        (∀ other, Date.readStamp value.toList ≠ .ok other) ∧
          readLocal value.toList = .ok stamp.moment ∧ stamp.offset = offset ∧
          stamp.exists? = true) := by
  unfold normalizeDate
  cases hstamp : Date.readStamp value.toList with
  | ok stamp =>
    constructor
    · intro h
      obtain rfl := Except.ok.inj h
      exact ⟨stamp, rfl, .inl rfl⟩
    · rintro ⟨stamp', rfl, h | ⟨hnone, -⟩⟩
      · cases h; rfl
      · exact absurd rfl (hnone stamp)
  | error e =>
    dsimp only
    cases hlocal : readLocal value.toList with
    | error e' =>
      refine ⟨nofun, ?_⟩
      rintro ⟨stamp, -, h | ⟨-, h, -⟩⟩ <;> cases h
    | ok m =>
      dsimp only
      constructor
      · intro h
        split at h
        · rename_i hexists
          obtain rfl := Except.ok.inj h
          exact ⟨⟨m, offset⟩, rfl, .inr ⟨nofun, rfl, rfl, hexists⟩⟩
        · cases h
      · rintro ⟨⟨m', offset'⟩, rfl, h | ⟨-, h, rfl, hexists⟩⟩
        · cases h
        · cases h
          rw [if_pos hexists]

/-! ## Written forms -/

/-- The text starts with the sign of a year. -/
def Signed (s : String) : Prop := s.toList.head? = some '+' ∨ s.toList.head? = some '-'

/-- Years of four digits are those that are written without a sign. -/
theorem year_bounds_of_not_signed {stamp : Stamp} (h : ¬Signed stamp.text) :
    0 ≤ stamp.moment.day.year ∧ stamp.moment.day.year ≤ 9999 := by
  by_contra hyear
  refine h ?_
  unfold Signed Stamp.text Date.yearText
  simp only [hyear, if_false]
  by_cases hneg : stamp.moment.day.year < 0 <;> simp [hneg]

/-- Written forms are completed already. -/
theorem normalizeDate_text {stamp : Stamp} (h : stamp.Writable) (offset : Int) :
    normalizeDate stamp.text offset = .ok stamp.text :=
  normalizeDate_eq_ok_iff.mpr ⟨stamp, rfl, .inl (Date.readStamp_text h)⟩

/-- What a value is completed to can be read, unless its year takes more than four digits. -/
theorem exists_writable (hlt : offset.natAbs < 86400) (hwhole : offset % 60 = 0)
    (h : normalizeDate value offset = .ok s) (unsigned : ¬Signed s) :
    ∃ stamp : Stamp, stamp.Writable ∧ s = stamp.text := by
  obtain ⟨stamp, rfl, h | ⟨-, hlocal, rfl, -⟩⟩ := normalizeDate_eq_ok_iff.mp h
  · exact ⟨stamp, (Date.readStamp_eq_ok_iff.mp h).writable, rfl⟩
  · obtain ⟨hnonneg, hle⟩ := year_bounds_of_not_signed unsigned
    obtain ⟨hday, hclock⟩ := exists_of_readLocal hlocal
    exact ⟨stamp, ⟨hnonneg, hle, hday, hclock, hlt, hwhole⟩, rfl⟩

/-! ## Days -/

/-- A day is completed to its first moment, with that moment written out or not. -/
theorem normalizeDate_midnight {day : Date.Day} (hday : Date.readDay value.toList = .ok day) :
    normalizeDate value offset = .ok s ↔ normalizeDate (value ++ "T00:00:00") offset = .ok s := by
  obtain ⟨year, month, d, hparts, -⟩ := Date.readDay_eq_ok_iff.mp hday
  have hlonger := Date.readDayParts_append (t := Date.midnightForm) hparts
    (Date.noDigit_cons rfl _)
  have hshort : ∀ other, Date.readStamp value.toList ≠ .ok other :=
    Date.readStamp_ne_ok hparts (by decide)
  have hmidnight : ∀ other, Date.readStamp (value.toList ++ Date.midnightForm) ≠ .ok other :=
    Date.readStamp_ne_ok hlonger (by decide)
  have hlocal : readLocal value.toList = .ok ⟨day, .midnight⟩ := by
    simp only [readLocal, Date.readMoment_of_readDay hday, hday]
  have hlocal' : readLocal (value.toList ++ Date.midnightForm) = .ok ⟨day, .midnight⟩ := by
    simp only [readLocal, Date.readMoment_midnight hday]
  have htext : (value ++ "T00:00:00").toList = value.toList ++ Date.midnightForm :=
    String.toList_append ..
  rw [normalizeDate_eq_ok_iff, normalizeDate_eq_ok_iff, htext]
  simp only [hshort, hmidnight, hlocal, hlocal', false_or, not_false_eq_true, implies_true,
    ne_eq, true_and]

/-- A value that has been completed with a whole number of minutes stays as it is when it is
completed again, whatever the offset is then, as long as its year is written with four digits. And
the completed form of a day is the one of its first moment. -/
theorem normalizeDate_projects (offset : Int) :
    (offset.natAbs < 86400 → offset % 60 = 0 → ∀ value s, normalizeDate value offset = .ok s →
      ¬Signed s → ∀ offset', normalizeDate s offset' = .ok s) ∧
    ∀ value day, Date.readDay value.toList = .ok day → ∀ s,
      normalizeDate value offset = .ok s ↔
        normalizeDate (value ++ "T00:00:00") offset = .ok s := by
  refine ⟨fun hlt hwhole value s h unsigned offset' => ?_,
    fun value day hday s => normalizeDate_midnight hday⟩
  obtain ⟨stamp, writable, rfl⟩ := exists_writable hlt hwhole h unsigned
  exact normalizeDate_text writable offset'

/-- A leap second with ten digits after the point, and a day with short numbers. -/
theorem normalizeDate_projects_leap_second :
    let full := "2016-12-31T23:59:60.123456789-00:30"
    let day := "2024-2-29"
    ((60 : Int).natAbs < 86400 ∧ (60 : Int) % 60 = 0 ∧
      normalizeDate "2016-12-31 23:59:60.1234567891-00:30" 60 = .ok full ∧ ¬Signed full ∧
      Date.readDay day.toList = .ok ⟨2024, 2, 29⟩) ∧
      (∀ offset, normalizeDate full offset = .ok full) ∧
      normalizeDate (day ++ "T00:00:00") 60 = .ok "2024-02-29T00:00:00+00:01" := by
  intro full day
  have hfull : normalizeDate "2016-12-31 23:59:60.1234567891-00:30" 60 = .ok full :=
    eq_ok_of_toOption (by decide +kernel)
  have unsigned : ¬Signed full := by simp [Signed, full]
  have hday : Date.readDay day.toList = .ok ⟨2024, 2, 29⟩ :=
    eq_ok_of_toOption (by decide +kernel)
  have hcompleted : normalizeDate day 60 = .ok "2024-02-29T00:00:00+00:01" :=
    eq_ok_of_toOption (by decide +kernel)
  obtain ⟨again, midnight⟩ := normalizeDate_projects 60
  exact ⟨⟨by decide, by decide, hfull, unsigned, hday⟩,
    again (by decide) (by decide) _ _ hfull unsigned, (midnight _ _ hday _).mp hcompleted⟩

end CursorPaging.Query
