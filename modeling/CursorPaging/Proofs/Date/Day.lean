import CursorPaging.Proofs.Date.Stamp

/-!
# Days and times without offset

The forms without offset take numbers after blanks and of fewer digits, so they cannot be described
by numerals of fixed width. What is needed of them is how the forms lie within each other: a full
date-time starts with a day, and a day goes on where no digit follows:

* `readDayParts_append`: a day at the start of a longer text;
* `readDayParts_dayForm`: the numerals of a day are read as that day;
* `exists_readDayParts_of_readStamp`: a full date-time starts with a day, and is longer than any day
  and time without offset that starts with it;
* `readMoment_midnight`: a day with its first moment written out.
-/

namespace CursorPaging.Date

variable {s rest t : List Char} {width low high n year month day : Nat}

/-! ## Days at the start of a text -/

theorem digitChar_ne : ∀ d < 10, Text.isBlank (Nat.digitChar d) = false ∧
    Nat.digitChar d ≠ '-' ∧ Nat.digitChar d ≠ '+' := by decide

/-- A number starts with a digit. -/
theorem exists_head_of_readNumber {most : Nat} (h : readNumber 1 most s = .ok (n, rest)) :
    ∃ d < 10, ∃ r, s = Nat.digitChar d :: r := by
  obtain ⟨digits, rfl, hsmall, hleast, -⟩ := readNumber_eq_ok_iff.mp h
  obtain ⟨d, digits, rfl⟩ := List.exists_cons_of_length_pos hleast
  exact ⟨d, hsmall d List.mem_cons_self, _, rfl⟩

theorem dropWhile_blank_append (h : s.dropWhile Text.isBlank ≠ []) (t : List Char) :
    (s ++ t).dropWhile Text.isBlank = s.dropWhile Text.isBlank ++ t := by
  rw [List.dropWhile_append, if_neg (by simpa using h)]

/-- A value that is read and then checked. -/
theorem checked_eq_ok_iff {α β : Type} {x : Except ReadError (α × List Char)}
    (check : α → Except ReadError β) {b : β} :
    (do
      let (a, rest) ← x
      return (← check a, rest)) = Except.ok (b, rest) ↔
        ∃ a, x = .ok (a, rest) ∧ check a = .ok b := by
  constructor
  · intro h
    obtain ⟨⟨a, rest'⟩, hx, h⟩ := bind_eq_ok h
    obtain ⟨b', hb, h⟩ := bind_eq_ok h
    cases h
    exact ⟨a, hx, hb⟩
  · rintro ⟨a, rfl, hb⟩
    show (do return (← check a, rest)) = _
    rw [hb]
    rfl

theorem readField_eq_ok_iff :
    readField width low high s = .ok (n, rest) ↔
      readNumber 1 width (s.dropWhile Text.isBlank) = .ok (n, rest) ∧ low ≤ n ∧ n ≤ high := by
  unfold readField
  rw [checked_eq_ok_iff (inRange low high)]
  simp only [inRange_eq_ok_iff]
  constructor
  · rintro ⟨n', hn, hrange, rfl⟩
    exact ⟨hn, hrange⟩
  · rintro ⟨hn, hrange⟩
    exact ⟨n, hn, hrange, rfl⟩

/-- A year is a number after a sign, or one of at most four digits. -/
theorem readYear_eq_ok_iff {year : Int} :
    readYear s = .ok (year, rest) ↔
      (∃ r n, s.dropWhile Text.isBlank = '-' :: r ∧ readNumber 1 r.length r = .ok (n, rest) ∧
        checkYear (-(n : Int)) = .ok year) ∨
      (∃ r n, s.dropWhile Text.isBlank = '+' :: r ∧ readNumber 1 r.length r = .ok (n, rest) ∧
        checkYear n = .ok year) ∨
      ∃ n, readNumber 1 4 (s.dropWhile Text.isBlank) = .ok (n, rest) ∧ checkYear n = .ok year := by
  constructor
  · intro h
    unfold readYear at h
    split at h
    · rename_i r hr
      obtain ⟨n, hn, hyear⟩ := (checked_eq_ok_iff fun n : Nat => checkYear (-n)).mp h
      exact .inl ⟨r, n, hr, hn, hyear⟩
    · rename_i r hr
      obtain ⟨n, hn, hyear⟩ := (checked_eq_ok_iff fun n : Nat => checkYear n).mp h
      exact .inr (.inl ⟨r, n, hr, hn, hyear⟩)
    · exact .inr (.inr ((checked_eq_ok_iff fun n : Nat => checkYear n).mp h))
  · unfold readYear
    rintro (⟨r, n, hr, hn, hyear⟩ | ⟨r, n, hr, hn, hyear⟩ | ⟨n, hn, hyear⟩)
    · rw [hr]
      exact (checked_eq_ok_iff fun n : Nat => checkYear (-n)).mpr ⟨n, hn, hyear⟩
    · rw [hr]
      exact (checked_eq_ok_iff fun n : Nat => checkYear n).mpr ⟨n, hn, hyear⟩
    · obtain ⟨d, hd, r, hr⟩ := exists_head_of_readNumber hn
      obtain ⟨-, hminus, hplus⟩ := digitChar_ne d hd
      split
      · rename_i h
        exact absurd (List.cons.inj (hr.symm.trans h)).1 hminus
      · rename_i h
        exact absurd (List.cons.inj (hr.symm.trans h)).1 hplus
      · exact (checked_eq_ok_iff fun n : Nat => checkYear n).mpr ⟨n, hn, hyear⟩

theorem ne_nil_of_readNumber {most : Nat} (h : readNumber 1 most s = .ok (n, rest)) : s ≠ [] := by
  obtain ⟨d, -, r, rfl⟩ := exists_head_of_readNumber h
  exact List.cons_ne_nil _ _

/-- What is read does not depend on what follows the digits. -/
theorem readField_append (h : readField width low high s = .ok (n, rest)) (ht : NoDigit t) :
    readField width low high (s ++ t) = .ok (n, rest ++ t) := by
  obtain ⟨hn, hrange⟩ := readField_eq_ok_iff.mp h
  rw [readField_eq_ok_iff, dropWhile_blank_append (ne_nil_of_readNumber hn)]
  exact ⟨readNumber_append hn ht, hrange⟩

theorem readYear_append {year : Int} (h : readYear s = .ok (year, rest)) (ht : NoDigit t) :
    readYear (s ++ t) = .ok (year, rest ++ t) := by
  have signed {r rest : List Char} {n : Nat} (hn : readNumber 1 r.length r = .ok (n, rest)) :
      readNumber 1 (r ++ t).length (r ++ t) = .ok (n, rest ++ t) :=
    readNumber_append (readNumber_unlimited hn (by simp)) ht
  rw [readYear_eq_ok_iff] at h ⊢
  rcases h with ⟨r, n, hr, hn, hyear⟩ | ⟨r, n, hr, hn, hyear⟩ | ⟨n, hn, hyear⟩
  · refine .inl ⟨r ++ t, n, ?_, signed hn, hyear⟩
    rw [dropWhile_blank_append (by rw [hr]; exact List.cons_ne_nil _ _), hr, List.cons_append]
  · refine .inr (.inl ⟨r ++ t, n, ?_, signed hn, hyear⟩)
    rw [dropWhile_blank_append (by rw [hr]; exact List.cons_ne_nil _ _), hr, List.cons_append]
  · refine .inr (.inr ⟨n, ?_, hyear⟩)
    rw [dropWhile_blank_append (ne_nil_of_readNumber hn)]
    exact readNumber_append hn ht

theorem readDayParts_eq_ok_iff {year : Int} {month day : Nat} :
    readDayParts s = .ok ((year, month, day), rest) ↔
      ∃ s₁ s₂, readYear s = .ok (year, '-' :: s₁) ∧ readField 2 1 12 s₁ = .ok (month, '-' :: s₂) ∧
        readField 2 1 31 s₂ = .ok (day, rest) := by
  constructor
  · intro h
    obtain ⟨⟨year', s₁⟩, hyear, h⟩ := bind_eq_ok h
    obtain ⟨s₁', hdash, h⟩ := bind_eq_ok h
    obtain ⟨⟨month', s₂⟩, hmonth, h⟩ := bind_eq_ok h
    obtain ⟨s₂', hdash', h⟩ := bind_eq_ok h
    obtain ⟨⟨day', s₃⟩, hday, h⟩ := bind_eq_ok h
    cases h
    obtain rfl := readChar_eq_ok_iff.mp hdash
    obtain rfl := readChar_eq_ok_iff.mp hdash'
    exact ⟨s₁', s₂', hyear, hmonth, hday⟩
  · rintro ⟨s₁, s₂, hyear, hmonth, hday⟩
    simp only [readDayParts, hyear, readChar_self, hmonth, hday, bind, Except.bind, pure,
      Except.pure]

/-- A day may be followed by anything but a digit. -/
theorem readDayParts_append {parts : Int × Nat × Nat} (h : readDayParts s = .ok (parts, rest))
    (ht : NoDigit t) : readDayParts (s ++ t) = .ok (parts, rest ++ t) := by
  obtain ⟨year, month, day⟩ := parts
  obtain ⟨s₁, s₂, hyear, hmonth, hday⟩ := readDayParts_eq_ok_iff.mp h
  exact readDayParts_eq_ok_iff.mpr ⟨s₁ ++ t, s₂ ++ t, readYear_append hyear ht,
    readField_append hmonth ht, readField_append hday ht⟩

/-! ## Numerals of fixed width -/

theorem dropWhile_blank_padded {width : Nat} (hw : 1 ≤ width) (hn : n < 10 ^ width)
    (rest : List Char) :
    ((Text.padded width n).toList ++ rest).dropWhile Text.isBlank =
      (Text.padded width n).toList ++ rest := by
  obtain ⟨digits, hdigits, hlen, hsmall, -⟩ := exists_digits hw hn
  obtain ⟨d, digits, rfl⟩ := List.exists_cons_of_length_pos (hlen ▸ hw)
  have hd := (digitChar_ne d (hsmall d List.mem_cons_self)).1
  rw [hdigits, List.map_cons, List.cons_append, List.dropWhile_cons, hd, if_neg Bool.false_ne_true]

/-- A number of fixed width is one of varying width. -/
theorem readNumber_padded {width : Nat} (hw : 1 ≤ width) (hn : n < 10 ^ width)
    (rest : List Char) :
    readNumber 1 width (((Text.padded width n).toList ++ rest).dropWhile Text.isBlank) =
      .ok (n, rest) := by
  rw [dropWhile_blank_padded hw hn]
  obtain ⟨digits, hs, hsmall, hleast, hle, hstop, hvalue⟩ :=
    readNumber_eq_ok_iff.mp (readExact_padded hw hn rest)
  exact readNumber_eq_ok_iff.mpr
    ⟨digits, hs, hsmall, Nat.le_trans hw hleast, hle, hstop, hvalue⟩

/-- A day of a full date-time is a day. -/
theorem readDayParts_dayForm (year_lt : year < 10000)
    (exists_day : Day.exists? ⟨year, month, day⟩ = true) (rest : List Char) :
    readDayParts (dayForm year month day ++ rest) = .ok ((↑year, month, day), rest) := by
  obtain ⟨month_pos, month_le, day_pos, day_le⟩ := Day.bounds exists_day
  dsimp only at month_pos month_le day_pos day_le
  have hyear : checkYear year = .ok ↑year := if_pos (by simp [yearBound]; omega)
  rw [dayForm, List.append_assoc, List.cons_append, List.append_assoc, List.cons_append]
  refine readDayParts_eq_ok_iff.mpr
    ⟨(Text.padded 2 month).toList ++ '-' :: ((Text.padded 2 day).toList ++ rest),
      (Text.padded 2 day).toList ++ rest, ?_, ?_, ?_⟩
  · exact readYear_eq_ok_iff.mpr
      (.inr (.inr ⟨year, readNumber_padded (by decide) year_lt _, hyear⟩))
  · exact readField_eq_ok_iff.mpr
      ⟨readNumber_padded (by decide) (show month < 10 ^ 2 by omega) _, month_pos, month_le⟩
  · exact readField_eq_ok_iff.mpr
      ⟨readNumber_padded (by decide) (show day < 10 ^ 2 by omega) _, day_pos, day_le⟩

/-! ## One form within another -/

/-- A full date-time starts with a day, and ten characters or more come after it. -/
theorem exists_readDayParts_of_readStamp {stamp : Stamp} (h : readStamp s = .ok stamp) :
    ∃ parts rest, readDayParts s = .ok (parts, rest) ∧ 10 ≤ rest.length := by
  cases readStamp_eq_ok_iff.mp h with
  | @intro year month day hour minute second nanosecond offset mark tail zone separates year_lt
      exists_day hour_le minute_le second_le fraction distance =>
    refine ⟨_, _, readDayParts_dayForm year_lt exists_day _, ?_⟩
    have htail : tail ≠ [] := by
      rintro rfl
      cases fraction
      exact (readOffset_bounds distance).1 rfl
    have hlen := List.length_pos_iff.mpr htail
    have hnumeral {n : Nat} (hn : n < 10 ^ 2) : (Text.padded 2 n).toList.length = 2 :=
      Text.length_padded (by decide) hn
    simp only [List.length_cons, List.length_append, clockForm,
      hnumeral (show hour < 10 ^ 2 by omega), hnumeral (show minute < 10 ^ 2 by omega),
      hnumeral (show second < 10 ^ 2 by omega)]
    omega

/-- A day that fewer than ten characters follow does not start a full date-time. -/
theorem readStamp_ne_ok {parts : Int × Nat × Nat} (h : readDayParts s = .ok (parts, rest))
    (hshort : rest.length < 10) (stamp : Stamp) : readStamp s ≠ .ok stamp := by
  intro hs
  obtain ⟨parts', rest', h', hlen⟩ := exists_readDayParts_of_readStamp hs
  rw [h] at h'
  cases h'
  omega

theorem readDay_eq_ok_iff {d : Day} :
    readDay s = .ok d ↔ ∃ year month day, readDayParts s = .ok ((year, month, day), []) ∧
      d = ⟨year, month, day⟩ ∧ d.exists? = true := by
  constructor
  · intro h
    obtain ⟨⟨year, month, day⟩, hparts, h⟩ := bind_eq_ok h
    exact ⟨year, month, day, complete_eq_ok_iff.mp hparts, checkDay_eq_ok_iff.mp h⟩
  · rintro ⟨year, month, day, hparts, hd⟩
    rw [readDay, hparts]
    exact checkDay_eq_ok_iff.mpr hd

/-- A day and time that is read is one that the calendar has. -/
theorem exists_of_readMoment {m : Moment} (h : readMoment s = .ok m) :
    m.day.exists? = true ∧ m.clock.exists? = true := by
  obtain ⟨⟨⟨year, month, day⟩, clock⟩, hparts, h⟩ := bind_eq_ok h
  obtain ⟨d, hd, h⟩ := bind_eq_ok h
  cases h
  refine ⟨(checkDay_eq_ok_iff.mp hd).2, ?_⟩
  obtain ⟨⟨parts, s₁⟩, -, h⟩ := bind_eq_ok (complete_eq_ok_iff.mp hparts)
  obtain ⟨s₂, -, h⟩ := bind_eq_ok h
  obtain ⟨⟨hour, s₃⟩, hhour, h⟩ := bind_eq_ok h
  obtain ⟨s₄, -, h⟩ := bind_eq_ok h
  obtain ⟨⟨minute, s₅⟩, hminute, h⟩ := bind_eq_ok h
  obtain ⟨s₆, -, h⟩ := bind_eq_ok h
  obtain ⟨⟨second, s₇⟩, hsecond, h⟩ := bind_eq_ok h
  cases h
  have hh := (readField_eq_ok_iff.mp hhour).2.2
  have hm := (readField_eq_ok_iff.mp hminute).2.2
  have hs := (readField_eq_ok_iff.mp hsecond).2.2
  simp only [Clock.exists?, Bool.and_eq_true, decide_eq_true_eq]
  omega

/-- The first moment of a day, written after it. -/
def midnightForm : List Char := "T00:00:00".toList

/-- A day is no day and time. -/
theorem readMoment_of_readDay {d : Day} (h : readDay s = .ok d) :
    readMoment s = .error .tooShort := by
  obtain ⟨year, month, day, hparts, -⟩ := readDay_eq_ok_iff.mp h
  rw [readMoment, readMomentParts, hparts]
  rfl

/-- A day with the form of midnight behind it is its first moment. -/
theorem readMoment_midnight {d : Day} (h : readDay s = .ok d) :
    readMoment (s ++ midnightForm) = .ok ⟨d, .midnight⟩ := by
  obtain ⟨year, month, day, hparts, hd⟩ := readDay_eq_ok_iff.mp h
  have hlonger := readDayParts_append (t := midnightForm) hparts (noDigit_cons rfl _)
  have hclock : readMomentParts (s ++ midnightForm) =
      .ok (((year, month, day), .midnight), []) := by
    rw [readMomentParts, hlonger]
    rfl
  rw [readMoment, hclock]
  show (do return (⟨← checkDay year month day, .midnight⟩ : Moment)) = _
  rw [checkDay_eq_ok_iff.mpr hd]
  rfl

end CursorPaging.Date
