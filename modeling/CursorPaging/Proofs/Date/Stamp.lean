import CursorPaging.Proofs.Date.Reading
import CursorPaging.Proofs.Query.Builder

/-!
# Full date-times

The texts that are read as full date-times are described by their layout (`Layout`): numerals of
fixed width with marks between them, a fraction and an offset. The written form of a date-time is
one of them:

* `readStamp_eq_ok_iff`: a text is read if it has the layout, and not otherwise;
* `Layout.writable`: what is read can be written so that it is read again;
* `readOptionalFraction_text`, `readOffset_text`: the parts that are written in more than one way;
* `readStamp_text`: what is written is read again.
-/

namespace CursorPaging.Date

variable {s rest : List Char} {stamp : Stamp} {nanosecond : Nat} {offset : Int}

/-! ## Layouts -/

/-- The numerals of a day. -/
def dayForm (year month day : Nat) : List Char :=
  (Text.padded 4 year).toList ++ '-' :: ((Text.padded 2 month).toList ++
    '-' :: (Text.padded 2 day).toList)

/-- The numerals of a time of day. -/
def clockForm (hour minute second : Nat) : List Char :=
  (Text.padded 2 hour).toList ++ ':' :: ((Text.padded 2 minute).toList ++
    ':' :: (Text.padded 2 second).toList)

/-- The text of a full date-time: a day, a mark, a time of that day, the fraction of a second and an
offset. -/
inductive Layout : List Char → Stamp → Prop where
  | intro {year month day hour minute second nanosecond : Nat} {offset : Int} {mark : Char}
      {tail zone : List Char} (separates : mark = 'T' ∨ mark = 't' ∨ mark = ' ')
      (year_lt : year < 10000) (exists_day : Day.exists? ⟨year, month, day⟩ = true)
      (hour_le : hour ≤ 23) (minute_le : minute ≤ 59) (second_le : second ≤ 60)
      (fraction : readOptionalFraction tail = .ok (nanosecond, zone))
      (distance : readOffset zone = .ok (offset, [])) :
      Layout (dayForm year month day ++ mark :: (clockForm hour minute second ++ tail))
        ⟨⟨⟨year, month, day⟩, hour, minute, second, nanosecond⟩, offset⟩

theorem readSeparator_eq_ok_iff :
    readSeparator s = .ok rest ↔ ∃ mark, (mark = 'T' ∨ mark = 't' ∨ mark = ' ') ∧
      s = mark :: rest := by
  cases s with
  | nil => simp [readSeparator]
  | cons c s =>
    rw [readSeparator]
    split
    · rename_i h
      constructor
      · intro hs
        cases hs
        exact ⟨c, h, rfl⟩
      · rintro ⟨mark, -, hs⟩
        cases hs
        rfl
    · rename_i h
      refine ⟨nofun, ?_⟩
      rintro ⟨mark, hmark, hs⟩
      cases hs
      exact absurd hmark h

/-- A point in time is read from its layouts only. -/
theorem layout_of_readStamp (h : readStamp s = .ok stamp) : Layout s stamp := by
  obtain ⟨⟨year, s₁⟩, hyear, h⟩ := bind_eq_ok h
  obtain ⟨s₂, hdash, h⟩ := bind_eq_ok h
  obtain ⟨⟨month, s₃⟩, hmonth, h⟩ := bind_eq_ok h
  obtain ⟨s₄, hdash', h⟩ := bind_eq_ok h
  obtain ⟨⟨day, s₅⟩, hday, h⟩ := bind_eq_ok h
  obtain ⟨s₆, hmark, h⟩ := bind_eq_ok h
  obtain ⟨⟨hour, s₇⟩, hhour, h⟩ := bind_eq_ok h
  obtain ⟨s₈, hcolon, h⟩ := bind_eq_ok h
  obtain ⟨⟨minute, s₉⟩, hminute, h⟩ := bind_eq_ok h
  obtain ⟨s₁₀, hcolon', h⟩ := bind_eq_ok h
  obtain ⟨⟨second, tail⟩, hsecond, h⟩ := bind_eq_ok h
  obtain ⟨⟨nanosecond, zone⟩, hfraction, h⟩ := bind_eq_ok h
  obtain ⟨offset, hoffset, h⟩ := bind_eq_ok h
  obtain ⟨d, hd, h⟩ := bind_eq_ok h
  obtain ⟨hour', hhour', h⟩ := bind_eq_ok h
  obtain ⟨minute', hminute', h⟩ := bind_eq_ok h
  obtain ⟨second', hsecond', h⟩ := bind_eq_ok h
  cases h
  obtain ⟨year_lt, hs⟩ := (readExact_eq_ok_iff (by decide)).mp hyear
  obtain ⟨-, hs₂⟩ := (readExact_eq_ok_iff (by decide)).mp hmonth
  obtain ⟨-, hs₄⟩ := (readExact_eq_ok_iff (by decide)).mp hday
  obtain ⟨-, hs₆⟩ := (readExact_eq_ok_iff (by decide)).mp hhour
  obtain ⟨-, hs₈⟩ := (readExact_eq_ok_iff (by decide)).mp hminute
  obtain ⟨-, hs₁₀⟩ := (readExact_eq_ok_iff (by decide)).mp hsecond
  obtain rfl := readChar_eq_ok_iff.mp hdash
  obtain rfl := readChar_eq_ok_iff.mp hdash'
  obtain rfl := readChar_eq_ok_iff.mp hcolon
  obtain rfl := readChar_eq_ok_iff.mp hcolon'
  obtain ⟨mark, separates, rfl⟩ := readSeparator_eq_ok_iff.mp hmark
  obtain ⟨rfl, exists_day⟩ := checkDay_eq_ok_iff.mp hd
  obtain ⟨⟨-, hour_le⟩, rfl⟩ := inRange_eq_ok_iff.mp hhour'
  obtain ⟨⟨-, minute_le⟩, rfl⟩ := inRange_eq_ok_iff.mp hminute'
  obtain ⟨⟨-, second_le⟩, rfl⟩ := inRange_eq_ok_iff.mp hsecond'
  have hl := Layout.intro separates year_lt exists_day hour_le minute_le second_le hfraction
    (complete_eq_ok_iff.mp hoffset)
  rw [hs, hs₂, hs₄, hs₆, hs₈, hs₁₀]
  simpa only [dayForm, clockForm, List.append_assoc, List.cons_append] using hl

/-- Every layout of a point in time is read as it. -/
theorem Layout.readStamp_eq (h : Layout s stamp) : readStamp s = .ok stamp := by
  cases h with
  | @intro year month day hour minute second nanosecond offset mark tail zone separates year_lt
      exists_day hour_le minute_le second_le fraction distance =>
    obtain ⟨-, month_le, -, day_le⟩ := Day.bounds exists_day
    dsimp only at month_le day_le
    have hsep : ∀ rest, readSeparator (mark :: rest) = .ok rest :=
      fun rest => readSeparator_eq_ok_iff.mpr ⟨mark, separates, rfl⟩
    have hday := checkDay_eq_ok_iff.mpr ⟨rfl, exists_day⟩
    have hhour := inRange_eq_ok_iff.mpr ⟨⟨Nat.zero_le hour, hour_le⟩, rfl⟩
    have hminute := inRange_eq_ok_iff.mpr ⟨⟨Nat.zero_le minute, minute_le⟩, rfl⟩
    have hsecond := inRange_eq_ok_iff.mpr ⟨⟨Nat.zero_le second, second_le⟩, rfl⟩
    simp only [readStamp, dayForm, clockForm, List.append_assoc, List.cons_append,
      readExact_padded (show 1 ≤ 4 by decide) year_lt, readChar_self,
      readExact_two (show month < 100 by omega), readExact_two (show day < 100 by omega), hsep,
      readExact_two (show hour < 100 by omega), readExact_two (show minute < 100 by omega),
      readExact_two (show second < 100 by omega), fraction, distance, complete, hday, hhour,
      hminute, hsecond, bind, Except.bind, pure, Except.pure]

/-- A text is read as a full date-time if it has the layout of one. -/
theorem readStamp_eq_ok_iff : readStamp s = .ok stamp ↔ Layout s stamp :=
  ⟨layout_of_readStamp, Layout.readStamp_eq⟩

/-! ## Fractions -/

theorem readOptionalFraction_lt (h : readOptionalFraction s = .ok (nanosecond, rest)) :
    nanosecond < 1000000000 := by
  unfold readOptionalFraction at h
  split at h
  · rename_i s'
    obtain ⟨⟨n, rest'⟩, hn, h⟩ := bind_eq_ok h
    cases h
    obtain ⟨-, -, hsmall, hle, -⟩ := exists_someDigits 9 s'
    have hvalue : n = value (someDigits 9 s') := by
      unfold readNumber at hn
      dsimp only at hn
      split at hn <;> cases hn
      rfl
    generalize someDigits 9 s' = digits at *
    calc n * 10 ^ (9 - digits.length)
        < 10 ^ digits.length * 10 ^ (9 - digits.length) :=
          Nat.mul_lt_mul_of_pos_right (hvalue ▸ value_lt hsmall) (Nat.pow_pos (by decide))
      _ = 1000000000 := by rw [← Nat.pow_add, Nat.add_sub_cancel' hle]
  · cases h
    decide

/-- A fraction of at most nine digits is read with zeros for those that are left out. -/
theorem readFraction_padded {width n : Nat} (hpos : 1 ≤ width) (hle : width ≤ 9)
    (hn : n < 10 ^ width) (hrest : NoDigit rest) :
    readFraction ((Text.padded width n).toList ++ rest) = .ok (n * 10 ^ (9 - width), rest) := by
  obtain ⟨digits, hdigits, hlen, hsmall, hvalue⟩ := exists_digits hpos hn
  have htaken : someDigits 9 (digits.map Nat.digitChar ++ rest) = digits :=
    someDigits_append hsmall (by omega) fun _ => hrest
  have hnumber : readNumber 1 9 (digits.map Nat.digitChar ++ rest) = .ok (n, rest) :=
    readNumber_eq_ok_iff.mpr
      ⟨digits, rfl, hsmall, by omega, by omega, fun _ => hrest, hvalue.symm⟩
  have hdrop : rest.dropWhile Text.isDigit = rest := by
    cases rest with
    | nil => rfl
    | cons c rest =>
      have hc : Text.digit? c = none := hrest c rfl
      simp [Text.isDigit, hc]
  rw [hdigits, readFraction, htaken, hnumber, hlen]
  show Except.ok (n * 10 ^ (9 - width), rest.dropWhile Text.isDigit) = _
  rw [hdrop]

/-- A fraction is written with as many digits as it needs, or not at all if it is zero. -/
theorem readOptionalFraction_text (hn : nanosecond < 1000000000) (hrest : NoDigit rest)
    (hdot : rest.head? ≠ some '.') :
    readOptionalFraction ((fractionText nanosecond).toList ++ rest) = .ok (nanosecond, rest) := by
  have hwritten {width n : Nat} (hpos : 1 ≤ width) (hle : width ≤ 9) (hn : n < 10 ^ width) :
      readOptionalFraction (("." ++ Text.padded width n).toList ++ rest) =
        .ok (n * 10 ^ (9 - width), rest) := by
    rw [String.toList_append]
    exact readFraction_padded hpos hle hn hrest
  unfold fractionText
  split
  · rename_i hzero
    rw [hzero]
    show readOptionalFraction rest = .ok (0, rest)
    unfold readOptionalFraction
    split
    · exact absurd rfl hdot
    · rfl
  · split
    · rename_i hmilli
      rw [hwritten (by decide) (by decide) (by omega)]
      congr 2
      omega
    · split
      · rename_i hmicro
        rw [hwritten (by decide) (by decide) (by omega)]
        congr 2
        omega
      · rw [hwritten (by decide) (by decide) (by omega)]
        congr 2
        omega

/-! ## Offsets -/

/-- An offset that is read is a number of minutes less than a day. -/
theorem readOffset_bounds (h : readOffset s = .ok (offset, rest)) :
    s ≠ [] ∧ offset.natAbs < 86400 ∧ offset % 60 = 0 := by
  unfold readOffset at h
  split at h
  · cases h; simp
  · cases h; simp
  · obtain ⟨⟨west, s₁⟩, hsign, h⟩ := bind_eq_ok h
    obtain ⟨⟨hours, s₂⟩, -, h⟩ := bind_eq_ok h
    obtain ⟨s₃, -, h⟩ := bind_eq_ok h
    obtain ⟨⟨minutes, s₄⟩, -, h⟩ := bind_eq_ok h
    obtain ⟨minutes', hminutes, h⟩ := bind_eq_ok h
    obtain ⟨hours', hhours, h⟩ := bind_eq_ok h
    cases h
    obtain ⟨⟨-, hm⟩, rfl⟩ := inRange_eq_ok_iff.mp hminutes
    obtain ⟨⟨-, hh⟩, rfl⟩ := inRange_eq_ok_iff.mp hhours
    refine ⟨?_, ?_⟩
    · rintro rfl
      cases hsign
    · cases west <;> simp only [if_true, Bool.false_eq_true, if_false] <;> omega

theorem readOffset_signed {hours minutes : Nat} (hh : hours ≤ 23) (hm : minutes ≤ 59)
    (west : Bool) :
    readOffset ((if west then '-' else '+') :: ((Text.padded 2 hours).toList ++
        ':' :: (Text.padded 2 minutes).toList)) =
      .ok (if west then -((hours : Int) * 3600 + minutes * 60) else hours * 3600 + minutes * 60,
        []) := by
  have hhours (rest : List Char) := readExact_two (show hours < 100 by omega) rest
  have hminutes := readExact_two (show minutes < 100 by omega) []
  rw [List.append_nil] at hminutes
  have hh' := inRange_eq_ok_iff.mpr ⟨⟨Nat.zero_le hours, hh⟩, rfl⟩
  have hm' := inRange_eq_ok_iff.mpr ⟨⟨Nat.zero_le minutes, hm⟩, rfl⟩
  cases west <;>
    simp [readOffset, readSign, hhours, readChar_self, hminutes, hh', hm', bind, Except.bind, pure,
      Except.pure]

/-- A whole number of minutes is written without loss. -/
theorem readOffset_text (hlt : offset.natAbs < 86400) (hwhole : offset % 60 = 0) :
    readOffset (offsetText offset).toList = .ok (offset, []) := by
  obtain ⟨minutes, hminutes⟩ : ∃ minutes, (offset.natAbs + 30) / 60 = minutes := ⟨_, rfl⟩
  have htext : (offsetText offset).toList = (if decide (offset < 0) then '-' else '+') ::
      ((Text.padded 2 (minutes / 60)).toList ++ ':' :: (Text.padded 2 (minutes % 60)).toList) := by
    unfold offsetText
    rw [hminutes]
    by_cases hneg : offset < 0 <;> simp [hneg]
  rw [htext, readOffset_signed (by omega) (by omega)]
  congr 2
  split <;> rename_i hneg <;> simp only [decide_eq_true_eq] at hneg <;> omega

theorem head_offsetText (offset : Int) :
    (offsetText offset).toList.head? = some '+' ∨ (offsetText offset).toList.head? = some '-' := by
  unfold offsetText
  by_cases hneg : offset < 0 <;> simp [hneg]

/-! ## Written forms -/

/-- A date-time whose written form can be read: the year has four digits, and the offset is a number
of minutes less than a day. -/
structure Stamp.Writable (s : Stamp) : Prop where
  year_nonneg : 0 ≤ s.moment.day.year
  year_le : s.moment.day.year ≤ 9999
  exists_day : s.moment.day.exists? = true
  exists_clock : s.moment.clock.exists? = true
  offset_lt : s.offset.natAbs < 86400
  offset_whole : s.offset % 60 = 0

theorem Layout.writable (h : Layout s stamp) : stamp.Writable := by
  cases h with
  | intro separates year_lt exists_day hour_le minute_le second_le fraction distance =>
    obtain ⟨-, offset_lt, offset_whole⟩ := readOffset_bounds distance
    have hfraction := readOptionalFraction_lt fraction
    refine ⟨Int.natCast_nonneg _, ?_, exists_day, ?_, offset_lt, offset_whole⟩
    · dsimp only
      omega
    · simp only [Clock.exists?, Bool.and_eq_true, decide_eq_true_eq]
      omega

/-- What is written is read again. -/
theorem readStamp_text (h : stamp.Writable) : readStamp stamp.text.toList = .ok stamp := by
  obtain ⟨⟨⟨year, month, day⟩, hour, minute, second, nanosecond⟩, offset⟩ := stamp
  obtain ⟨hnonneg, hle, exists_day, exists_clock, offset_lt, offset_whole⟩ := h
  dsimp only at hnonneg hle exists_day exists_clock offset_lt offset_whole
  obtain ⟨year, rfl⟩ := Int.eq_ofNat_of_zero_le hnonneg
  simp only [Clock.exists?, Bool.and_eq_true, decide_eq_true_eq] at exists_clock
  obtain ⟨⟨⟨hour_lt, minute_lt⟩, second_le⟩, nanosecond_lt⟩ := exists_clock
  have hhead := head_offsetText offset
  have hdigit : NoDigit (offsetText offset).toList := by
    intro c hc
    rcases hhead with h | h <;> rw [h] at hc <;> cases hc <;> rfl
  have hdot : (offsetText offset).toList.head? ≠ some '.' := by
    rcases hhead with h | h <;> rw [h] <;> decide
  have htext :
      (Stamp.mk ⟨⟨year, month, day⟩, hour, minute, second, nanosecond⟩ offset).text.toList =
        dayForm year month day ++ 'T' :: (clockForm hour minute second ++
          ((fractionText nanosecond).toList ++ (offsetText offset).toList)) := by
    simp [Stamp.text, yearText, hle, dayForm, clockForm]
  have year_lt : year < 10000 := by omega
  have hour_le : hour ≤ 23 := by omega
  have minute_le : minute ≤ 59 := by omega
  rw [readStamp_eq_ok_iff, htext]
  exact .intro (.inl rfl) year_lt exists_day hour_le minute_le second_le
    (readOptionalFraction_text nanosecond_lt hdigit hdot) (readOffset_text offset_lt offset_whole)

end CursorPaging.Date
