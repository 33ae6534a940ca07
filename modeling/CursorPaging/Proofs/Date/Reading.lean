import CursorPaging.Date.Text
import CursorPaging.Proofs.Text.Digits
import Mathlib.Data.List.Induction

/-!
# Reading the parts of dates

A number in a date ends where its width does or where no digit follows. Readers of numbers are
described by the digits they take, so that what is read from a text is also read from a longer one:

* `value_concat`, `value_lt`, `padded_value`: digits, the number they stand for, and its numeral;
* `readNumber_eq_ok_iff`, `readNumber_append`: numbers of varying width;
* `readExact_eq_ok_iff`: a number of fixed width is read from its numeral, and from nothing else;
* `readChar_eq_ok_iff`, `complete_eq_ok_iff`, `checkDay_eq_ok_iff`: what stands between numbers and
  after them, and the days there are.
-/

namespace CursorPaging.Date

variable {least most width n : Nat} {s rest t : List Char} {digits : List Nat}

/-! ## Digits -/

theorem value_concat (digits : List Nat) (d : Nat) :
    value (digits ++ [d]) = value digits * 10 + d := by
  simp [value]

theorem value_lt (h : ∀ d ∈ digits, d < 10) : value digits < 10 ^ digits.length := by
  induction digits using List.reverseRecOn with
  | nil => decide
  | append_singleton digits d ih =>
    simp only [List.forall_mem_append, List.forall_mem_singleton] at h
    have := ih h.1
    rw [value_concat, List.length_append, List.length_singleton, Nat.pow_succ]
    omega

/-- Digits are the numeral of the number they stand for. -/
theorem padded_value (h : ∀ d ∈ digits, d < 10) (hne : digits ≠ []) :
    (Text.padded digits.length (value digits)).toList = digits.map Nat.digitChar := by
  induction digits using List.reverseRecOn with
  | nil => exact absurd rfl hne
  | append_singleton digits d ih =>
    simp only [List.forall_mem_append, List.forall_mem_singleton] at h
    obtain ⟨h, hd⟩ := h
    rw [value_concat, List.length_append, List.length_singleton, List.map_append]
    rcases List.eq_nil_or_concat digits with rfl | ⟨init, last, hl⟩
    · simpa [value] using Text.padded_one hd
    · have hpos : 1 ≤ digits.length := by simp [hl]
      rw [Text.padded_succ hpos, show (value digits * 10 + d) / 10 = value digits by omega,
        show (value digits * 10 + d) % 10 = d by omega, ih h (by simp [hl])]
      rfl

/-- A numeral consists of digits. -/
theorem exists_digits (hw : 1 ≤ width) (hn : n < 10 ^ width) :
    ∃ digits : List Nat, (Text.padded width n).toList = digits.map Nat.digitChar ∧
      digits.length = width ∧ (∀ d ∈ digits, d < 10) ∧ value digits = n := by
  induction width generalizing n with
  | zero => omega
  | succ width ih =>
    rcases Nat.eq_zero_or_pos width with rfl | hpos
    · have hd : n < 10 := by simpa using hn
      exact ⟨[n], Text.padded_one hd, rfl, by simpa using hd, by simp [value]⟩
    · have hdiv : n / 10 < 10 ^ width := by rw [Nat.pow_succ] at hn; omega
      obtain ⟨digits, hdigits, hlen, hsmall, hvalue⟩ := ih hpos hdiv
      refine ⟨digits ++ [n % 10], ?_, by simp [hlen], ?_, ?_⟩
      · rw [Text.padded_succ hpos, hdigits, List.map_append]
        rfl
      · simp only [List.forall_mem_append, List.forall_mem_singleton]
        exact ⟨hsmall, Nat.mod_lt n (by decide)⟩
      · rw [value_concat, hvalue]
        omega

/-! ## Numbers of varying width -/

/-- No digit comes next. -/
def NoDigit (s : List Char) : Prop := ∀ c ∈ s.head?, Text.digit? c = none

theorem noDigit_nil : NoDigit [] := nofun

theorem noDigit_cons {c : Char} (h : Text.digit? c = none) (s : List Char) : NoDigit (c :: s) := by
  intro c' hc
  obtain rfl : c = c' := by simpa using hc
  exact h

theorem NoDigit.append (h : NoDigit s) (ht : NoDigit t) : NoDigit (s ++ t) := by
  cases s with
  | nil => exact ht
  | cons c s => exact h

/-- The digits that are taken, and why they end. -/
theorem someDigits_append (hsmall : ∀ d ∈ digits, d < 10) (hle : digits.length ≤ most)
    (hstop : digits.length < most → NoDigit rest) :
    someDigits most (digits.map Nat.digitChar ++ rest) = digits := by
  induction digits generalizing most with
  | nil =>
    cases most with
    | zero => rfl
    | succ most =>
      cases rest with
      | nil => rfl
      | cons c rest =>
        have hc : Text.digit? c = none := hstop (Nat.succ_pos _) c rfl
        simp [someDigits, hc]
  | cons d digits ih =>
    obtain ⟨hd, hsmall⟩ := List.forall_mem_cons.mp hsmall
    cases most with
    | zero => simp at hle
    | succ most =>
      rw [List.length_cons] at hle hstop
      rw [List.map_cons, List.cons_append, someDigits, Text.digit?_digitChar d hd]
      dsimp only
      rw [ih hsmall (by omega) (fun h => hstop (by omega))]

/-- As many digits are taken as there are, up to the most. -/
theorem exists_someDigits (most : Nat) (s : List Char) :
    ∃ rest, s = (someDigits most s).map Nat.digitChar ++ rest ∧
      (∀ d ∈ someDigits most s, d < 10) ∧ (someDigits most s).length ≤ most ∧
      ((someDigits most s).length < most → NoDigit rest) := by
  induction s generalizing most with
  | nil =>
    have hnil : someDigits most [] = [] := by cases most <;> rfl
    rw [hnil]
    exact ⟨[], rfl, nofun, Nat.zero_le _, fun _ => noDigit_nil⟩
  | cons c s ih =>
    cases most with
    | zero => exact ⟨c :: s, rfl, nofun, Nat.le_refl _, fun h => absurd h (Nat.lt_irrefl 0)⟩
    | succ most =>
      rw [someDigits]
      cases hc : Text.digit? c with
      | none => exact ⟨c :: s, rfl, nofun, Nat.zero_le _, fun _ => noDigit_cons hc s⟩
      | some d =>
        obtain ⟨hd, rfl⟩ := Text.eq_digitChar_of_digit? hc
        obtain ⟨rest, hs, hsmall, hle, hstop⟩ := ih most
        refine ⟨rest, ?_, List.forall_mem_cons.mpr ⟨hd, hsmall⟩, Nat.succ_le_succ hle,
          fun h => hstop (Nat.lt_of_succ_lt_succ h)⟩
        exact congrArg (Nat.digitChar d :: ·) hs

/-- A number is read from its digits, as many as are there and fit. -/
theorem readNumber_eq_ok_iff :
    readNumber least most s = .ok (n, rest) ↔
      ∃ digits : List Nat, s = digits.map Nat.digitChar ++ rest ∧ (∀ d ∈ digits, d < 10) ∧
        least ≤ digits.length ∧ digits.length ≤ most ∧ (digits.length < most → NoDigit rest) ∧
        n = value digits := by
  constructor
  · intro h
    obtain ⟨rest', hs, hsmall, hle, hstop⟩ := exists_someDigits most s
    unfold readNumber at h
    generalize someDigits most s = digits at *
    subst hs
    dsimp only at h
    split at h
    · cases h
    · rename_i hleast
      rw [List.drop_left' (List.length_map ..)] at h
      cases h
      exact ⟨digits, rfl, hsmall, by omega, hle, hstop, rfl⟩
  · rintro ⟨digits, rfl, hsmall, hleast, hle, hstop, rfl⟩
    have hdigits := someDigits_append hsmall hle hstop
    simp only [readNumber, hdigits, if_neg (Nat.not_lt.mpr hleast)]
    simp

/-- What comes after a number may go on, if not with a digit. -/
theorem readNumber_append (h : readNumber least most s = .ok (n, rest)) (ht : NoDigit t) :
    readNumber least most (s ++ t) = .ok (n, rest ++ t) := by
  obtain ⟨digits, rfl, hsmall, hleast, hle, hstop, rfl⟩ := readNumber_eq_ok_iff.mp h
  exact readNumber_eq_ok_iff.mpr ⟨digits, List.append_assoc .., hsmall, hleast, hle,
    fun hlt => (hstop hlt).append ht, rfl⟩

/-- A number as long as the text is one without a limit. -/
theorem readNumber_unlimited (h : readNumber least s.length s = .ok (n, rest))
    (hmost : s.length ≤ most) : readNumber least most s = .ok (n, rest) := by
  obtain ⟨digits, hs, hsmall, hleast, hle, hstop, rfl⟩ := readNumber_eq_ok_iff.mp h
  refine readNumber_eq_ok_iff.mpr ⟨digits, hs, hsmall, hleast, Nat.le_trans hle hmost, ?_, rfl⟩
  intro _
  rcases Nat.lt_or_eq_of_le hle with hlt | heq
  · exact hstop hlt
  · have hlen := congrArg List.length hs
    rw [List.length_append, List.length_map, heq] at hlen
    rw [List.eq_nil_of_length_eq_zero (by omega : rest.length = 0)]
    exact noDigit_nil

/-! ## Numbers of fixed width -/

/-- A number of fixed width is read from its numeral and from nothing else. -/
theorem readExact_eq_ok_iff (hw : 1 ≤ width) :
    readExact width s = .ok (n, rest) ↔
      n < 10 ^ width ∧ s = (Text.padded width n).toList ++ rest := by
  rw [readExact, readNumber_eq_ok_iff]
  constructor
  · rintro ⟨digits, rfl, hsmall, hleast, hle, -, rfl⟩
    obtain rfl : digits.length = width := Nat.le_antisymm hle hleast
    have hne : digits ≠ [] := List.ne_nil_of_length_pos hw
    exact ⟨value_lt hsmall, by rw [padded_value hsmall hne]⟩
  · rintro ⟨hn, rfl⟩
    obtain ⟨digits, hdigits, hlen, hsmall, hvalue⟩ := exists_digits hw hn
    exact ⟨digits, by rw [hdigits], hsmall, by omega, by omega, fun h => by omega, hvalue.symm⟩

/-- A number that is written with a width is read with this width. -/
theorem readExact_padded (hw : 1 ≤ width) (hn : n < 10 ^ width) (rest : List Char) :
    readExact width ((Text.padded width n).toList ++ rest) = .ok (n, rest) :=
  (readExact_eq_ok_iff hw).mpr ⟨hn, rfl⟩

theorem readExact_two (hn : n < 100) (rest : List Char) :
    readExact 2 ((Text.padded 2 n).toList ++ rest) = .ok (n, rest) :=
  readExact_padded (by decide) hn rest

/-! ## Marks, ranges and ends -/

theorem readChar_eq_ok_iff {c : Char} : readChar c s = .ok rest ↔ s = c :: rest := by
  cases s with
  | nil => simp [readChar]
  | cons d s =>
    rw [readChar]
    split
    · rename_i h
      simp [h]
    · rename_i h
      simp [h]

theorem readChar_self (c : Char) (rest : List Char) : readChar c (c :: rest) = .ok rest :=
  readChar_eq_ok_iff.mpr rfl

theorem inRange_eq_ok_iff {low high m : Nat} :
    inRange low high n = .ok m ↔ (low ≤ n ∧ n ≤ high) ∧ n = m := by
  unfold inRange
  split
  · rename_i h
    simp [h]
  · rename_i h
    simp [h]

theorem complete_eq_ok_iff {α : Type} {x : Except ReadError (α × List Char)} {a : α} :
    complete x = .ok a ↔ x = .ok (a, []) := by
  unfold complete
  split <;> simp

theorem checkDay_eq_ok_iff {year : Int} {month day : Nat} {d : Day} :
    checkDay year month day = .ok d ↔ d = ⟨year, month, day⟩ ∧ d.exists? = true := by
  unfold checkDay
  split
  · rename_i h
    constructor
    · intro hd
      cases hd
      exact ⟨rfl, h⟩
    · rintro ⟨rfl, -⟩
      rfl
  · rename_i h
    refine ⟨nofun, ?_⟩
    rintro ⟨rfl, hd⟩
    exact absurd hd h

/-- The calendar has no day that takes more than two digits for its month or its day. -/
theorem Day.bounds {d : Day} (h : d.exists? = true) :
    1 ≤ d.month ∧ d.month ≤ 12 ∧ 1 ≤ d.day ∧ d.day ≤ 31 := by
  have hle : daysInMonth d.year d.month ≤ 31 := by
    unfold daysInMonth
    split
    · split <;> decide
    · split <;> decide
  simp only [Day.exists?, Bool.and_eq_true, decide_eq_true_eq] at h
  omega

end CursorPaging.Date
