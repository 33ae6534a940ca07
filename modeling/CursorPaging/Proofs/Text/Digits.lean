import CursorPaging.Text.Digits
import Mathlib.Algebra.Group.Nat.Defs
import Mathlib.Data.List.Induction

/-!
# Reading what was written

The decimal digits of a number read back as that number:

* `readDigits_append`: digits are read from the left;
* `digitsValue?_toDigits`, `unsigned?_decimal`: with and without the limit of a word;
* `digitsValue?_eq_some_iff`, `unsignedBelow?_eq_some_iff`: besides, only leading zeros and a sign
  lead to that number;
* `padded_one`, `padded_succ`, `length_padded`: numerals of a fixed width, digit by digit.
-/

namespace CursorPaging.Text

theorem hexDigit?_digitChar : ∀ d < 10, hexDigit? (Nat.digitChar d) = some d := by decide

theorem readDigits_append (base n : Nat) (s t : List Char) :
    readDigits base n (s ++ t) = (readDigits base n s).bind fun m => readDigits base m t := by
  induction s generalizing n with
  | nil => rfl
  | cons c s ih =>
    simp only [List.cons_append, readDigits]
    cases hexDigit? c with
    | none => rfl
    | some d =>
      dsimp only
      split
      · exact ih _
      · rfl

theorem readDigits_digitChar (n : Nat) {d : Nat} (hd : d < 10) :
    readDigits 10 n [Nat.digitChar d] = some (n * 10 + d) := by
  simp only [readDigits, hexDigit?_digitChar d hd, hd, if_true]

theorem readDigits_toDigits (n : Nat) : readDigits 10 0 (Nat.toDigits 10 n) = some n := by
  induction n using Nat.strongRecOn with
  | ind n ih =>
    rw [Nat.toDigits_eq_if (by decide)]
    split
    · rename_i hlt
      rw [readDigits_digitChar 0 hlt, Nat.zero_mul, Nat.zero_add]
    · rw [readDigits_append, ih (n / 10) (by omega), Option.bind_some,
        readDigits_digitChar _ (Nat.mod_lt n (by decide)), Nat.div_add_mod']

theorem digitsValue?_toDigits (n : Nat) : digitsValue? (Nat.toDigits 10 n) = some n := by
  have hne : Nat.toDigits 10 n ≠ [] := Nat.toDigits_ne_nil
  rw [digitsValue?, numeral?]
  · exact readDigits_toDigits n
  · exact hne

/-- Only a plus sign in front of the digits is no part of them. -/
theorem unsignedBelow?_of_no_sign {limit n : Nat} {s : List Char} (hs : '+' ∉ s)
    (hd : digitsValue? s = some n) (hn : n < limit) : unsignedBelow? limit s = some n := by
  unfold unsignedBelow?
  split
  · exact absurd List.mem_cons_self hs
  · simp only [hd, hn, if_true]

theorem unsigned?_decimal {n : Nat} (hn : n < wordLimit) : unsigned? (decimal n) = some n := by
  have hs : '+' ∉ Nat.toDigits 10 n := fun h =>
    absurd (Nat.isDigit_of_mem_toDigits (by decide) (by decide) h) (by decide)
  rw [unsigned?, decimal, String.toList_ofList]
  exact unsignedBelow?_of_no_sign hs (digitsValue?_toDigits n) hn

theorem decimal_ne_empty (n : Nat) : decimal n ≠ "" := Nat.repr_ne_empty

/-! ## All numerals of a number -/

theorem eq_digitChar_of_hexDigit? {c : Char} {d : Nat} (h : hexDigit? c = some d) (hd : d < 10) :
    c = Nat.digitChar d := by
  unfold hexDigit? at h
  split at h
  · rename_i hc
    have hn : 48 ≤ c.toNat ∧ c.toNat ≤ 57 := hc
    have hv : c.toNat - 48 = d := Option.some.inj h
    refine Char.toNat_inj.mp ?_
    rw [Nat.toNat_digitChar_of_lt_ten hd]
    omega
  · split at h
    · have := Option.some.inj h
      omega
    · split at h
      · have := Option.some.inj h
        omega
      · cases h

theorem readDigits_singleton {m n : Nat} {c : Char} (h : readDigits 10 m [c] = some n) :
    ∃ d < 10, c = Nat.digitChar d ∧ n = m * 10 + d := by
  rw [readDigits] at h
  split at h
  · rename_i d hc
    split at h
    · rename_i hd
      exact ⟨d, hd, eq_digitChar_of_hexDigit? hc hd, (Option.some.inj h).symm⟩
    · cases h
  · cases h

theorem readDigits_zeros (zeros : Nat) : readDigits 10 0 (List.replicate zeros '0') = some 0 := by
  induction zeros with
  | zero => rfl
  | succ zeros ih =>
    rw [List.replicate_succ, readDigits]
    exact ih

/-- One more digit after leading zeros and a number. -/
theorem zeros_toDigits_concat (zeros m : Nat) {d : Nat} (hd : d < 10) :
    ∃ zeros', List.replicate zeros '0' ++ Nat.toDigits 10 m ++ [Nat.digitChar d] =
      List.replicate zeros' '0' ++ Nat.toDigits 10 (m * 10 + d) := by
  rcases Nat.eq_zero_or_pos m with rfl | hm
  · refine ⟨zeros + 1, ?_⟩
    rw [Nat.zero_mul, Nat.zero_add, Nat.toDigits_of_lt_base hd, List.replicate_succ']
    rfl
  · refine ⟨zeros, ?_⟩
    rw [Nat.toDigits_eq_if (by decide) (n := m * 10 + d), if_neg (by omega),
      show (m * 10 + d) / 10 = m by omega, show (m * 10 + d) % 10 = d by omega, List.append_assoc]

/-- The numerals of a number are its digits after any zeros. -/
theorem digitsValue?_eq_some_iff {s : List Char} {n : Nat} :
    digitsValue? s = some n ↔ ∃ zeros, s = List.replicate zeros '0' ++ Nat.toDigits 10 n := by
  constructor
  · intro h
    induction s using List.reverseRecOn generalizing n with
    | nil => cases h
    | append_singleton s c ih =>
      rw [digitsValue?, numeral?, readDigits_append] at h
      · obtain ⟨m, hm, hc⟩ := Option.bind_eq_some_iff.mp h
        obtain ⟨d, hd, rfl, rfl⟩ := readDigits_singleton hc
        cases s with
        | nil =>
          cases hm
          refine ⟨0, ?_⟩
          rw [Nat.zero_mul, Nat.zero_add, Nat.toDigits_of_lt_base hd]
          rfl
        | cons e s =>
          obtain ⟨zeros, hs⟩ := ih hm
          rw [hs]
          exact zeros_toDigits_concat zeros m hd
      · exact List.concat_ne_nil c s
  · rintro ⟨zeros, rfl⟩
    rw [digitsValue?, numeral?, readDigits_append, readDigits_zeros]
    · exact readDigits_toDigits n
    · exact List.append_ne_nil_of_right_ne_nil _ Nat.toDigits_ne_nil

/-- The text is the digits of the number, with leading zeros or without, perhaps after a plus
sign. -/
def IsNumeral (s : List Char) (n : Nat) : Prop :=
  ∃ sign zeros, (sign = [] ∨ sign = ['+']) ∧
    s = sign ++ (List.replicate zeros '0' ++ Nat.toDigits 10 n)

theorem plus_not_mem_numeral (zeros n : Nat) :
    '+' ∉ List.replicate zeros '0' ++ Nat.toDigits 10 n := by
  intro h
  rcases List.mem_append.mp h with h | h
  · exact absurd (List.eq_of_mem_replicate h) (by decide)
  · exact absurd (Nat.isDigit_of_mem_toDigits (by decide) (by decide) h) (by decide)

/-- A number is read from all its numerals if it is below the limit. -/
theorem unsignedBelow?_eq_some_iff {limit n : Nat} {s : List Char} :
    unsignedBelow? limit s = some n ↔ IsNumeral s n ∧ n < limit := by
  constructor
  · intro h
    have numeral {digits : List Char} (hs : s = digits ∨ s = '+' :: digits) {m : Nat}
        (hm : digitsValue? digits = some m) : IsNumeral s m := by
      obtain ⟨zeros, hz⟩ := digitsValue?_eq_some_iff.mp hm
      rcases hs with rfl | rfl
      · exact ⟨[], zeros, .inl rfl, hz⟩
      · exact ⟨['+'], zeros, .inr rfl, by rw [hz]; rfl⟩
    unfold unsignedBelow? at h
    -- With and without the sign it is the same from here on.
    split at h
    all_goals
      dsimp only at h
      split at h
      · rename_i m hm
        split at h
        · rename_i hlt
          obtain rfl := Option.some.inj h
          exact ⟨numeral (by simp) hm, hlt⟩
        · cases h
      · cases h
  · rintro ⟨⟨sign, zeros, hsign, rfl⟩, hlt⟩
    have hd := digitsValue?_eq_some_iff (n := n).mpr ⟨zeros, rfl⟩
    rcases hsign with rfl | rfl
    · exact unsignedBelow?_of_no_sign (plus_not_mem_numeral zeros n) hd hlt
    · simp only [unsignedBelow?, List.cons_append, List.nil_append, hd, hlt, if_true]

/-! ## Numerals of a fixed width -/

theorem digit?_digitChar : ∀ d < 10, digit? (Nat.digitChar d) = some d := by decide

theorem eq_digitChar_of_digit? {c : Char} {d : Nat} (h : digit? c = some d) :
    d < 10 ∧ c = Nat.digitChar d := by
  unfold digit? at h
  split at h
  · rename_i hc
    have hn : 48 ≤ c.toNat ∧ c.toNat ≤ 57 := hc
    have hd : c.toNat - 48 = d := Option.some.inj h
    have hlt : d < 10 := by omega
    refine ⟨hlt, Char.toNat_inj.mp ?_⟩
    rw [Nat.toNat_digitChar_of_lt_ten hlt]
    omega
  · cases h

theorem padded_one {d : Nat} (hd : d < 10) : (padded 1 d).toList = [Nat.digitChar d] := by
  rw [padded, String.toList_ofList, Nat.toDigits_of_lt_base hd]
  rfl

/-- The number without its last digit, and that digit. -/
theorem padded_succ {width : Nat} (hw : 1 ≤ width) (n : Nat) :
    (padded (width + 1) n).toList =
      (padded width (n / 10)).toList ++ [Nat.digitChar (n % 10)] := by
  simp only [padded, String.toList_ofList]
  rw [Nat.toDigits_eq_if (by decide) (n := n)]
  split
  · rename_i h
    rw [Nat.div_eq_of_lt h, Nat.mod_eq_of_lt h]
    congr 1
    obtain ⟨w, rfl⟩ : ∃ w, width = w + 1 := ⟨width - 1, by omega⟩
    exact List.replicate_succ'
  · rw [List.length_append, List.length_singleton, Nat.add_sub_add_right, List.append_assoc]

theorem length_padded {width n : Nat} (hw : 1 ≤ width) (hn : n < 10 ^ width) :
    (padded width n).toList.length = width := by
  induction width generalizing n with
  | zero => omega
  | succ width ih =>
    rcases Nat.eq_zero_or_pos width with rfl | hpos
    · rw [padded_one (by simpa using hn)]; rfl
    · have hdiv : n / 10 < 10 ^ width := by rw [Nat.pow_succ] at hn; omega
      rw [padded_succ hpos, List.length_append, ih hpos hdiv, List.length_singleton]

end CursorPaging.Text
