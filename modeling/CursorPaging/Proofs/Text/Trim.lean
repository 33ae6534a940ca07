import CursorPaging.Text.Blank

/-!
# Blanks around a text

Trimming takes off the blanks around a text and nothing else:

* `takeWhile_append_of_stop`, `dropWhile_append_of_stop`: a run of characters ends where the next
  character is of another kind;
* `trim_append`: blanks around a trimmed text do not show;
* `exists_trim`: every text is a trimmed one with blanks around it.
-/

namespace CursorPaging.Text

variable {p : Char → Bool} {s w w' : List Char}

/-- A run of characters goes as far as they are of one kind. -/
theorem takeWhile_append_of_stop (hw : ∀ c ∈ w, p c = true)
    (stop : ∀ c, s.head? = some c → p c = false) : (w ++ s).takeWhile p = w := by
  rw [List.takeWhile_append_of_pos hw]
  cases s with
  | nil => exact List.append_nil w
  | cons c s => rw [List.takeWhile_cons, stop c rfl, if_neg Bool.false_ne_true, List.append_nil]

theorem dropWhile_append_of_stop (hw : ∀ c ∈ w, p c = true)
    (stop : ∀ c, s.head? = some c → p c = false) : (w ++ s).dropWhile p = s := by
  rw [List.dropWhile_append_of_pos hw]
  cases s with
  | nil => rfl
  | cons c s => rw [List.dropWhile_cons, stop c rfl, if_neg Bool.false_ne_true]

theorem stop_dropWhile (p : Char → Bool) (s : List Char) {c : Char}
    (h : (s.dropWhile p).head? = some c) : p c = false := by
  have := List.head?_dropWhile_not p s
  rwa [h] at this

theorem isEmpty_dropWhile (p : Char → Bool) (s : List Char) :
    (s.dropWhile p).isEmpty = s.all p := by
  induction s with
  | nil => rfl
  | cons c s ih =>
    rw [List.dropWhile_cons, List.all_cons]
    cases p c with
    | false => rfl
    | true => exact ih

theorem of_mem_takeWhile {c : Char} (h : c ∈ s.takeWhile p) : p c = true :=
  List.all_eq_true.mp List.all_takeWhile c h

/-- The text consists of blanks. -/
def Blank (s : List Char) : Prop := ∀ c ∈ s, isBlank c = true

theorem blank_nil : Blank [] := fun _ h => absurd h List.not_mem_nil

theorem blank_space : Blank [' '] := by
  intro c h
  obtain rfl := List.mem_singleton.mp h
  rfl

theorem Blank.append (h : Blank w) (h' : Blank w') : Blank (w ++ w') := by
  intro c hc
  rcases List.mem_append.mp hc with hc | hc
  · exact h c hc
  · exact h' c hc

theorem isAlphanum_of_isBlank {c : Char} (h : isBlank c = true) : c.isAlphanum = false := by
  simp only [isBlank, Bool.or_eq_true, Bool.and_eq_true, decide_eq_true_eq, beq_iff_eq,
    Char.toNat] at h
  delta Char.isAlphanum Char.isAlpha Char.isUpper Char.isLower Char.isDigit
  simp only [ge_iff_le, Char.reduceVal, UInt32.le_iff_toNat_le, UInt32.reduceToNat,
    Bool.or_eq_false_iff, Bool.and_eq_false_iff, decide_eq_false_iff_not]
  omega

/-- The text starts and ends with no blank. -/
structure Trimmed (s : List Char) : Prop where
  head : ∀ c, s.head? = some c → isBlank c = false
  last : ∀ c, s.getLast? = some c → isBlank c = false

theorem trimEnd_append (hw : Blank w) (last : ∀ c, s.getLast? = some c → isBlank c = false) :
    trimEnd (s ++ w) = s := by
  have hw' : ∀ c ∈ w.reverse, isBlank c = true := fun c hc => hw c (List.mem_reverse.mp hc)
  rw [trimEnd, List.reverse_append, dropWhile_append_of_stop hw', List.reverse_reverse]
  intro c hc
  rw [List.head?_reverse] at hc
  exact last c hc

/-- Blanks around a trimmed text are taken off. -/
theorem trim_append (hw : Blank w) (hw' : Blank w') (h : Trimmed s) :
    trim (w ++ (s ++ w')) = s := by
  cases s with
  | nil =>
    have hd : (w ++ ([] ++ w')).dropWhile isBlank = [] := by
      have := dropWhile_append_of_stop (s := []) (hw.append hw') nofun
      rwa [List.append_nil] at this
    rw [trim, hd]
    rfl
  | cons c s =>
    rw [trim, dropWhile_append_of_stop hw (s := c :: s ++ w') (fun d hd => h.head d hd)]
    exact trimEnd_append hw' h.last

/-- The blanks that are taken off the end. -/
theorem exists_trimEnd (s : List Char) :
    ∃ w, Blank w ∧ s = trimEnd s ++ w ∧ ∀ c, (trimEnd s).getLast? = some c → isBlank c = false := by
  refine ⟨(s.reverse.takeWhile isBlank).reverse, fun c hc => ?_, ?_, fun c hc => ?_⟩
  · exact of_mem_takeWhile (List.mem_reverse.mp hc)
  · rw [trimEnd, ← List.reverse_append, List.takeWhile_append_dropWhile, List.reverse_reverse]
  · rw [trimEnd, List.getLast?_reverse] at hc
    exact stop_dropWhile isBlank _ hc

/-- Trimming the end of a text changes nothing before a character that is not blank. -/
theorem trimEnd_append_eq (s s' : List Char) :
    trimEnd (s ++ s') = if trimEnd s' = [] then trimEnd s else s ++ trimEnd s' := by
  rw [trimEnd, trimEnd, trimEnd, List.reverse_append, List.dropWhile_append]
  cases s'.reverse.dropWhile isBlank with
  | nil => rfl
  | cons c r => simp

theorem trimEnd_eq_nil_iff : trimEnd s = [] ↔ s.all isBlank = true := by
  rw [List.all_eq_true]
  constructor
  · intro h
    obtain ⟨w, hw, hs, -⟩ := exists_trimEnd s
    rw [h] at hs
    rwa [hs]
  · exact fun h => trimEnd_append (s := []) h nofun

theorem trimEnd_cons (c : Char) (s : List Char) :
    trimEnd (c :: s) = if (c :: s).all isBlank then [] else c :: trimEnd s := by
  split
  · exact trimEnd_eq_nil_iff.mpr (by assumption)
  · rename_i hb
    rw [← List.singleton_append, trimEnd_append_eq]
    split
    · rename_i hs
      rw [List.all_cons, trimEnd_eq_nil_iff.mp hs, Bool.and_true, Bool.not_eq_true] at hb
      rw [hs, trimEnd, List.reverse_singleton, List.dropWhile_cons_of_neg (by simp [hb])]
      rfl
    · rfl

/-- What is left of the end of a text is left of the text. -/
theorem mem_trimEnd_append {c : Char} {s' : List Char} (h : c ∈ trimEnd s') :
    c ∈ trimEnd (s ++ s') := by
  rw [trimEnd_append_eq, if_neg (List.ne_nil_of_mem h)]
  exact List.mem_append_right s h

theorem exists_trim (s : List Char) :
    ∃ w w', Blank w ∧ Blank w' ∧ s = w ++ (trim s ++ w') ∧ Trimmed (trim s) := by
  obtain ⟨w', hw', hs, hlast⟩ := exists_trimEnd (s.dropWhile isBlank)
  refine ⟨s.takeWhile isBlank, w', fun c => of_mem_takeWhile, hw', ?_, fun c hc => ?_, hlast⟩
  · rw [trim, ← hs, List.takeWhile_append_dropWhile]
  · refine stop_dropWhile isBlank s ?_
    rw [hs, List.head?_append, show (trimEnd (s.dropWhile isBlank)).head? = some c from hc]
    rfl

end CursorPaging.Text
