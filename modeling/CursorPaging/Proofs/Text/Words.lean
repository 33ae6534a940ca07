import CursorPaging.Proofs.Text.Trim

/-!
# Words between blanks

A text is laid out as some words if these stand in it in order, with blanks around them and at least
one blank between two of them (`Spread`). Every text is laid out in exactly one way:

* `words_blank_append`, `words_append`: words are read from the left;
* `Spread.words_eq`, `spread_words`: a layout is read back, and there always is one;
* `wordsOf_eq_iff`: both, for the words of a string.
-/

namespace CursorPaging.Text

variable {b w s : List Char} {ws : List (List Char)}

/-- Some characters, none of which is blank. -/
structure IsWord (w : List Char) : Prop where
  ne_nil : w ≠ []
  solid : ∀ c ∈ w, isBlank c = false

theorem isWord_iff : IsWord w ↔ w ≠ [] ∧ w.all (fun c => !isBlank c) = true := by
  simp only [List.all_eq_true, Bool.not_eq_true']
  exact ⟨fun h => ⟨h.ne_nil, h.solid⟩, fun h => ⟨h.1, h.2⟩⟩

instance (w : List Char) : Decidable (IsWord w) := decidable_of_iff _ isWord_iff.symm

/-- No word goes on here: the text is at its end, or it starts with a blank. -/
def Breaks (s : List Char) : Prop := ∀ c, s.head? = some c → isBlank c = true

/-- The text consists of the words and of blanks around and between them. -/
inductive Spread : List (List Char) → List Char → Prop where
  | nil {b : List Char} (blank : Blank b) : Spread [] b
  | cons {b w s : List Char} {ws : List (List Char)} (blank : Blank b) (word : IsWord w)
    (breaks : Breaks s) (rest : Spread ws s) : Spread (w :: ws) (b ++ (w ++ s))

/-! ## Reading a layout -/

theorem words_blank_append (hb : Blank b) (s : List Char) : words (b ++ s) = words s := by
  induction b with
  | nil => rfl
  | cons c b ih =>
    obtain ⟨hc, hb⟩ := List.forall_mem_cons.mp hb
    rw [List.cons_append, words_blank hc, ih hb]

theorem words_solid_cons {c d : Char} (hc : isBlank c = false) (hd : isBlank d = false)
    (s : List Char) : words (c :: d :: s) = growWord c (words (d :: s)) := by
  simp only [words, hc, hd, Bool.false_eq_true, if_false]

theorem words_append (hw : IsWord w) (hs : Breaks s) : words (w ++ s) = w :: words s := by
  obtain ⟨hne, hsolid⟩ := hw
  induction w with
  | nil => exact absurd rfl hne
  | cons c w ih =>
    obtain ⟨hc, hw⟩ := List.forall_mem_cons.mp hsolid
    cases w with
    | nil =>
      cases s with
      | nil => simp [words, hc]
      | cons d s =>
        have hd : isBlank d = true := hs d rfl
        simp [words, hc, hd]
    | cons d w =>
      have hd : isBlank d = false := hw d List.mem_cons_self
      have := ih (List.cons_ne_nil _ _) hw
      rw [List.cons_append] at this
      rw [List.cons_append, List.cons_append, words_solid_cons hc hd, this]
      rfl

/-- A row of words is read from every way to spread it. -/
theorem Spread.words_eq (h : Spread ws s) : words s = ws := by
  induction h with
  | @nil b hb =>
    have := words_blank_append hb []
    rwa [List.append_nil] at this
  | cons hb hw breaks _ ih => rw [words_blank_append hb, words_append hw breaks, ih]

/-! ## Every text has a layout -/

theorem Spread.blank_cons {c : Char} (hc : isBlank c = true) (h : Spread ws s) :
    Spread ws (c :: s) := by
  cases h with
  | nil hb => exact .nil (List.forall_mem_cons.mpr ⟨hc, hb⟩)
  | cons hb hw breaks rest =>
    exact .cons (List.forall_mem_cons.mpr ⟨hc, hb⟩) hw breaks rest

/-- A character in front of a word makes the word longer. -/
theorem Spread.solid_cons {c d : Char} (hc : isBlank c = false) (hd : isBlank d = false)
    (h : Spread ws (d :: s)) : Spread (growWord c ws) (c :: d :: s) := by
  generalize hds : d :: s = text at h
  cases h with
  | nil hb =>
    have := hb d (by rw [← hds]; exact List.mem_cons_self)
    rw [hd] at this
    cases this
  | @cons b w s' ws hb hw breaks rest =>
    cases b with
    | nil =>
      refine .cons (b := []) (w := c :: w) blank_nil ⟨List.cons_ne_nil _ _, ?_⟩ breaks rest
      exact List.forall_mem_cons.mpr ⟨hc, hw.solid⟩
    | cons e b =>
      cases hds
      have := hb d List.mem_cons_self
      rw [hd] at this
      cases this

/-- Every text is a row of words that is spread. -/
theorem spread_words (s : List Char) : Spread (words s) s := by
  induction s with
  | nil => exact .nil blank_nil
  | cons c s ih =>
    cases hc : isBlank c with
    | true =>
      rw [words_blank hc]
      exact ih.blank_cons hc
    | false =>
      have hword : IsWord [c] := ⟨List.cons_ne_nil _ _, by simpa using hc⟩
      cases s with
      | nil =>
        rw [show words [c] = [[c]] by simp [words, hc]]
        exact .cons (b := []) blank_nil hword (fun _ h => by cases h) (.nil blank_nil)
      | cons d s =>
        cases hd : isBlank d with
        | true =>
          rw [show words (c :: d :: s) = [c] :: words (d :: s) by simp [words, hc, hd]]
          refine .cons (b := []) (w := [c]) blank_nil hword (fun e he => ?_) ih
          cases he
          exact hd
        | false =>
          rw [words_solid_cons hc hd]
          exact ih.solid_cons hc hd

theorem Spread.isWord (h : Spread ws s) : ∀ w ∈ ws, IsWord w := by
  induction h with
  | nil => simp
  | cons _ hw _ _ ih => exact List.forall_mem_cons.mpr ⟨hw, ih⟩

/-- The words, each after a space. -/
theorem spread_spaced (h : ∀ w ∈ ws, IsWord w) : Spread ws (ws.flatMap (' ' :: ·)) := by
  induction ws with
  | nil => exact .nil blank_nil
  | cons w ws ih =>
    obtain ⟨hw, hws⟩ := List.forall_mem_cons.mp h
    have breaks : Breaks (ws.flatMap (' ' :: ·)) := by
      intro c hc
      cases ws with
      | nil => cases hc
      | cons v ws => cases hc; rfl
    rw [List.flatMap_cons]
    exact .cons blank_space hw breaks (ih hws)

/-! ## Strings -/

theorem wordsOf_eq_iff {line : String} {words : List String} :
    wordsOf line = words ↔ Spread (words.map String.toList) line.toList := by
  constructor
  · rintro rfl
    have hid : (Text.words line.toList).map (String.toList ∘ String.ofList) =
        Text.words line.toList := by
      rw [show String.toList ∘ String.ofList = id from funext fun _ => String.toList_ofList,
        List.map_id]
    rw [wordsOf, List.map_map, hid]
    exact spread_words _
  · intro h
    rw [wordsOf, h.words_eq, List.map_map,
      show String.ofList ∘ String.toList = id from funext fun _ => String.ofList_toList,
      List.map_id]

end CursorPaging.Text
