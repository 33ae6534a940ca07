import CursorPaging.CommandLine.BrowseCommand

/-!
# Lines that are no commands to move

The two kinds of lines that a dialogue treats in a way of their own, told from the line alone: blank
ones (`parse_eq_none_iff`) and the command to quit (`isQuit_iff`).
-/

namespace CursorPaging

namespace Text

theorem growWord_ne_nil (c : Char) (ws : List (List Char)) : growWord c ws ≠ [] := by
  cases ws <;> exact List.cons_ne_nil _ _

theorem words_ne_nil {c : Char} (h : isBlank c = false) (s : List Char) : words (c :: s) ≠ [] := by
  cases s with
  | nil => simp [words, h]
  | cons d s =>
    simp only [words, h, Bool.false_eq_true, if_false]
    split
    · exact List.cons_ne_nil _ _
    · exact growWord_ne_nil c _

/-- Only blanks make no word. -/
theorem words_eq_nil_iff (s : List Char) : words s = [] ↔ s.all isBlank = true := by
  induction s with
  | nil => exact iff_of_true rfl rfl
  | cons c s ih =>
    cases h : isBlank c with
    | true => rw [words_blank h, ih, List.all_cons, h, Bool.true_and]
    | false =>
      refine iff_of_false (words_ne_nil h s) ?_
      rw [List.all_cons, h, Bool.false_and]
      exact Bool.false_ne_true

end Text

namespace CommandLine.BrowseCommand

/-- Whether a line has nothing but blanks. -/
def isBlankLine (line : String) : Bool := line.toList.all Text.isBlank

/-- Whether a line is the command to quit. -/
def isQuit (line : String) : Bool :=
  match parse line with
  | .ok (some .quit) => true
  | _ => false

theorem isQuit_iff (line : String) : isQuit line = true ↔ parse line = .ok (some .quit) := by
  unfold isQuit
  split
  · rename_i h
    exact iff_of_true rfl h
  · rename_i h
    exact iff_of_false Bool.false_ne_true h

theorem parse_eq_none_iff (line : String) : parse line = .ok none ↔ isBlankLine line = true := by
  have hwords : Text.wordsOf line = [] ↔ isBlankLine line = true := by
    rw [Text.wordsOf, List.map_eq_nil_iff, Text.words_eq_nil_iff, isBlankLine]
  rw [← hwords, parse]
  split
  · rename_i h
    exact iff_of_true rfl h
  · rename_i h
    refine iff_of_false ?_ h
    split
    · rename_i command _
      cases command <;> nofun
    · nofun

end CommandLine.BrowseCommand

end CursorPaging
