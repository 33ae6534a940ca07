/-!
# Blank characters

The white space of Unicode, and the three ways texts are cut by it: trimming both ends, trimming
one end, and splitting into words.
-/

namespace CursorPaging.Text

/-- Whether a character has the Unicode property `White_Space`. -/
def isBlank (c : Char) : Bool :=
  let n := c.toNat
  (9 ≤ n && n ≤ 13) || n == 0x20 || n == 0x85 || n == 0xA0 || n == 0x1680 ||
    (0x2000 ≤ n && n ≤ 0x200A) || n == 0x2028 || n == 0x2029 || n == 0x202F || n == 0x205F ||
    n == 0x3000

/-- The text without the blanks it ends with. -/
def trimEnd (s : List Char) : List Char := (s.reverse.dropWhile isBlank).reverse

/-- The text without the blanks around it. -/
def trim (s : List Char) : List Char := trimEnd (s.dropWhile isBlank)

/-- Puts a character in front of the first word, or starts a word with it. -/
def growWord (c : Char) : List (List Char) → List (List Char)
  | [] => [[c]]
  | w :: ws => (c :: w) :: ws

/-- The maximal runs of characters that are not blank, in order. -/
def words : List Char → List (List Char)
  | [] => []
  | [c] => if isBlank c then [] else [[c]]
  | c :: d :: s =>
    if isBlank c then words (d :: s)
    else if isBlank d then [c] :: words (d :: s)
    else growWord c (words (d :: s))

/-- The words of a string. -/
def wordsOf (s : String) : List String := (words s.toList).map String.ofList

/-- A string without the blanks around it. -/
def trimmed (s : String) : String := String.ofList (trim s.toList)

@[simp] theorem words_nil : words [] = [] := rfl

theorem words_blank {c : Char} (h : isBlank c = true) (s : List Char) :
    words (c :: s) = words s := by
  cases s <;> simp [words, h]

end CursorPaging.Text
