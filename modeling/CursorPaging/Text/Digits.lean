/-!
# Decimal numerals

Reading natural numbers from decimal digits. `digitsValue?` reads a non-empty run of digits, and
`unsigned?` also takes one leading plus sign and refuses numbers that do not fit a word of 64 bits.
Computed numbers are words as well (`toWord`).
-/

namespace CursorPaging.Text

/-- The numbers a word of 64 bits holds are those below this one. -/
def wordLimit : Nat := Nat.pow 2 64

/-- What a word of 64 bits keeps of a number: the bits above are lost. -/
def toWord (n : Nat) : Nat := n % wordLimit

theorem toWord_of_lt {n : Nat} (fits : n < wordLimit) : toWord n = n := Nat.mod_eq_of_lt fits

/-- The value of an ASCII digit. -/
def digit? (c : Char) : Option Nat :=
  if '0' ≤ c ∧ c ≤ '9' then some (c.toNat - '0'.toNat) else none

/-- The value of a hexadecimal digit, in either case. -/
def hexDigit? (c : Char) : Option Nat :=
  if '0' ≤ c ∧ c ≤ '9' then some (c.toNat - '0'.toNat)
  else if 'a' ≤ c ∧ c ≤ 'f' then some (c.toNat - 'a'.toNat + 10)
  else if 'A' ≤ c ∧ c ≤ 'F' then some (c.toNat - 'A'.toNat + 10)
  else none

/-- Whether a character is an ASCII digit. -/
def isDigit (c : Char) : Bool := (digit? c).isSome

/-- The number written by digits of the given base after those read so far. -/
def readDigits (base : Nat) (n : Nat) : List Char → Option Nat
  | [] => some n
  | c :: s =>
    match hexDigit? c with
    | some d => if d < base then readDigits base (n * base + d) s else none
    | none => none

/-- The number a non-empty run of digits of the given base stands for. -/
def numeral? (base : Nat) : List Char → Option Nat
  | [] => none
  | s => readDigits base 0 s

/-- The number a non-empty run of decimal digits stands for. -/
def digitsValue? (s : List Char) : Option Nat := numeral? 10 s

/-- A decimal numeral with an optional plus sign, below the given limit. -/
def unsignedBelow? (limit : Nat) (s : List Char) : Option Nat :=
  let digits := match s with
    | '+' :: r => r
    | _ => s
  match digitsValue? digits with
  | some n => if n < limit then some n else none
  | none => none

/-- A decimal numeral with an optional plus sign that fits a word of 64 bits. -/
def unsigned? (s : String) : Option Nat := unsignedBelow? wordLimit s.toList

/-- The decimal digits of a natural number. -/
def decimal (n : Nat) : String := String.ofList (Nat.toDigits 10 n)

/-- The decimal digits of an integer, after a minus sign if it is negative. -/
def decimalInt : Int → String
  | .ofNat n => decimal n
  | .negSucc n => "-" ++ decimal (n + 1)

/-- Digits written with leading zeros up to a width. -/
def padded (width : Nat) (n : Nat) : String :=
  let digits := Nat.toDigits 10 n
  String.ofList (List.replicate (width - digits.length) '0' ++ digits)

end CursorPaging.Text
