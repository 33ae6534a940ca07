import CursorPaging.Binary64
import CursorPaging.Text.Digits

/-!
# YAML numerals

Plain scalars that stand for numbers. Integers are decimal, or hexadecimal, octal or binary after
`0x`, `0o` or `0b`; digits that follow a zero make no number. Floats are decimal, with an optional
fraction and exponent, or written as words.
-/

namespace CursorPaging.Yaml

/-- The marks of numerals that are not decimal, and their bases. -/
def bases : List (List Char × Nat) :=
  [("0x".toList, 16), ("0o".toList, 8), ("0b".toList, 2)]

/-- The number of a numeral that is not decimal. -/
def basedNumeral? (s : List Char) : Option Nat :=
  bases.findSome? fun entry =>
    if entry.1.isPrefixOf s then Text.numeral? entry.2 (s.drop entry.1.length) else none

/-- Whether a text is a zero and more digits. -/
def hasLeadingZero : List Char → Bool
  | '0' :: c :: s => (c :: s).all Text.isDigit
  | _ => false

/-- The number of an unsigned numeral. -/
def magnitude? (s : List Char) : Option Nat :=
  match basedNumeral? s with
  | some n => some n
  | none => if hasLeadingZero s then none else Text.digitsValue? s

/-- The number of a numeral that may have a plus sign. -/
def natural? : List Char → Option Nat
  | '+' :: s => magnitude? s
  | s => magnitude? s

/-- The number of a numeral that may have a sign. -/
def integer? : List Char → Option Int
  | '-' :: s => (magnitude? s).map fun n => -(n : Int)
  | s => (natural? s).map Int.ofNat

/-- Reads the exponent of a float, if there is one. -/
def readExponent : List Char → Option Int
  | [] => some 0
  | e :: s =>
    if e = 'e' || e = 'E' then
      match s with
      | '-' :: r => (Text.digitsValue? r).map fun n => -(n : Int)
      | '+' :: r => (Text.digitsValue? r).map Int.ofNat
      | _ => (Text.digitsValue? s).map Int.ofNat
    else none

/-- The double nearest to a number of so many digits times a power of ten, unless it is infinite.
Powers too great or too small for any double are not computed. -/
def scaleDecimal? (negative : Bool) (digits : List Char) (exponent : Int) : Option Binary64 := do
  let n ← Text.digitsValue? digits
  if n = 0 then some (.zero negative)
  else
    match exponent with
    | .ofNat e => if 400 < e then none else Binary64.round? negative (n * Nat.pow 10 e) 1
    | .negSucc e =>
      if digits.length + 400 < e then some (.zero negative)
      else Binary64.round? negative n (Nat.pow 10 (e + 1))

/-- The finite float of a numeral without plus sign. -/
def finiteFloat? (s : List Char) : Option Binary64 := do
  let (negative, s) := match s with
    | '-' :: r => (true, r)
    | _ => (false, s)
  let whole := s.takeWhile Text.isDigit
  let (fraction, rest) := match s.dropWhile Text.isDigit with
    | '.' :: r => (r.takeWhile Text.isDigit, r.dropWhile Text.isDigit)
    | r => ([], r)
  let exponent ← readExponent rest
  scaleDecimal? negative (whole ++ fraction) (exponent - fraction.length)

/-- A float, which may be infinite or no number at all. -/
inductive FloatValue where
  | finite (x : Binary64)
  | infinite (negative : Bool)
  | notANumber

/-- The spellings of infinity. -/
def infinityWords : List String := [".inf", ".Inf", ".INF"]

/-- The spellings of what is no number. -/
def notANumberWords : List String := [".nan", ".NaN", ".NAN"]

/-- The float of a plain scalar. -/
def float? (s : List Char) : Option FloatValue :=
  let unsigned := match s with
    | '+' :: r => r
    | _ => s
  if s.head? = some '+' && (unsigned.head? = some '+' || unsigned.head? = some '-') then none
  else if infinityWords.contains (String.ofList unsigned) then some (.infinite false)
  else if s.head? = some '-' && infinityWords.contains (String.ofList (s.drop 1)) then
    some (.infinite true)
  else if notANumberWords.contains (String.ofList s) then some .notANumber
  else (finiteFloat? unsigned).map .finite

end CursorPaging.Yaml
