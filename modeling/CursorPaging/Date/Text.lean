import CursorPaging.Date.Calendar
import CursorPaging.Text.Blank
import CursorPaging.Text.Digits

/-!
# Written dates

Three written forms are read. `readStamp` reads a full date-time with offset, with digits of fixed
width. `readMoment` and `readDay` read forms without offset, where blanks may precede a number and
numbers may be shorter than their width; their errors say what is wrong at the first place that
does not fit. `Stamp.text` writes the full form, and is the only one that writes.
-/

namespace CursorPaging.Date

/-- Why a text is no date. -/
inductive ReadError where
  | outOfRange
  | invalid
  | tooShort
  | tooLong
  deriving DecidableEq

/-- The text of an error. -/
def ReadError.message : ReadError → String
  | .outOfRange => "input is out of range"
  | .invalid => "input contains invalid characters"
  | .tooShort => "premature end of input"
  | .tooLong => "trailing input"

/-- At most the given number of digits. -/
def someDigits : Nat → List Char → List Nat
  | 0, _ => []
  | _, [] => []
  | n + 1, c :: s =>
    match Text.digit? c with
    | some d => d :: someDigits n s
    | none => []

/-- The number that digits stand for. -/
def value (digits : List Nat) : Nat := digits.foldl (fun n d => n * 10 + d) 0

/-- A number with a least and a greatest number of digits. -/
def readNumber (least most : Nat) (s : List Char) : Except ReadError (Nat × List Char) :=
  let digits := someDigits most s
  if digits.length < least then
    .error (if s.length < least then .tooShort else .invalid)
  else .ok (value digits, s.drop digits.length)

/-- A number of exactly the given number of digits. -/
def readExact (width : Nat) (s : List Char) : Except ReadError (Nat × List Char) :=
  readNumber width width s

/-- A given character. -/
def readChar (c : Char) : List Char → Except ReadError (List Char)
  | [] => .error .tooShort
  | d :: s => if d = c then .ok s else .error .invalid

/-- A number from a range. -/
def inRange (low high : Nat) (n : Nat) : Except ReadError Nat :=
  if low ≤ n ∧ n ≤ high then .ok n else .error .outOfRange

/-- A day that the calendar has. -/
def checkDay (year : Int) (month day : Nat) : Except ReadError Day :=
  if Day.exists? ⟨year, month, day⟩ then .ok ⟨year, month, day⟩ else .error .outOfRange

/-- A value after which no text follows. -/
def complete {α : Type} : Except ReadError (α × List Char) → Except ReadError α
  | .ok (a, []) => .ok a
  | .ok (_, _ :: _) => .error .tooLong
  | .error e => .error e

/-! ## Full date-times -/

/-- A fraction of a second in nanoseconds; digits beyond the ninth are passed over. -/
def readFraction (s : List Char) : Except ReadError (Nat × List Char) := do
  let digits := someDigits 9 s
  let (n, rest) ← readNumber 1 9 s
  return (n * Nat.pow 10 (9 - digits.length), rest.dropWhile Text.isDigit)

/-- The fraction of a second, if there is one. -/
def readOptionalFraction : List Char → Except ReadError (Nat × List Char)
  | '.' :: s => readFraction s
  | s => .ok (0, s)

/-- The sign of an offset: whether it is to the west. -/
def readSign : List Char → Except ReadError (Bool × List Char)
  | [] => .error .tooShort
  | c :: s =>
    if c = '+' then .ok (false, s)
    else if c = '-' ∨ c = Char.ofNat 0x2212 then .ok (true, s)
    else .error .invalid

/-- The hours and minutes of an offset, in seconds. -/
def readOffset (s : List Char) : Except ReadError (Int × List Char) :=
  match s with
  | 'Z' :: r | 'z' :: r => .ok (0, r)
  | _ => do
    let (west, s) ← readSign s
    let (hours, s) ← readExact 2 s
    let s ← readChar ':' s
    let (minutes, s) ← readExact 2 s
    let minutes ← inRange 0 59 minutes
    let hours ← inRange 0 23 hours
    let seconds : Int := hours * 3600 + minutes * 60
    return (if west then -seconds else seconds, s)

/-- The mark between a day and a time. -/
def readSeparator : List Char → Except ReadError (List Char)
  | [] => .error .tooShort
  | c :: s => if c = 'T' ∨ c = 't' ∨ c = ' ' then .ok s else .error .invalid

/-- A full date-time. -/
def readStamp (s : List Char) : Except ReadError Stamp := do
  let (year, s) ← readExact 4 s
  let s ← readChar '-' s
  let (month, s) ← readExact 2 s
  let s ← readChar '-' s
  let (day, s) ← readExact 2 s
  let s ← readSeparator s
  let (hour, s) ← readExact 2 s
  let s ← readChar ':' s
  let (minute, s) ← readExact 2 s
  let s ← readChar ':' s
  let (second, s) ← readExact 2 s
  let (nanosecond, s) ← readOptionalFraction s
  let offset ← complete (readOffset s)
  let day ← checkDay year month day
  let hour ← inRange 0 23 hour
  let minute ← inRange 0 59 minute
  let second ← inRange 0 60 second
  return ⟨⟨day, hour, minute, second, nanosecond⟩, offset⟩

/-! ## Date-times without offset -/

/-- A number of at most the given width, after blanks, from a range. -/
def readField (width low high : Nat) (s : List Char) : Except ReadError (Nat × List Char) := do
  let (n, rest) ← readNumber 1 width (s.dropWhile Text.isBlank)
  return (← inRange low high n, rest)

/-- The least and greatest year that is read as a number. -/
def yearBound : Nat := Nat.pow 2 31

/-- A year that can be read as a number. -/
def checkYear (year : Int) : Except ReadError Int :=
  if -(yearBound : Int) ≤ year ∧ year < yearBound then .ok year else .error .outOfRange

/-- A year after blanks: four digits at most, or any number of them after a sign. -/
def readYear (s : List Char) : Except ReadError (Int × List Char) :=
  match s.dropWhile Text.isBlank with
  | '-' :: r => do
    let (n, rest) ← readNumber 1 r.length r
    return (← checkYear (-(n : Int)), rest)
  | '+' :: r => do
    let (n, rest) ← readNumber 1 r.length r
    return (← checkYear n, rest)
  | r => do
    let (n, rest) ← readNumber 1 4 r
    return (← checkYear n, rest)

/-- The year, month and day at the start of a text. -/
def readDayParts (s : List Char) : Except ReadError ((Int × Nat × Nat) × List Char) := do
  let (year, s) ← readYear s
  let s ← readChar '-' s
  let (month, s) ← readField 2 1 12 s
  let s ← readChar '-' s
  let (day, s) ← readField 2 1 31 s
  return ((year, month, day), s)

/-- A day. -/
def readDay (s : List Char) : Except ReadError Day := do
  let (year, month, day) ← complete (readDayParts s)
  checkDay year month day

/-- The parts of a day and time. -/
def readMomentParts (s : List Char) :
    Except ReadError (((Int × Nat × Nat) × Clock) × List Char) := do
  let (parts, s) ← readDayParts s
  let s ← readChar 'T' s
  let (hour, s) ← readField 2 0 23 s
  let s ← readChar ':' s
  let (minute, s) ← readField 2 0 59 s
  let s ← readChar ':' s
  let (second, s) ← readField 2 0 60 s
  return ((parts, ⟨hour, minute, second, 0⟩), s)

/-- A day and time. -/
def readMoment (s : List Char) : Except ReadError Moment := do
  let ((year, month, day), clock) ← complete (readMomentParts s)
  return ⟨← checkDay year month day, clock⟩

/-! ## Writing -/

/-- A year: four digits, with a sign outside the years from 0 to 9999. -/
def yearText (year : Int) : String :=
  if 0 ≤ year ∧ year ≤ 9999 then Text.padded 4 year.natAbs
  else (if year < 0 then "-" else "+") ++ Text.padded 4 year.natAbs

/-- A fraction of a second: nothing, or the fewest of three, six and nine digits that hold it. -/
def fractionText (nanosecond : Nat) : String :=
  if nanosecond = 0 then ""
  else if nanosecond % 1000000 = 0 then "." ++ Text.padded 3 (nanosecond / 1000000)
  else if nanosecond % 1000 = 0 then "." ++ Text.padded 6 (nanosecond / 1000)
  else "." ++ Text.padded 9 nanosecond

/-- An offset in hours and minutes, rounded to the nearest minute away from zero. -/
def offsetText (offset : Int) : String :=
  let minutes := (offset.natAbs + 30) / 60
  (if offset < 0 then "-" else "+") ++ Text.padded 2 (minutes / 60) ++ ":" ++
    Text.padded 2 (minutes % 60)

/-- The full form of a date-time. -/
def Stamp.text (s : Stamp) : String :=
  let d := s.moment.day
  let c := s.moment.clock
  yearText d.year ++ "-" ++ Text.padded 2 d.month ++ "-" ++ Text.padded 2 d.day ++ "T" ++
    Text.padded 2 c.hour ++ ":" ++ Text.padded 2 c.minute ++ ":" ++ Text.padded 2 c.second ++
    fractionText c.nanosecond ++ offsetText s.offset

end CursorPaging.Date
