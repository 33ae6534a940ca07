/-!
# Dates and times of day

The days of the Gregorian calendar, extended in both directions as far as a date can go, and the
times of a day, with leap seconds.
-/

namespace CursorPaging.Date

/-- Whether a year has a leap day. -/
def isLeapYear (year : Int) : Bool := year % 4 == 0 && (year % 100 != 0 || year % 400 == 0)

/-- The number of days of a month. -/
def daysInMonth (year : Int) (month : Nat) : Nat :=
  if month = 2 then if isLeapYear year then 29 else 28
  else if month = 4 ∨ month = 6 ∨ month = 9 ∨ month = 11 then 30
  else 31

/-- The first year of the calendar. -/
def firstYear : Int := -262143

/-- The last year of the calendar. -/
def lastYear : Int := 262142

/-- A day. -/
structure Day where
  year : Int
  month : Nat
  day : Nat
  deriving DecidableEq

namespace Day

/-- Whether the calendar has this day. -/
def exists? (d : Day) : Bool :=
  firstYear ≤ d.year && d.year ≤ lastYear && 1 ≤ d.month && d.month ≤ 12 && 1 ≤ d.day &&
    d.day ≤ daysInMonth d.year d.month

/-- The first day of the calendar. -/
def first : Day := ⟨firstYear, 1, 1⟩

/-- The last day of the calendar. -/
def last : Day := ⟨lastYear, 12, 31⟩

end Day

/-- A time of day; the second 60 is a leap second. -/
structure Clock where
  hour : Nat
  minute : Nat
  second : Nat
  nanosecond : Nat
  deriving DecidableEq

namespace Clock

/-- The start of a day. -/
def midnight : Clock := ⟨0, 0, 0, 0⟩

/-- Whether a day has this time. -/
def exists? (c : Clock) : Bool :=
  c.hour < 24 && c.minute < 60 && c.second ≤ 60 && c.nanosecond < 1000000000

/-- The seconds since the start of the day, a leap second counting as the one before it. -/
def seconds (c : Clock) : Nat := c.hour * 3600 + c.minute * 60 + min c.second 59

end Clock

/-- A day and a time of it. -/
structure Moment where
  day : Day
  clock : Clock
  deriving DecidableEq

/-- A moment and its distance from universal time, in seconds to the east. -/
structure Stamp where
  moment : Moment
  offset : Int
  deriving DecidableEq

/-- Whether the calendar has the day that it is in universal time. -/
def Stamp.exists? (s : Stamp) : Bool :=
  let seconds := (s.moment.clock.seconds : Int) - s.offset
  !(seconds < 0 && s.moment.day == .first) && !(86400 ≤ seconds && s.moment.day == .last)

end CursorPaging.Date
