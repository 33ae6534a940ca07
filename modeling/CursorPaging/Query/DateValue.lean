import CursorPaging.Date.Text
import CursorPaging.Error

/-!
# Date values

The values of filters on points in time are completed to full date-times: a missing time becomes
midnight and a missing offset the one that is given.
-/

namespace CursorPaging.Query

/-- The moment of a text without offset: a day and time, or the start of a day. -/
def readLocal (s : List Char) : Except Date.ReadError Date.Moment :=
  match Date.readMoment s with
  | .ok m => .ok m
  | .error _ =>
    match Date.readDay s with
    | .ok d => .ok ⟨d, .midnight⟩
    | .error e => .error e

/-- The full form of a date value, where a missing offset is the given one. -/
def normalizeDate (value : String) (offset : Int) : Except Error String :=
  match Date.readStamp value.toList with
  | .ok stamp => .ok stamp.text
  | .error _ =>
    match readLocal value.toList with
    | .error e => .error (.invalidFilter value ("not a date: " ++ e.message))
    | .ok m =>
      let stamp : Date.Stamp := ⟨m, offset⟩
      if stamp.exists? then .ok stamp.text
      else .error (.invalidFilter value "ambiguous local time")

end CursorPaging.Query
