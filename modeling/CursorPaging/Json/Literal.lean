import CursorPaging.Json
import CursorPaging.Text.Digits

/-!
# Number literals

A number literal without fraction and exponent is an integer if it fits. Every other literal is
read as its leading digits, as many as fit a word of 64 bits, scaled by one rounded multiplication
or division by a power of ten; a literal that rounds to infinity is refused.
-/

namespace CursorPaging.Json

/-- The parts of a number literal. -/
structure Literal where
  negative : Bool
  /-- The digits before the point. -/
  whole : List Nat
  /-- The digits after the point, if there is one. -/
  fraction : Option (List Nat)
  /-- The exponent, if there is one. -/
  exponent : Option Int

namespace Literal

/-- Appends digits as long as the number fits a word, and returns the digits left over. -/
def keep (n : Nat) : List Nat → Nat × List Nat
  | [] => (n, [])
  | d :: ds => if n * 10 + d < Text.wordLimit then keep (n * 10 + d) ds else (n, d :: ds)

/-- The double nearest to a power of ten within the range of doubles. -/
def power (n : Nat) : Binary64 := (Binary64.ofNat? (Nat.pow 10 n)).getD (.zero false)

/-- The greatest power of ten that is a double. -/
def greatestPower : Nat := 308

/-- Divides by the greatest power of ten that is a double, the given number of times or until
nothing is left. -/
def shrinkTimes : Nat → Binary64 → Option Binary64
  | 0, x => some x
  | k + 1, x =>
    if x.isZero then some x
    else
      match x.div? (power greatestPower) with
      | some y => shrinkTimes k y
      | none => none

/-- Divides by a power of ten, in steps within the range of doubles. -/
def shrink (x : Binary64) (n : Nat) : Option Binary64 :=
  let k := (n - 1) / greatestPower
  match shrinkTimes k x with
  | some y => y.div? (power (n - greatestPower * k))
  | none => none

/-- A significand scaled by a power of ten. -/
def scaled? (significand : Nat) (exponent : Int) : Option Binary64 :=
  match Binary64.ofNat? significand with
  | none => none
  | some x =>
    match exponent with
    | .ofNat n =>
      if n ≤ greatestPower then x.mul? (power n) else if x.isZero then some x else none
    | .negSucc n => shrink x (n + 1)

/-- The least integer that a word of 64 bits with sign holds is the negative of this. -/
def negativeLimit : Nat := Nat.pow 2 63

/-- The double of a literal. -/
def float? (l : Literal) : Option Number :=
  let (n, dropped) := keep 0 l.whole
  let fraction := l.fraction.getD []
  let (m, unread) := keep n fraction
  let places : Int := (dropped.length : Int) - (fraction.length - unread.length : Nat)
  (scaled? m (places + l.exponent.getD 0)).map fun x =>
    .float (if l.negative then x.negate else x)

/-- The number of a literal. -/
def value? (l : Literal) : Option Number :=
  match l.fraction, l.exponent, keep 0 l.whole with
  | none, none, (n, []) =>
    if l.negative then
      if n = 0 ∨ negativeLimit < n then l.float? else some (.integer (-n))
    else some (.integer n)
  | _, _, _ => l.float?

end Literal

/-- The digits at the start of a text. -/
def readDigits : List Char → List Nat × List Char
  | [] => ([], [])
  | c :: s =>
    match Text.digit? c with
    | some d => let (ds, r) := readDigits s; (d :: ds, r)
    | none => ([], c :: s)

/-- The digits before the point: a single zero, or digits that start with another one. -/
def readWhole (s : List Char) : Option (List Nat × List Char) :=
  match readDigits s with
  | ([], _) => none
  | (0 :: _ :: _, _) => none
  | (ds, r) => some (ds, r)

/-- The digits after the point, if there is one. -/
def readFraction : List Char → Option (Option (List Nat) × List Char)
  | '.' :: s =>
    match readDigits s with
    | ([], _) => none
    | (ds, r) => some (some ds, r)
  | s => some (none, s)

/-- The digits of an exponent, with its sign taken off. -/
def readMagnitude (s : List Char) : Option (Nat × List Char) :=
  match readDigits s with
  | ([], _) => none
  | (ds, r) => some (ds.foldl (fun n d => n * 10 + d) 0, r)

/-- The exponent, if there is one. -/
def readExponent (s : List Char) : Option (Option Int × List Char) :=
  match s with
  | e :: r =>
    if e = 'e' ∨ e = 'E' then
      match r with
      | '-' :: r' => (readMagnitude r').map fun (n, t) => (some (-(n : Int)), t)
      | '+' :: r' => (readMagnitude r').map fun (n, t) => (some (n : Int), t)
      | _ => (readMagnitude r).map fun (n, t) => (some (n : Int), t)
    else some (none, s)
  | [] => some (none, [])

/-- A literal without sign. -/
def readUnsigned (negative : Bool) (s : List Char) : Option (Literal × List Char) := do
  let (whole, s) ← readWhole s
  let (fraction, s) ← readFraction s
  let (exponent, s) ← readExponent s
  return (⟨negative, whole, fraction, exponent⟩, s)

/-- The number at the start of a text. -/
def readNumber (s : List Char) : Option (Number × List Char) := do
  let (literal, rest) ← match s with
    | '-' :: r => readUnsigned true r
    | _ => readUnsigned false s
  return (← literal.value?, rest)

end CursorPaging.Json
