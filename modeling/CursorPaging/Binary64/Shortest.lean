import CursorPaging.Binary64

/-!
# Shortest decimals

The decimal with the fewest digits that reads back as a given double, and among those the nearest
to it. A decimal reads back when it lies in the interval of reals that round to the double, the
ends of which belong to it iff the mantissa is even. For each number of digits only the two
neighbours of the double on the grid of decimals with that many digits are tried.
-/

namespace CursorPaging.Binary64

/-- A positive decimal, written with a point after its first digit. -/
structure Decimal where
  /-- The digits as a number. -/
  digits : Nat
  /-- The power of ten of the first digit. -/
  exponent : Int

/-- The interval of reals that round to a double, as numerators over one denominator. -/
structure Interval where
  low : Nat
  value : Nat
  high : Nat
  den : Nat
  closed : Bool

/-- The interval of reals that round to the absolute value of a double. -/
def interval (x : Binary64) : Interval :=
  let m := x.mantissa
  let unit := Nat.pow 2 (x.scale - leastScale)
  { low := (if x.code ≠ hidden ∧ m = hidden then 4 * m - 1 else 4 * m - 2) * unit
    value := 4 * m * unit
    high := (4 * m + 2) * unit
    den := 4 * x.den
    closed := m % 2 == 0 }

/-- Whether a ratio lies in the interval. -/
def Interval.holds (i : Interval) (num den : Nat) : Bool :=
  let n := num * i.den
  if i.closed then i.low * den ≤ n && n ≤ i.high * den else i.low * den < n && n < i.high * den

/-- The power of ten of the first digit of a positive ratio. -/
def leadingExponent (num den : Nat) : Int :=
  let guess : Int := ((Nat.toDigits 10 num).length : Int) - (Nat.toDigits 10 den).length
  let reached : Bool := match guess with
    | .ofNat e => decide (den * Nat.pow 10 e ≤ num)
    | .negSucc e => decide (den ≤ num * Nat.pow 10 (e + 1))
  if reached then guess else guess - 1

/-- The numerator and denominator of ten to a power. -/
def powerOfTen : Int → Nat × Nat
  | .ofNat e => (Nat.pow 10 e, 1)
  | .negSucc e => (1, Nat.pow 10 (e + 1))

/-- The decimal with the given number of digits that lies in the interval nearest to its value, a
tie going to the even digit. -/
def Interval.decimal? (i : Interval) (first : Int) (count : Nat) : Option Decimal :=
  let step := powerOfTen (first - count + 1)
  let n := i.value * step.2
  let d := i.den * step.1
  let below := n / d
  let near := fun k => i.holds (k * step.1) step.2
  let pick := if near below then
      if near (below + 1) then some (roundDiv n d) else some below
    else if near (below + 1) then some (below + 1)
    else none
  pick.map fun digits =>
    if digits = Nat.pow 10 count then ⟨1, first + 1⟩ else ⟨digits, first⟩

/-- The shortest decimal that reads back as the absolute value of a double other than zero. -/
def shortest (x : Binary64) : Decimal :=
  let i := x.interval
  let first := leadingExponent i.value i.den
  ((List.range 17).findSome? fun n => i.decimal? first (n + 1)).getD ⟨x.mantissa, first⟩

/-! ## Written forms -/

/-- Digits with a point after the given number of them, and zeros where digits are missing. -/
def positional (digits : List Char) (point : Int) : String :=
  match point with
  | .ofNat 0 => String.ofList ('0' :: '.' :: digits)
  | .ofNat p =>
    if digits.length ≤ p then
      String.ofList (digits ++ List.replicate (p - digits.length) '0' ++ ['.', '0'])
    else String.ofList (digits.take p ++ '.' :: digits.drop p)
  | .negSucc p => String.ofList ('0' :: '.' :: List.replicate (p + 1) '0' ++ digits)

/-- Digits with a point after the first, and an exponent with its sign unless it is zero. -/
def scientific (digits : List Char) (exponent : Int) : String :=
  let significand := match digits with
    | [] => []
    | [d] => [d]
    | d :: ds => d :: '.' :: ds
  let sign := if exponent < 0 then ['-'] else ['+']
  String.ofList (significand ++ 'e' :: sign ++ Nat.toDigits 10 exponent.natAbs)

/-- The sign in front of a written double. -/
def withSign (x : Binary64) (text : String) : String := if x.negative then "-" ++ text else text

/-- The shortest text that reads back, positional for exponents from -5 to 15 and with at least
one digit after the point, scientific otherwise. -/
def text (x : Binary64) : String :=
  if x.isZero then withSign x "0.0"
  else
    let d := x.shortest
    let digits := Nat.toDigits 10 d.digits
    withSign x <|
      if -5 ≤ d.exponent ∧ d.exponent ≤ 15 then positional digits (d.exponent + 1)
      else scientific digits d.exponent

/-- The shortest text that reads back, always positional and with at least one digit after the
point. -/
def plainText (x : Binary64) : String :=
  if x.isZero then withSign x "0.0"
  else
    let d := x.shortest
    withSign x (positional (Nat.toDigits 10 d.digits) (d.exponent + 1))

end CursorPaging.Binary64
