/-!
# Binary floating point with 64 bits

A finite double is a sign and a code: the codes below `infinityCode` count the doubles from zero
upwards. A double with mantissa `m` and exponent `q` stands for `m · 2 ^ q`. `round?` gives the
double nearest to a ratio, a tie going to the even mantissa, and refuses ratios that round to
infinity; products and quotients are exact ratios, rounded once.
-/

namespace CursorPaging

/-- A finite double: its sign, and its place among the doubles counted from zero upwards. -/
structure Binary64 where
  negative : Bool
  code : Nat
  deriving DecidableEq

namespace Binary64

/-- The mantissas of normal doubles start here. -/
def hidden : Nat := Nat.pow 2 52

/-- The code that follows that of the greatest finite double. -/
def infinityCode : Nat := 2047 * hidden

/-- The mantissa. -/
def mantissa (x : Binary64) : Nat :=
  if x.code < hidden then x.code else hidden + x.code % hidden

/-- The distance of the exponent from the least exponent. -/
def scale (x : Binary64) : Nat := x.code / hidden - 1

/-- The least exponent is the negative of this. -/
def leastScale : Nat := 1074

/-- Zero of either sign. -/
def zero (negative : Bool) : Binary64 := ⟨negative, 0⟩

/-- Whether this is zero of either sign. -/
def isZero (x : Binary64) : Bool := x.code == 0

/-- The double of the other sign. -/
def negate (x : Binary64) : Binary64 := { x with negative := !x.negative }

/-- The numerator of the absolute value. -/
def num (x : Binary64) : Nat := x.mantissa * Nat.pow 2 (x.scale - leastScale)

/-- The denominator of the absolute value. -/
def den (x : Binary64) : Nat := Nat.pow 2 (leastScale - x.scale)

/-- The quotient rounded to the nearest natural number, a tie to the even one. -/
def roundDiv (num den : Nat) : Nat :=
  let q := num / den
  let twice := 2 * (num % den)
  if twice < den then q else if den < twice then q + 1 else q + q % 2

/-- The ratio divided by two to the power `scale - leastScale`, as a ratio. -/
def rescale (num den scale : Nat) : Nat × Nat :=
  if scale ≤ leastScale then (num * Nat.pow 2 (leastScale - scale), den)
  else (num, den * Nat.pow 2 (scale - leastScale))

/-- The scale at which a ratio has a mantissa of 53 bits, or the least one. -/
def scaleFor (num den : Nat) : Nat :=
  let guess := num.log2 + leastScale - (den.log2 + 53)
  let (n, d) := rescale num den guess
  if n / d < 2 * hidden then guess else guess + 1

/-- The code of the double nearest to a ratio, a tie going to the even mantissa. -/
def roundCode (num den : Nat) : Nat :=
  let scale := scaleFor num den
  let (n, d) := rescale num den scale
  roundDiv n d + scale * hidden

/-- The double nearest to a ratio with a positive denominator, unless it is infinite. -/
def round? (negative : Bool) (num den : Nat) : Option Binary64 :=
  if num = 0 then some (zero negative)
  else
    let code := roundCode num den
    if code < infinityCode then some ⟨negative, code⟩ else none

/-- The nearest double to a natural number, unless it is infinite. -/
def ofNat? (n : Nat) : Option Binary64 := round? false n 1

/-- The nearest double to a product, unless it is infinite. -/
def mul? (x y : Binary64) : Option Binary64 :=
  round? (x.negative != y.negative) (x.num * y.num) (x.den * y.den)

/-- The nearest double to a quotient by a double other than zero, unless it is infinite. -/
def div? (x y : Binary64) : Option Binary64 :=
  round? (x.negative != y.negative) (x.num * y.den) (x.den * y.num)

end Binary64

end CursorPaging
