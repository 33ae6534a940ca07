/-!
# Punycode

Labels of domain names beyond ASCII, written in letters and digits: the ASCII characters first,
then the others in order of their code points, each as the distance from the one before it in a
number system with digits of varying weight.
-/

namespace CursorPaging.Url.Punycode

/-- The character of a digit: letters, then decimal digits. -/
def digitChar (d : Nat) : Char := if d < 26 then Char.ofNat (97 + d) else Char.ofNat (22 + d)

/-- The digit of a character. -/
def digit? (c : Char) : Option Nat :=
  let n := c.toNat
  if 97 ≤ n ∧ n ≤ 122 then some (n - 97)
  else if 65 ≤ n ∧ n ≤ 90 then some (n - 65)
  else if 48 ≤ n ∧ n ≤ 57 then some (n - 22)
  else none

/-- The least value of a digit that ends no number, at a place and with a bias. -/
def threshold (place bias : Nat) : Nat := min 26 (max 1 (place - bias))

theorem threshold_pos (place bias : Nat) : 1 ≤ threshold place bias := by
  unfold threshold; omega

/-- Divides a distance until it is small, counting places. -/
def settleBias (delta place : Nat) : Nat :=
  if 455 < delta then settleBias (delta / 35) (place + 36) else place + 36 * delta / (delta + 38)
termination_by delta
decreasing_by exact Nat.div_lt_self (by omega) (by decide)

/-- The bias after a distance was written as the given number of characters was reached. -/
def adapt (delta count : Nat) (first : Bool) : Nat :=
  let d := if first then delta / 700 else delta / 2
  settleBias (d + d / count) 0

/-- The digits of a distance. -/
def writeNumber (bias place n : Nat) : List Char :=
  let t := threshold place bias
  if n < t then [digitChar n]
  else digitChar (t + (n - t) % (36 - t)) :: writeNumber bias (place + 36) ((n - t) / (36 - t))
termination_by n
decreasing_by
  have h₁ := threshold_pos place bias
  have h₂ := Nat.div_le_self (n - threshold place bias) (36 - threshold place bias)
  omega

/-- What has been written, and where. -/
structure Writer where
  written : List Char
  delta : Nat
  bias : Nat
  /-- The number of characters handled. -/
  count : Nat

/-- Passes over a character, or writes the distance to it if it is the one that is due. -/
def Writer.step (basic due : Nat) (w : Writer) (c : Char) : Writer :=
  if c.toNat < due then { w with delta := w.delta + 1 }
  else if c.toNat = due then
    { written := w.written ++ writeNumber w.bias 36 w.delta
      delta := 0
      bias := adapt w.delta (w.count + 1) (w.count == basic)
      count := w.count + 1 }
  else w

/-- Writes the characters with each of the given code points, which increase. -/
def writeAll (label : List Char) (basic : Nat) : List Nat → Nat → Writer → Writer
  | [], _, w => w
  | due :: rest, reached, w =>
    let w := { w with delta := w.delta + (due - reached) * (w.count + 1) }
    let w := label.foldl (Writer.step basic due) w
    writeAll label basic rest (due + 1) { w with delta := w.delta + 1 }

/-- Adds a number to an increasing list. -/
def insertOnce (n : Nat) : List Nat → List Nat
  | [] => [n]
  | m :: ms => if n < m then n :: m :: ms else if n = m then m :: ms else m :: insertOnce n ms

/-- The code points beyond ASCII, in increasing order. -/
def beyondAscii (label : List Char) : List Nat :=
  (label.filter fun c => 0x80 ≤ c.toNat).foldr (fun c ns => insertOnce c.toNat ns) []

/-- The written form of a label. -/
def encode (label : List Char) : List Char :=
  let basic := label.filter fun c => c.toNat < 0x80
  let start := if basic.isEmpty then [] else basic ++ ['-']
  (writeAll label basic.length (beyondAscii label) 0x80 ⟨start, 0, 72, basic.length⟩).written

/-- Reads the digits of a distance: its value, and what follows. -/
def readNumber (bias : Nat) : Nat → Nat → Nat → List Char → Option (Nat × List Char)
  | _, _, _, [] => none
  | place, weight, n, c :: s =>
    match digit? c with
    | none => none
    | some d =>
      let n := n + d * weight
      let t := threshold place bias
      if d < t then some (n, s) else readNumber bias (place + 36) (weight * (36 - t)) n s

/-- Reads distances and puts the characters at their places; the first argument bounds their
number. -/
def readAll : Nat → List Char → Nat → Nat → Nat → List Char → Option (List Char)
  | _, label, _, _, _, [] => some label
  | 0, _, _, _, _, _ :: _ => none
  | bound + 1, label, due, place, bias, s =>
    match readNumber bias 36 1 0 s with
    | none => none
    | some (delta, rest) =>
      let count := label.length + 1
      let i := place + delta
      let code := due + i / count
      if code < 0x110000 ∧ ¬(0xD800 ≤ code ∧ code < 0xE000) then
        let spot := i % count
        let label := label.take spot ++ Char.ofNat code :: label.drop spot
        readAll bound label code (spot + 1) (adapt delta count (place == 0 && due == 0x80)) rest
      else none

/-- Cuts a text at its last hyphen. -/
def splitLastHyphen (s : List Char) : List Char × List Char :=
  let tail := (s.reverse.takeWhile (· ≠ '-')).reverse
  if tail.length = s.length then ([], s) else (s.take (s.length - tail.length - 1), tail)

/-- The label that a text is the written form of. -/
def decode? (s : List Char) : Option (List Char) :=
  let (basic, rest) := splitLastHyphen s
  readAll s.length basic 0x80 0 72 rest

end CursorPaging.Url.Punycode
