/-!
# Base64

Bytes as letters, three bytes to four letters, filled up with equals signs.
-/

namespace CursorPaging.Text.Base64

/-- The letters, in the order of their values. -/
def alphabet : List Char :=
  "ABCDEFGHIJKLMNOPQRSTUVWXYZabcdefghijklmnopqrstuvwxyz0123456789+/".toList

/-- The letter of a value below 64. -/
def letter (n : Nat) : Char := alphabet.getD (n % 64) 'A'

/-- The letters of a sequence of bytes. -/
def encode : List UInt8 → List Char
  | [] => []
  | [a] =>
    let n := a.toNat
    [letter (n / 4), letter (n * 16), '=', '=']
  | [a, b] =>
    let n := a.toNat * 256 + b.toNat
    [letter (n / 1024), letter (n / 16), letter (n * 4), '=']
  | a :: b :: c :: s =>
    let n := (a.toNat * 256 + b.toNat) * 256 + c.toNat
    letter (n / 262144) :: letter (n / 4096) :: letter (n / 64) :: letter n :: encode s

end CursorPaging.Text.Base64
