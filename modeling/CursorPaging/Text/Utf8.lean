/-!
# UTF-8

Characters as bytes and back. `decode?` refuses a sequence of bytes that is no text, `decodeLossy`
replaces each longest piece of it that no character starts with by U+FFFD.
-/

namespace CursorPaging.Text.Utf8

/-- The bytes of a character. -/
def encodeChar (c : Char) : List UInt8 :=
  let n := c.toNat
  let tail := fun k => UInt8.ofNat (0x80 + n / Nat.pow 64 k % 64)
  if n < 0x80 then [UInt8.ofNat n]
  else if n < 0x800 then [UInt8.ofNat (0xC0 + n / 64), tail 0]
  else if n < 0x10000 then [UInt8.ofNat (0xE0 + n / Nat.pow 64 2), tail 1, tail 0]
  else [UInt8.ofNat (0xF0 + n / Nat.pow 64 3), tail 2, tail 1, tail 0]

/-- The bytes of a text. -/
def encode (s : List Char) : List UInt8 := s.flatMap encodeChar

/-- Whether a byte may follow the first byte of a character. -/
def isTail (b : UInt8) : Bool := 0x80 ≤ b && b ≤ 0xBF

/-- Whether a byte may be the second of a character with the given first byte. -/
def isSecond (a b : UInt8) : Bool :=
  if a < 0xC2 || 0xF4 < a then false
  else if a == 0xE0 then 0xA0 ≤ b && b ≤ 0xBF
  else if a == 0xED then 0x80 ≤ b && b ≤ 0x9F
  else if a == 0xF0 then 0x90 ≤ b && b ≤ 0xBF
  else if a == 0xF4 then 0x80 ≤ b && b ≤ 0x8F
  else isTail b

/-- The character of a first byte, less the mark of its length, and the bytes that follow. -/
def join (first : Nat) (tails : List UInt8) : Char :=
  Char.ofNat (tails.foldl (fun n b => n * 64 + (b.toNat - 0x80)) first)

/-- The characters of a sequence of bytes, with nothing in the place of pieces that are none. -/
def pieces : List UInt8 → List (Option Char)
  | [] => []
  | a :: s =>
    if a < 0x80 then some (Char.ofNat a.toNat) :: pieces s
    else
      match s with
      | [] => [none]
      | b :: s₁ =>
        if !isSecond a b then none :: pieces (b :: s₁)
        else if a < 0xE0 then some (join (a.toNat - 0xC0) [b]) :: pieces s₁
        else
          match s₁ with
          | [] => [none]
          | c :: s₂ =>
            if !isTail c then none :: pieces (c :: s₂)
            else if a < 0xF0 then some (join (a.toNat - 0xE0) [b, c]) :: pieces s₂
            else
              match s₂ with
              | [] => [none]
              | d :: s₃ =>
                if isTail d then some (join (a.toNat - 0xF0) [b, c, d]) :: pieces s₃
                else none :: pieces (d :: s₃)

/-- Every value, if none is missing. -/
def all? : List (Option Char) → Option (List Char)
  | [] => some []
  | some c :: cs => (all? cs).map (c :: ·)
  | none :: _ => none

/-- The text of a sequence of bytes. -/
def decode? (s : List UInt8) : Option (List Char) := all? (pieces s)

/-- The text of a sequence of bytes, with U+FFFD in the place of pieces that are none. -/
def decodeLossy (s : List UInt8) : List Char :=
  (pieces s).map fun c => c.getD (Char.ofNat 0xFFFD)

end CursorPaging.Text.Utf8
