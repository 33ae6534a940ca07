import CursorPaging.Text.Quoted
import CursorPaging.Url.Punycode

/-!
# Domain names

A domain name in its ASCII form: characters are mapped to lower case and to their plain forms, and
labels beyond ASCII are written in Punycode behind `xn--`. A malformed name is one of the reasons
why a text is no URL (`Url.Error`).
-/

namespace CursorPaging.Url

/-- Why a text is no URL. -/
inductive Error where
  | emptyHost
  | invalidDomainName
  | invalidPort
  | invalidIpv4
  | invalidIpv6
  | invalidDomainCharacter
  | relativeWithoutBase
  deriving DecidableEq

/-- The text of an error. -/
def Error.message : Error → String
  | .emptyHost => "empty host"
  | .invalidDomainName => "invalid international domain name"
  | .invalidPort => "invalid port number"
  | .invalidIpv4 => "invalid IPv4 address"
  | .invalidIpv6 => "invalid IPv6 address"
  | .invalidDomainCharacter => "invalid domain character"
  | .relativeWithoutBase => "relative URL without a base"

/-- Cuts a text at every character that satisfies the test. -/
def cutAt (p : Char → Bool) : List Char → List (List Char)
  | [] => [[]]
  | c :: s =>
    if p c then [] :: cutAt p s
    else
      match cutAt p s with
      | [] => [[c]]
      | w :: ws => (c :: w) :: ws

/-- Whether a code point lies in a range of pairs of an even upper case letter and the lower case
letter after it. -/
def isEvenPair (n : Nat) : Bool :=
  n % 2 == 0 && ((0x100 ≤ n && n < 0x130) || (0x132 ≤ n && n < 0x138) || (0x14A ≤ n && n < 0x178) ||
    (0x1E00 ≤ n && n < 0x1E96) || (0x1EA0 ≤ n && n < 0x1F00) || (0x460 ≤ n && n < 0x482) ||
    (0x48A ≤ n && n < 0x4C0) || (0x4D0 ≤ n && n < 0x530) || (0x3D8 ≤ n && n < 0x3F0))

/-- Whether a code point lies in a range of pairs of an odd upper case letter and the lower case
letter after it. -/
def isOddPair (n : Nat) : Bool :=
  n % 2 == 1 && ((0x139 ≤ n && n < 0x149) || (0x179 ≤ n && n < 0x17F) || (0x4C1 ≤ n && n < 0x4CF))

/-- The lower case form of the letters of the Latin, Greek, Cyrillic and Armenian scripts. -/
def lowerLetter (n : Nat) : Nat :=
  if 0x41 ≤ n ∧ n ≤ 0x5A then n + 0x20
  else if 0xC0 ≤ n ∧ n ≤ 0xDE ∧ n ≠ 0xD7 then n + 0x20
  else if n = 0x178 then 0xFF
  else if 0x391 ≤ n ∧ n ≤ 0x3AB then n + 0x20
  else if 0x410 ≤ n ∧ n ≤ 0x42F then n + 0x20
  else if 0x400 ≤ n ∧ n ≤ 0x40F then n + 0x50
  else if 0x531 ≤ n ∧ n ≤ 0x556 then n + 0x30
  else if isEvenPair n ∨ isOddPair n then n + 1
  else n

/-- The characters that stand for a character in a domain name. -/
def mapDomainChar (c : Char) : List Char :=
  let n := c.toNat
  if n = 0xAD ∨ n = 0x200B ∨ n = 0x2060 ∨ n = 0xFEFF ∨ (0xFE00 ≤ n ∧ n ≤ 0xFE0F) then []
  else if n = 0x3002 ∨ n = 0xFF0E ∨ n = 0xFF61 then ['.']
  else if 0xFF01 ≤ n ∧ n ≤ 0xFF5E then [Char.ofNat (lowerLetter (n - 0xFEE0))]
  else if n = 0xA0 ∨ n = 0x3000 ∨ (0x2000 ≤ n ∧ n ≤ 0x200A) then [' ']
  else if n = 0xAA then ['a']
  else if n = 0xBA then ['o']
  else if n = 0xB2 then ['2']
  else if n = 0xB3 then ['3']
  else if n = 0xB9 then ['1']
  else if n = 0x17F then ['s']
  else [Char.ofNat (lowerLetter n)]

/-- Whether a character may not stand in a domain name. -/
def isForbiddenInDomain (c : Char) : Bool :=
  c.toNat ≤ 0x20 || c.toNat = 0x7F || "%#/:<>?@[\\]^|".toList.contains c

/-- Whether a label beyond ASCII holds only characters that show. -/
def isShownLabel (label : List Char) : Bool :=
  match label with
  | [] => false
  | c :: cs => !Text.isHidden c && c.toNat != 0xFFFD &&
      cs.all fun d => d.toNat != 0xFFFD &&
        (!Text.isHidden d || (0x300 ≤ d.toNat && d.toNat < 0x370))

/-- The mark of labels written in Punycode. -/
def encodedMark : List Char := ['x', 'n', '-', '-']

/-- The ASCII form of a label. -/
def labelToAscii (label : List Char) : Option (List Char) :=
  if label.all fun c => c.toNat < 0x80 then
    if label.any isForbiddenInDomain then none
    else if label.take 4 = encodedMark then
      match Punycode.decode? (label.drop 4) with
      | some decoded =>
        if (decoded.any fun c => 0x80 ≤ c.toNat) && isShownLabel decoded then some label else none
      | none => none
    else some label
  else if label.any isForbiddenInDomain || !isShownLabel label then none
  else some (encodedMark ++ Punycode.encode label)

/-- The ASCII forms of labels, unless one has none. -/
def labelsToAscii : List (List Char) → Option (List (List Char))
  | [] => some []
  | l :: ls => do return (← labelToAscii l) :: (← labelsToAscii ls)

/-- The ASCII form of a domain name. -/
def domainToAscii (domain : List Char) : Except Error (List Char) :=
  match labelsToAscii (cutAt (· = '.') (domain.flatMap mapDomainChar)) with
  | some labels => .ok (['.'].intercalate labels)
  | none => .error .invalidDomainName

end CursorPaging.Url
