import CursorPaging.Url.Domain
import CursorPaging.Url.Escape

/-!
# Hosts

The host of a URL: a domain name, an address of four bytes or an address of eight groups. A name
whose last label is a number is read as an address of four bytes, of which every part may be
decimal, octal or hexadecimal and the last part may stand for several bytes.
-/

namespace CursorPaging.Url

/-- The host of a URL. -/
inductive Host where
  | domain (name : List Char)
  | ipv4 (address : Nat)
  | ipv6 (groups : List Nat)
  deriving DecidableEq

/-- A part of an address of four bytes: nothing if it is no number. -/
def ipv4Number? (part : List Char) : Option Nat :=
  match part with
  | [] => none
  | '0' :: 'x' :: s | '0' :: 'X' :: s => if s = [] then some 0 else Text.numeral? 16 s
  | '0' :: c :: s => Text.numeral? 8 (c :: s)
  | s => Text.numeral? 10 s

/-- Whether the last label of a name is a number. -/
def endsInNumber (name : List Char) : Bool :=
  let labels := (cutAt (· = '.') name).reverse
  let isNumber := fun l => (l ≠ [] ∧ l.all Text.isDigit) ∨ (ipv4Number? l).isSome
  match labels with
  | [] :: l :: _ => isNumber l
  | [] :: [] => false
  | l :: _ => isNumber l
  | [] => false

/-- The numbers of the parts, unless one is none. -/
def ipv4Numbers : List (List Char) → Option (List Nat)
  | [] => some []
  | p :: ps => do return (← ipv4Number? p) :: (← ipv4Numbers ps)

/-- The address that a name stands for. -/
def parseIpv4 (name : List Char) : Except Error Nat :=
  let parts := cutAt (· = '.') name
  let parts := if parts.getLast? = some [] then parts.dropLast else parts
  match ipv4Numbers parts with
  | none => .error .invalidIpv4
  | some numbers =>
    let high := numbers.dropLast
    let low := numbers.getLastD 0
    if 4 < numbers.length ∨ high.any (255 < ·) ∨ Nat.pow 256 (4 - high.length) ≤ low then
      .error .invalidIpv4
    else
      let bytes := high ++ List.replicate (4 - high.length) 0
      .ok (bytes.foldl (fun n b => n * 256 + b) 0 + low)

/-- A byte of an address in decimal, without leading zeros. -/
def decimalByte? (s : List Char) : Option Nat :=
  match Text.digitsValue? s with
  | some n => if n ≤ 255 ∧ (s.head? ≠ some '0' ∨ s.length = 1) then some n else none
  | none => none

/-- The groups between single colons; the last one may be four bytes in decimal. -/
def ipv6Groups : List (List Char) → Option (List Nat)
  | [] => some []
  | [g] =>
    if g.contains '.' then
      match (cutAt (· = '.') g).map decimalByte? with
      | [some a, some b, some c, some d] => some [a * 256 + b, c * 256 + d]
      | _ => none
    else if g.length ≤ 4 then (Text.numeral? 16 g).map ([·])
    else none
  | g :: gs => do
    let n ← if g.length ≤ 4 then Text.numeral? 16 g else none
    return n :: (← ipv6Groups gs)

/-- The groups of a text that may be empty. -/
def ipv6Part (s : List Char) : Option (List Nat) :=
  if s = [] then some [] else ipv6Groups (cutAt (· = ':') s)

/-- Cuts a text at its first pair of colons. -/
def splitColons : List Char → Option (List Char × List Char)
  | ':' :: ':' :: s => some ([], s)
  | c :: s => (splitColons s).map fun (a, b) => (c :: a, b)
  | [] => none

/-- The groups of an address between square brackets. -/
def parseIpv6 (s : List Char) : Except Error (List Nat) :=
  let groups := match splitColons s with
    | none => match ipv6Part s with
      | some gs => if gs.length = 8 then some gs else none
      | none => none
    | some (a, b) =>
      match ipv6Part a, ipv6Part b with
      | some as, some bs =>
        if as.length + bs.length ≤ 7 ∧ !a.contains '.' then
          some (as ++ List.replicate (8 - as.length - bs.length) 0 ++ bs)
        else none
      | _, _ => none
  match groups with
  | some gs => .ok gs
  | none => .error .invalidIpv6

/-- The content of square brackets. -/
def inBrackets? : List Char → Option (Option (List Char))
  | '[' :: s => some (if s.getLast? = some ']' then some s.dropLast else none)
  | _ => none

/-- The host of a special URL. -/
def parseHost (s : List Char) : Except Error Host :=
  match inBrackets? s with
  | some (some inner) => (parseIpv6 inner).map .ipv6
  | some none => .error .invalidIpv6
  | none =>
    match Text.Utf8.decode? (unescape s) with
    | none => .error .invalidDomainName
    | some domain => do
      let name ← domainToAscii domain
      if name = [] then .error .emptyHost
      else if endsInNumber name then return .ipv4 (← parseIpv4 name)
      else return .domain name

/-- The host of a URL that is not special. -/
def parseOpaqueHost (s : List Char) : Except Error Host :=
  match inBrackets? s with
  | some (some inner) => (parseIpv6 inner).map .ipv6
  | some none => .error .invalidIpv6
  | none =>
    if s.any fun c => c.toNat = 0 || "\t\n\r #/:<>?@[\\]^|".toList.contains c then
      .error .invalidDomainCharacter
    else .ok (.domain (escape controlSet s))

/-- The length of the run of zeros at the start. -/
def zeroRun (groups : List Nat) : Nat := (groups.takeWhile (· = 0)).length

/-- The start and length of the first of the longest runs of zeros. -/
def longestZeroRun : Nat → List Nat → Nat × Nat
  | _, [] => (0, 0)
  | start, g :: gs =>
    let here := zeroRun (g :: gs)
    let best := longestZeroRun (start + 1) gs
    if best.2 ≤ here then (start, here) else best

/-- Groups in hexadecimal between colons. -/
def colonGroups (groups : List Nat) : List Char :=
  [':'].intercalate (groups.map (Nat.toDigits 16))

/-- The written form of an address of eight groups, with its longest run of zeros left out. -/
def ipv6Text (groups : List Nat) : List Char :=
  let (start, length) := longestZeroRun 0 groups
  if length < 2 then colonGroups groups
  else
    colonGroups (groups.take start) ++ [':', ':'] ++ colonGroups (groups.drop (start + length))

/-- The written form of a host. -/
def Host.text : Host → List Char
  | .domain name => name
  | .ipv4 n =>
    let bytes := [n / Nat.pow 256 3, n / Nat.pow 256 2 % 256, n / 256 % 256, n % 256]
    ['.'].intercalate (bytes.map (Nat.toDigits 10))
  | .ipv6 groups => '[' :: ipv6Text groups ++ [']']

end CursorPaging.Url
