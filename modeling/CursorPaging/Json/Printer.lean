import CursorPaging.Binary64.Shortest
import CursorPaging.Json
import CursorPaging.Text.Digits

/-!
# Writing JSON

Two written forms of a value: `compact` without blanks, and `pretty` with one item or field on a
line, indented by two spaces. Strings escape the quote, the backslash and the control characters
below the space; every other character stands for itself.
-/

namespace CursorPaging.Json

/-- A hexadecimal digit in lower case. -/
def hexDigit (n : Nat) : Char := Nat.digitChar (n % 16)

/-- The written form of a character inside a string. -/
def escape (c : Char) : List Char :=
  if c = '"' then ['\\', '"']
  else if c = '\\' then ['\\', '\\']
  else if c = '\n' then ['\\', 'n']
  else if c = '\r' then ['\\', 'r']
  else if c = '\t' then ['\\', 't']
  else if c = Char.ofNat 8 then ['\\', 'b']
  else if c = Char.ofNat 12 then ['\\', 'f']
  else if c.toNat < 0x20 then ['\\', 'u', '0', '0', hexDigit (c.toNat / 16), hexDigit c.toNat]
  else [c]

/-- The written form of a string. -/
def quoted (s : String) : String := String.ofList ('"' :: s.toList.flatMap escape ++ ['"'])

/-- The written form of a number. -/
def Number.text : Number → String
  | .integer i => Text.decimalInt i
  | .float x => x.text

mutual

/-- The written form without blanks. -/
def compact : Json → String
  | .null => "null"
  | .bool true => "true"
  | .bool false => "false"
  | .num n => n.text
  | .str s => quoted s
  | .arr items => "[" ++ ",".intercalate (compactItems items) ++ "]"
  | .obj fields => "\x7b" ++ ",".intercalate (compactFields fields) ++ "\x7d"

/-- The written forms of items. -/
def compactItems : List Json → List String
  | [] => []
  | v :: vs => compact v :: compactItems vs

/-- The written forms of fields. -/
def compactFields : List (String × Json) → List String
  | [] => []
  | (k, v) :: fs => (quoted k ++ ":" ++ compact v) :: compactFields fs

end

/-- Parts between brackets, each on a line of its own, or nothing between them. -/
def block (left right indent : String) (parts : List String) : String :=
  match parts with
  | [] => left ++ right
  | _ =>
    let inner := "\n" ++ indent ++ "  "
    left ++ inner ++ ("," ++ inner).intercalate parts ++ "\n" ++ indent ++ right

mutual

/-- The written form on several lines, where the first one is indented already. -/
def prettyAt (indent : String) : Json → String
  | .null => "null"
  | .bool true => "true"
  | .bool false => "false"
  | .num n => n.text
  | .str s => quoted s
  | .arr items => block "[" "]" indent (prettyItems (indent ++ "  ") items)
  | .obj fields => block "\x7b" "\x7d" indent (prettyFields (indent ++ "  ") fields)

/-- The written forms of items on several lines. -/
def prettyItems (indent : String) : List Json → List String
  | [] => []
  | v :: vs => prettyAt indent v :: prettyItems indent vs

/-- The written forms of fields on several lines. -/
def prettyFields (indent : String) : List (String × Json) → List String
  | [] => []
  | (k, v) :: fs => (quoted k ++ ": " ++ prettyAt indent v) :: prettyFields indent fs

end

/-- The written form on several lines. -/
def pretty (v : Json) : String := prettyAt "" v

end CursorPaging.Json
