import CursorPaging.Error
import CursorPaging.Query
import CursorPaging.Text.Blank

/-!
# Filter expressions

A filter as one line of text: a property, an operator and a value, with blanks around each. A
property is a letter followed by letters and digits, and a value holds no line break. The parts are
the groups of the regular expression

    ^\s*([A-Za-z][A-Za-z0-9]*)\s*(!=|!:|>=|<=|=|:|<|>)\s*(.*?)\s*$

but its matcher may go back on what it took, and `splitExpression` does not: a shorter run of blanks
or a shorter property is followed by nothing that fits, and where a longer operator fails on a line
break in the value, so does a shorter one.
-/

namespace CursorPaging.Query

/-- The operators of filters. -/
def operators : List String := ["=", "!=", ":", "!:", "<", "<=", ">", ">="]

/-- Whether a text is an operator of filters. -/
def isOperator (s : String) : Bool := operators.contains s

/-- The operator at the start of a text, the longest one that fits, and the rest of the text. -/
def splitOperator : List Char → Option (List Char × List Char)
  | '!' :: '=' :: s => some (['!', '='], s)
  | '!' :: ':' :: s => some (['!', ':'], s)
  | '>' :: '=' :: s => some (['>', '='], s)
  | '<' :: '=' :: s => some (['<', '='], s)
  | '=' :: s => some (['='], s)
  | ':' :: s => some ([':'], s)
  | '<' :: s => some (['<'], s)
  | '>' :: s => some (['>'], s)
  | _ => none

/-- The property at the start of a text, and the rest of the text. -/
def splitProperty : List Char → Option (List Char × List Char)
  | [] => none
  | c :: s =>
    if c.isAlpha then some (c :: s.takeWhile Char.isAlphanum, s.dropWhile Char.isAlphanum) else none

/-- The property, operator and value of a text; the value may be empty. -/
def splitExpression (s : List Char) : Option (List Char × List Char × List Char) :=
  match splitProperty (s.dropWhile Text.isBlank) with
  | none => none
  | some (property, rest) =>
    match splitOperator (rest.dropWhile Text.isBlank) with
    | none => none
    | some (operator, rest) =>
      let value := Text.trim rest
      if value.contains '\n' then none else some (property, operator, value)

/-- The filter token of an expression. -/
def parseExpression (expression : String) : Except Error FilterToken :=
  match splitExpression expression.toList with
  | none => .error (.invalidFilter expression "expected <Property><operator><value>")
  | some (property, operator, value) =>
    if value = [] then .error (.invalidFilter expression "missing value")
    else .ok ⟨String.ofList property, String.ofList operator, String.ofList value⟩

end CursorPaging.Query
