import CursorPaging.Query.DateValue
import CursorPaging.Query.Expression
import CursorPaging.Resource

/-!
# Building queries

A query is built in steps, each of which adds a token or changes how tokens are joined. Tokens are
checked as they come: their operator, and for a resource also their property and the value of date
properties. The first token that is refused decides the error of the whole.
-/

namespace CursorPaging.Query

/-- A step of building a query. -/
inductive Step where
  | token (property operator value : String)
  | expression (text : String)
  | or
  deriving DecidableEq

/-- A query being built. -/
structure Builder where
  /-- The resource whose properties are allowed; without one, every property is. -/
  resource : Option Resource
  /-- The offset that completes date values. -/
  offset : Int
  query : FilterQuery
  /-- The first error. -/
  failure : Option Error

namespace Builder

/-- A builder before its first step. -/
def start (resource : Option Resource) (offset : Int) : Builder :=
  ⟨resource, offset, .empty, none⟩

/-- The token with its value completed if it is a date of the resource. -/
def checkFor (resource : Option Resource) (offset : Int) (t : FilterToken) :
    Except Error FilterToken :=
  match resource with
  | none => .ok t
  | some r => do
    r.checkProperty t.property
    if r.isDate t.property then return { t with value := ← normalizeDate t.value offset }
    else return t

/-- Refuses a token whose operator is none, and one that the resource cannot be filtered by. -/
def check (resource : Option Resource) (offset : Int) (t : FilterToken) :
    Except Error FilterToken :=
  if isOperator t.operator then checkFor resource offset t
  else
    .error (.invalidFilter (t.property ++ t.operator ++ t.value)
      ("unsupported operator '" ++ t.operator ++ "'"))

/-- The token that a step adds, if it adds one and the token is accepted. -/
def tokenOf (resource : Option Resource) (offset : Int) : Step → Except Error (Option FilterToken)
  | .token property operator value => some <$> check resource offset ⟨property, operator, value⟩
  | .expression text => do return some (← check resource offset (← parseExpression text))
  | .or => .ok none

/-- Takes a step. -/
def step (b : Builder) (s : Step) : Builder :=
  match tokenOf b.resource b.offset s with
  | .ok (some t) => { b with query := { b.query with tokens := b.query.tokens ++ [t] } }
  | .ok none => { b with query := { b.query with operation := .or } }
  | .error e => { b with failure := b.failure.or (some e) }

/-- The query, unless a step failed. -/
def finish (b : Builder) : Except Error FilterQuery :=
  match b.failure with
  | some e => .error e
  | none => .ok b.query

end Builder

/-- The query of a sequence of steps. -/
def build (resource : Option Resource) (offset : Int) (steps : List Step) :
    Except Error FilterQuery :=
  (steps.foldl Builder.step (.start resource offset)).finish

/-- The query of expressions that filter a resource. -/
def ofExpressions (resource : Resource) (offset : Int) (expressions : List String) (or : Bool) :
    Except Error FilterQuery :=
  build (some resource) offset (expressions.map .expression ++ if or then [.or] else [])

end CursorPaging.Query
