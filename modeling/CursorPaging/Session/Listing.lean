import CursorPaging.Session.Message
import CursorPaging.Session.Opening

/-!
# Listing

The walk through a table that prints its pages. It moves forward while there is a known page after
the current one, up to a limit if there is one, and stops at the first page that cannot be fetched.
A walk on which the table steps back, because a page turned out to be empty, does not print a page
twice.
-/

namespace CursorPaging.Session

/-- How a command ends. -/
inductive Ending where
  | completed
  | failed (e : Error)
  /-- The walk was not over after the moves that it was given. -/
  | unfinished

/-- What a command leaves behind: the messages in order, how it ended, and the network. -/
structure Outcome (σ : Type) where
  messages : List Message
  ending : Ending
  network : σ

variable {σ : Type}

/-- A walk through a table. -/
structure Walk (σ : Type) where
  table : Paging.Table σ Json
  /-- The number of the page printed last. -/
  printed : Nat
  /-- The number of rows printed. -/
  records : Nat

namespace Walk

/-- The error of a page that could not be fetched. -/
def pageError (c : Paging.Controller Json) : Error :=
  .other ("Failed to fetch page " ++ Text.decimal c.page ++ ": " ++ c.failure.getD "unknown error")

/-- The messages for the current page, unless it was printed, and the walk after them. -/
def print (resource : Resource) (w : Walk σ) : List Message × Walk σ :=
  let c := w.table.controller
  if w.printed < c.page then
    (Message.ofPage resource c, { w with printed := c.page, records := w.records + c.items.length })
  else ([], w)

/-- Whether the walk goes on: there is a page to move to, and the limit is not reached. -/
def goesOn (limit : Option Nat) (w : Walk σ) : Bool :=
  let c := w.table.controller
  c.page < c.pageTokens.length && limit.all (w.printed < ·)

/-- The message at the end of a walk. -/
def summary (resource : Resource) (w : Walk σ) : Message :=
  let c := w.table.controller
  .summary resource w.printed w.records c.totalCount c.counter

/-- Prints the current page and goes on from there, with at most the given number of moves. -/
def run (source : Paging.Source σ Json) (resource : Resource) (limit : Option Nat) :
    Nat → Walk σ → Outcome σ
  | moves, w =>
    let c := w.table.controller
    if c.failed then ⟨[], .failed (pageError c), w.table.source⟩
    else
      let (messages, w) := w.print resource
      if w.goesOn limit then
        match moves with
        | 0 => ⟨messages, .unfinished, w.table.source⟩
        | moves + 1 =>
          match w.table.handle source .nextPage with
          | .error e => ⟨messages, .failed e, w.table.source⟩
          | .ok (table, _) =>
            let rest := run source resource limit moves { w with table }
            { rest with messages := messages ++ rest.messages }
      else ⟨messages ++ [w.summary resource], .completed, w.table.source⟩

end Walk

/-- Loads a table and prints its pages. -/
def list (source : Paging.Source σ Json) (resource : Resource) (limit : Option Nat) (moves : Nat)
    (table : Paging.Table σ Json) : Outcome σ :=
  Walk.run source resource limit moves ⟨(table.settled source).1, 0, 0⟩

end CursorPaging.Session
