import CursorPaging.Http.Request

/-!
# Networks

What can become of a request: it does not get through, or there is no answer in time, or there is
an answer. A network answers requests and may change with each of them. `Server.network` is a
network with one server that answers from a script and keeps the requests it got.

An answer has no header fields: none of them is read, save the address that a redirection names. A
client that is redirected sends further requests of its own; they cannot be expressed here, and
every answer counts as the last one to its request.
-/

namespace CursorPaging.Http

/-- What becomes of a request. -/
inductive Reply where
  /-- The connection is refused, or closed before there is an answer. -/
  | lost
  /-- There is no answer in time. -/
  | silence
  /-- An answer, whose body may break off. -/
  | answer (status : Nat) (body : List UInt8) (complete : Bool)
  deriving DecidableEq

/-- A network with states `σ`: what becomes of a request, and the state after it. -/
abbrev Network (σ : Type) := σ → Request → Reply × σ

/-- The network that is not there. -/
def Network.unplugged : Network Unit := fun _ _ => (.lost, ())

/-- A server that answers from a script, and the requests it got, the latest first. -/
structure Server where
  host : Url.Host
  port : Nat
  script : List Reply
  received : List Request

namespace Server

/-- The answer of a server whose script has come to its end. -/
def noMoreReplies : Reply := .answer 500 (Text.Utf8.encode "no more responses".toList) true

/-- Whether a request is for a server. -/
def isFor (s : Server) (r : Request) : Bool :=
  r.url.scheme = "http".toList && r.url.host = some s.host && r.url.port.getD 80 = s.port

/-- The network that leads to a server, and to nothing else. -/
def network : Network Server := fun s r =>
  if s.isFor r then
    (s.script.headD noMoreReplies,
     { s with script := s.script.drop 1, received := r :: s.received })
  else (.lost, s)

end Server

end CursorPaging.Http
