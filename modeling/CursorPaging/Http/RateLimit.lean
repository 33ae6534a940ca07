import CursorPaging.Json.Decode

/-!
# Rate limits

How often requests may be sent. A limiter lets a burst of requests pass at once; how many permits
are left is all there is to it while no time passes.
-/

namespace CursorPaging.Http

/-- The bounds of a rate limit. -/
structure RateLimit where
  requestsPerSecond : Nat
  burstSize : Nat
  deriving DecidableEq

namespace RateLimit

/-- The burst that is allowed unless another one is configured. -/
def defaultBurst : Nat := 5

/-- The limit that is configured by default. -/
def default : RateLimit := ⟨5, defaultBurst⟩

/-- The JSON form. -/
def toJson (r : RateLimit) : Json :=
  .object [("requests_per_second", .nat r.requestsPerSecond), ("burst_size", .nat r.burstSize)]

/-- The parts of a limit read so far. -/
structure Parts where
  requestsPerSecond : Option Nat
  burstSize : Option Nat

/-- The limit of its parts. -/
def Parts.finish (p : Parts) : Except DecodeError RateLimit := do
  return ⟨← required "requests_per_second" p.requestsPerSecond, p.burstSize.getD defaultBurst⟩

/-- The format of a limit. -/
def format : RecordFormat Json Parts where
  name := "RateLimiterConfig"
  fields :=
    [⟨"requests_per_second", false, fun p v => do
        return { p with requestsPerSecond := some (← Json.decodeHalfWord v) }⟩,
     ⟨"burst_size", true, fun p v => do
        return { p with burstSize := some (← Json.decodeHalfWord v) }⟩]

/-- The limit of a JSON form. -/
def ofJson (v : Json) : Except DecodeError RateLimit := do
  (← Json.decodeRecord format ⟨none, none⟩ v).finish

end RateLimit

/-- A limiter, while no time passes. -/
structure Limiter where
  /-- The number of requests that may still be sent. -/
  permits : Nat
  deriving DecidableEq

namespace Limiter

/-- A limiter at the start; a burst of zero counts as one. -/
def ofLimit (r : RateLimit) : Limiter := ⟨max 1 r.burstSize⟩

/-- Takes a permit if there is one, and says whether there was. -/
def tryAcquire (l : Limiter) : Bool × Limiter :=
  if l.permits = 0 then (false, l) else (true, ⟨l.permits - 1⟩)

/-- The answers to a number of attempts at once. -/
def attempts (l : Limiter) : Nat → List Bool
  | 0 => []
  | n + 1 => l.tryAcquire.1 :: attempts l.tryAcquire.2 n

/-- How messages show a limiter. -/
def text : String := "RateLimiter"

end Limiter

end CursorPaging.Http
