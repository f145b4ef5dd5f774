import StubResolver.Message.Basic

/-!
# Cache entries

A response is fresh for the smallest time to live among its answers, counted from its receipt; one
without answers is fresh for that instant only. Times are 64-bit milliseconds, and an expiry
beyond them counts as the last one.
-/

namespace StubResolver

/-- A stored response. -/
structure CacheEntry where
  response : Message
  deriving Repr

namespace CacheEntry

/-- When the response was received. -/
def receivedAt (e : CacheEntry) : Int64 :=
  e.response.receivedAt

/-- The smallest time to live among the answers, in seconds; 0 without answers. -/
def minTtl (e : CacheEntry) : UInt32 :=
  e.response.minTtl?.getD 0

/-- The last instant at which the response is fresh. -/
def expiresAt (e : CacheEntry) : Int64 :=
  Int64.ofInt (min (e.receivedAt.toInt + 1000 * e.minTtl.toNat) Int64.maxValue.toInt)

/-- Whether the response is stale. -/
def isExpired (e : CacheEntry) (now : Int64) : Bool :=
  e.expiresAt < now

/-- The difference of two times, if 64 bits hold it; to take any other aborts the program. -/
def difference? (a b : Int64) : Option Int64 :=
  let d := a.toInt - b.toInt
  if Int64.minValue.toInt ≤ d ∧ d ≤ Int64.maxValue.toInt then some (Int64.ofInt d) else none

/-- How many milliseconds the response stays fresh, unless the program is aborted over it. -/
def remaining? (e : CacheEntry) (now : Int64) : Option Int64 :=
  (difference? e.expiresAt now).map (max · 0)

end CacheEntry

end StubResolver
