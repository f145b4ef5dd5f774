/-!
# Counters

What a client has done so far: queries, cache outcomes, attempts and failures. The counters are
64-bit numbers and start over when they overflow.
-/

namespace StubResolver

/-- The counters of a client. -/
structure Metrics where
  queries : UInt64
  cacheHits : UInt64
  cacheMisses : UInt64
  udpAttempts : UInt64
  tcpFallbacks : UInt64
  attemptFailures : UInt64
  nonRecursiveServers : UInt64
  responses : UInt64
  warningResponses : UInt64
  timedAttempts : UInt64
  deriving DecidableEq, Repr

namespace Metrics

/-- Nothing done yet. -/
def zero : Metrics :=
  ⟨0, 0, 0, 0, 0, 0, 0, 0, 0, 0⟩

instance : Inhabited Metrics := ⟨zero⟩

/-- A query was asked. -/
def countQuery (m : Metrics) : Metrics :=
  { m with queries := m.queries + 1 }

/-- A query was answered from the cache. -/
def countCacheHit (m : Metrics) : Metrics :=
  { m with cacheHits := m.cacheHits + 1 }

/-- A query was not answered from the cache. -/
def countCacheMiss (m : Metrics) : Metrics :=
  { m with cacheMisses := m.cacheMisses + 1 }

/-- A server is tried over UDP. -/
def countUdpAttempt (m : Metrics) : Metrics :=
  { m with udpAttempts := m.udpAttempts + 1 }

/-- A server is tried again over TCP. -/
def countTcpFallback (m : Metrics) : Metrics :=
  { m with tcpFallbacks := m.tcpFallbacks + 1 }

/-- A server was tried in vain. -/
def countAttemptFailure (m : Metrics) : Metrics :=
  { m with attemptFailures := m.attemptFailures + 1 }

/-- A server was found to lack recursion. -/
def countNonRecursive (m : Metrics) : Metrics :=
  { m with nonRecursiveServers := m.nonRecursiveServers + 1 }

/-- A response is returned; `accepted` if its code earns no warning. -/
def countResponse (m : Metrics) (accepted : Bool) : Metrics :=
  { m with
    responses := m.responses + 1
    warningResponses := if accepted then m.warningResponses else m.warningResponses + 1 }

/-- The time of an exchange was taken. -/
def countTimedAttempt (m : Metrics) : Metrics :=
  { m with timedAttempts := m.timedAttempts + 1 }

/-- The counters under their names. -/
def counters (m : Metrics) : List (String × UInt64) :=
  [("queries_total", m.queries), ("cache_hits", m.cacheHits), ("cache_misses", m.cacheMisses),
    ("udp_attempts", m.udpAttempts), ("tcp_fallbacks", m.tcpFallbacks),
    ("attempt_failures", m.attemptFailures), ("non_recursive_servers", m.nonRecursiveServers),
    ("responses_total", m.responses), ("warning_responses", m.warningResponses),
    ("timed_attempts", m.timedAttempts)]

/-- The share of queries answered from the cache. -/
def cacheHitRate (m : Metrics) : Float :=
  let total := m.cacheHits + m.cacheMisses
  if total = 0 then 0 else m.cacheHits.toFloat / total.toFloat

end Metrics

end StubResolver
