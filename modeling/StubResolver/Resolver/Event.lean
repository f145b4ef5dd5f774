import StubResolver.Log.Line
import StubResolver.Resolver.Error

/-! What lookups and the cache report to the log. -/

namespace StubResolver

/-- Something worth a log line. -/
inductive Event where
  /-- A response was not stored since it has no time of receipt. -/
  | notStored (id : UInt16)
  /-- An entry made room for another. -/
  | displaced (entry : CacheEntry)
  /-- A stale entry was found. -/
  | stale (entry : CacheEntry)
  | answeredFromCache (question : Question)
  | skipped (server : Endpoint)
  | truncated (server : Endpoint)
  | udpFailed (server : Endpoint) (error : ResolverError)
  | attemptFailed (server : Endpoint) (error : ResolverError)
  | nonRecursive (server : Endpoint)
  | errorCode (server : Endpoint) (question : Question) (rcode : ResponseCode)
  /-- A response was not stored since it does not answer the question. -/
  | unanswered (question : Question)
  | addressesResolved (host : String) (count : Nat)
  | configured (servers : List Endpoint)
  deriving Repr

namespace Event

private def cacheTarget : String := "frey_cache"

private def engineTarget : String := "frey_resolver::engine"

private def resolverTarget : String := "frey_resolver::resolver"

private def programTarget : String := "frey"

private def serverField (server : Endpoint) : String × LogValue :=
  ("server", .shown server.toText)

private def questionField (q : Question) : String × LogValue :=
  ("question", .shown q.toText)

private def receivedField (e : CacheEntry) : String × LogValue :=
  ("received_at", .number e.receivedAt.toInt)

/-- The log line of an event. -/
def toLine : Event → LogLine
  | notStored id => ⟨.trace, cacheTarget, "not caching response without receive timestamp",
      [("id", .number id.toNat)]⟩
  | displaced entry => ⟨.trace, cacheTarget, "evicted cache entry", [receivedField entry]⟩
  | stale entry => ⟨.trace, cacheTarget, "cache entry expired",
      [("min_ttl", .number entry.minTtl.toNat), receivedField entry]⟩
  | answeredFromCache q => ⟨.trace, engineTarget, "answered from cache", [questionField q]⟩
  | skipped server => ⟨.trace, engineTarget, "skipping server without recursion",
      [serverField server]⟩
  | truncated server => ⟨.trace, engineTarget, "response truncated, retrying over TCP",
      [serverField server]⟩
  | udpFailed server error => ⟨.trace, engineTarget, "UDP attempt failed, retrying over TCP",
      [serverField server, ("error", .shown error.message)]⟩
  | attemptFailed server error => ⟨.debug, engineTarget, "query attempt failed",
      [serverField server, ("error", .shown error.message)]⟩
  | nonRecursive server => ⟨.warn, engineTarget,
      "server does not offer recursion, skipping it from now on", [serverField server]⟩
  | errorCode server q rcode => ⟨.warn, engineTarget, "server returned an error response code",
      [serverField server, questionField q, ("rcode", .shown rcode.toText)]⟩
  | unanswered q => ⟨.trace, engineTarget,
      "response does not answer the question, not caching", [questionField q]⟩
  | addressesResolved host count => ⟨.debug, resolverTarget, "resolved dnsaddr",
      [("host", .quoted host), ("count", .number count)]⟩
  | configured servers => ⟨.debug, programTarget, "resolver configured",
      [("servers", .shown ("[" ++ ", ".intercalate (servers.map (·.toText)) ++ "]"))]⟩

end Event

/-- What the cache reports of a response that was to be stored under a query. -/
def Cache.Put.events (query : Message) : Cache.Put → List Event
  | .ignored => [.notStored query.header.id]
  | .stored (some entry) => [.displaced entry]
  | .stored none => []

/-- What the cache reports of a lookup. -/
def Cache.Lookup.events : Cache.Lookup → List Event
  | .expired entry => [.stale entry]
  | .hit _ | .miss => []

end StubResolver
