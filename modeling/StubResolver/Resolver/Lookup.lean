import StubResolver.Message.Draft
import StubResolver.Metrics
import StubResolver.Resolver.Event

/-!
# Lookups step by step

A lookup first asks the cache. Then it tries the servers in order, each over UDP and, if that
fails or the answer is cut short, over TCP; it passes over servers known to lack recursion. The
first answer from a server with recursion ends it, whatever its response code.

Each step is one access to what lookups share, or one exchange, so lookups that run side by side
are interleavings of these steps.
-/

namespace StubResolver.Resolver

/-- Over what an exchange goes. -/
inductive Transport where
  | udp | tcp
  deriving DecidableEq, Repr

/-- The name of a transport. -/
def Transport.toText : Transport → String
  | udp => "udp" | tcp => "tcp"

/-- What lookups share: the cache, the servers that lack recursion, the counters, and the log with
its last event first. -/
structure Shared where
  cache : Cache
  nonRecursive : List Endpoint
  metrics : Metrics
  log : List Event
  deriving Repr

namespace Shared

/-- The shared state before the first lookup, with room for some responses. -/
def ofCapacity (capacity : Nat) : Shared :=
  ⟨.ofCapacity capacity, [], .zero, []⟩

/-- What the lookups of a new resolver share. It is not made of settings that fail their check. -/
def ofSettings (settings : Settings) : Except ResolverError Shared := do
  settings.validate
  return .ofCapacity settings.cacheCapacity.toNat

/-- One more event. -/
def report (s : Shared) (e : Event) : Shared :=
  { s with log := e :: s.log }

/-- More events, in order. -/
def reportAll (s : Shared) (es : List Event) : Shared :=
  { s with log := es.reverse ++ s.log }

/-- The counters changed by `f`. -/
def count (s : Shared) (f : Metrics → Metrics) : Shared :=
  { s with metrics := f s.metrics }

/-- Whether a server is known to lack recursion. -/
def isMarked (s : Shared) (server : Endpoint) : Bool :=
  s.nonRecursive.contains server

/-- A server is known to lack recursion from now on. -/
def mark (s : Shared) (server : Endpoint) : Shared :=
  if s.isMarked server then s else { s with nonRecursive := server :: s.nonRecursive }

end Shared

/-- What a lookup is about: the question and the query that carries it. -/
structure Lookup where
  settings : Settings
  query : Message
  question : Question
  deriving Repr

/-- Where a lookup stands. Beside a server stand those behind it, and the last failure so far. -/
inductive Stage where
  /-- The cache is to be asked. -/
  | asked
  /-- The first of these servers is to be tried. -/
  | seeking (servers : List Endpoint) (last : Option ResolverError)
  /-- A server has been sent the query. -/
  | awaiting (transport : Transport) (server : Endpoint) (rest : List Endpoint)
      (last : Option ResolverError)
  /-- A server that lacks recursion is to be marked. -/
  | marking (server : Endpoint) (rest : List Endpoint) (last : Option ResolverError)
  /-- A response is to be stored if it answers the question. -/
  | storing (response : Message)
  | finished (result : Except ResolverError Message)

namespace Lookup

/-- The lookup of a question, with an id for the query. -/
def ofQuestion (settings : Settings) (id : UInt16) (question : Question) : Lookup :=
  ⟨settings, .query id question settings.udpPayloadSize, question⟩

/-- The cache is asked. -/
def begin (l : Lookup) (now : Int64) (s : Shared) : Shared × Stage :=
  let s := s.count .countQuery
  let (cache, found) := s.cache.get l.query now
  let s := { s with cache }.reportAll found.events
  match found.response? with
  | some response =>
    ((s.report (.answeredFromCache l.question)).count .countCacheHit, .finished (.ok response))
  | none => (s.count .countCacheMiss, .seeking l.settings.servers none)

/-- The first server is tried or passed over. -/
def seek (s : Shared) (servers : List Endpoint) (last : Option ResolverError) : Shared × Stage :=
  match servers with
  | [] => (s, .finished (.error (last.getD .noQueryableServer)))
  | server :: rest =>
    if s.isMarked server then (s.report (.skipped server), .seeking rest last)
    else (s.count .countUdpAttempt, .awaiting .udp server rest last)

/-- A server has been tried in vain. -/
def fail (s : Shared) (server : Endpoint) (rest : List Endpoint) (e : ResolverError) :
    Shared × Stage :=
  ((s.report (.attemptFailed server e)).count .countAttemptFailure, .seeking rest (some e))

/-- A server has given its final answer. -/
def accept (l : Lookup) (s : Shared) (server : Endpoint) (rest : List Endpoint)
    (last : Option ResolverError) (response : Message) : Shared × Stage :=
  if response.header.id ≠ l.query.header.id then
    fail s server rest (.idMismatch l.query.header.id response.header.id)
  else if response.header.recursionAvailable then
    let rcode := response.header.rcode
    let s := if rcode.isAccepted then s else s.report (.errorCode server l.question rcode)
    (s.count fun m => m.countResponse rcode.isAccepted, .storing response)
  else (s, .marking server rest last)

/-- The message of a reply that came in at `now`. -/
def read (reply : Except ResolverError Octets) (now : Int64) : Except ResolverError Message := do
  match Message.ofWire (← reply) now with
  | .ok m => .ok m
  | .error e => .error (.protocol e)

/-- A reply has come in over UDP. -/
def receiveUdp (l : Lookup) (s : Shared) (server : Endpoint) (rest : List Endpoint)
    (last : Option ResolverError) (answer : Except ResolverError Message) : Shared × Stage :=
  let again (event : Event) : Shared × Stage :=
    ((s.report event).count .countTcpFallback, .awaiting .tcp server rest last)
  match answer with
  | .ok response =>
    if response.header.isTruncated ∧ l.settings.useTcpFallback then again (.truncated server)
    else l.accept s server rest last response
  | .error e =>
    if l.settings.useTcpFallback then again (.udpFailed server e) else fail s server rest e

/-- A reply has come in over TCP. -/
def receiveTcp (l : Lookup) (s : Shared) (server : Endpoint) (rest : List Endpoint)
    (last : Option ResolverError) (answer : Except ResolverError Message) : Shared × Stage :=
  match answer with
  | .ok response => l.accept s server rest last response
  | .error e => fail s server rest e

/-- A reply has come in. -/
def receive (l : Lookup) (s : Shared) (transport : Transport) (server : Endpoint)
    (rest : List Endpoint) (last : Option ResolverError) (answer : Except ResolverError Message) :
    Shared × Stage :=
  match transport with
  | .udp => l.receiveUdp s server rest last answer
  | .tcp => l.receiveTcp s server rest last answer

/-- A server that lacks recursion is marked, and reported if it was not yet known. -/
def mark (s : Shared) (server : Endpoint) (rest : List Endpoint) (last : Option ResolverError) :
    Shared × Stage :=
  if s.isMarked server then (s, .seeking rest last)
  else (((s.mark server).report (.nonRecursive server)).count .countNonRecursive,
    .seeking rest last)

/-- A response is stored if it answers the question. -/
def store (l : Lookup) (s : Shared) (response : Message) : Shared × Stage :=
  if response.answersQuestion l.question then
    let (cache, put) := s.cache.put l.query response
    ({ s with cache }.reportAll (put.events l.query), .finished (.ok response))
  else (s.report (.unanswered l.question), .finished (.ok response))

/-- How many steps are left at most. -/
def stepsLeft (l : Lookup) : Stage → Nat
  | .asked => 4 * l.settings.servers.length + 4
  | .seeking servers _ => 4 * servers.length + 3
  | .awaiting .udp _ rest _ => 4 * rest.length + 6
  | .awaiting .tcp _ rest _ => 4 * rest.length + 5
  | .marking _ rest _ => 4 * rest.length + 4
  | .storing _ => 1
  | .finished _ => 0

theorem stepsLeft_begin_lt (l : Lookup) (now : Int64) (s : Shared) :
    l.stepsLeft (l.begin now s).2 < l.stepsLeft .asked := by
  simp only [begin]
  split <;> simp [stepsLeft]

theorem stepsLeft_seek_lt (l : Lookup) (s : Shared) (servers : List Endpoint)
    (last : Option ResolverError) :
    l.stepsLeft (seek s servers last).2 < l.stepsLeft (.seeking servers last) := by
  unfold seek
  split
  · simp [stepsLeft]
  · split <;> simp only [stepsLeft, List.length_cons] <;> omega

theorem stepsLeft_accept_lt (l : Lookup) (s : Shared) (server : Endpoint) (rest : List Endpoint)
    (last : Option ResolverError) (response : Message) :
    l.stepsLeft (l.accept s server rest last response).2 < 4 * rest.length + 5 := by
  unfold accept fail
  split
  · simp [stepsLeft]
  · split <;> simp only [stepsLeft] <;> omega

theorem stepsLeft_receive_lt (l : Lookup) (s : Shared) (transport : Transport)
    (server : Endpoint) (rest : List Endpoint) (last : Option ResolverError)
    (answer : Except ResolverError Message) :
    l.stepsLeft (l.receive s transport server rest last answer).2 <
      l.stepsLeft (.awaiting transport server rest last) := by
  cases transport with
  | udp =>
    simp only [receive, receiveUdp]
    split
    · split
      · simp [stepsLeft]
      · exact Nat.lt_succ_of_lt (l.stepsLeft_accept_lt ..)
    · split <;> simp [stepsLeft, fail]
  | tcp =>
    simp only [receive, receiveTcp]
    split
    · exact l.stepsLeft_accept_lt ..
    · simp [stepsLeft, fail]

theorem stepsLeft_mark_lt (l : Lookup) (s : Shared) (server : Endpoint) (rest : List Endpoint)
    (last : Option ResolverError) :
    l.stepsLeft (mark s server rest last).2 < l.stepsLeft (.marking server rest last) := by
  unfold mark
  split <;> simp [stepsLeft]

theorem stepsLeft_store_lt (l : Lookup) (s : Shared) (response : Message) :
    l.stepsLeft (l.store s response).2 < l.stepsLeft (.storing response) := by
  unfold store
  split <;> simp [stepsLeft]

end Lookup

end StubResolver.Resolver
