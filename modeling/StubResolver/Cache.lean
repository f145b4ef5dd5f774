import StubResolver.Cache.Entry
import StubResolver.Cache.Key

/-!
# The response cache

A bounded list of entries, the most recently used first. A lookup of a fresh entry counts as use,
and one of a stale entry removes it. At capacity a new key displaces the entry used least
recently. Whether a response is worth storing is for the caller to decide.
-/

namespace StubResolver

/-- How lookups went. -/
structure CacheStats where
  hits : UInt64
  misses : UInt64
  expired : UInt64
  deriving DecidableEq, Repr

/-- The share of lookups that found a fresh entry. -/
def CacheStats.hitRate (s : CacheStats) : Float :=
  let total := s.hits + s.misses + s.expired
  if total = 0 then 0 else s.hits.toFloat / total.toFloat

/-- Entries under their keys, the most recently used first. -/
structure Cache where
  capacity : Nat
  entries : List (CacheKey × CacheEntry)
  stats : CacheStats
  deriving Repr

namespace Cache

/-- How many responses are kept if nothing else is set. -/
def defaultCapacity : Nat := 128

/-- An empty cache. It has room for one entry at least. -/
def ofCapacity (capacity : Nat) : Cache :=
  ⟨max 1 capacity, [], ⟨0, 0, 0⟩⟩

/-- How many entries there are. -/
def size (c : Cache) : Nat :=
  c.entries.length

/-- The entry under a key. -/
def find? (c : Cache) (key : CacheKey) : Option CacheEntry :=
  c.entries.lookup key

/-- The entries without the one under a key. -/
def without (c : Cache) (key : CacheKey) : List (CacheKey × CacheEntry) :=
  c.entries.filter fun e => e.1 != key

/-- Whether there is an entry for a query, which does not count as use. -/
def contains (c : Cache) (query : Message) : Bool :=
  (c.find? (.ofQuery query)).isSome

/-- The cache without its entries. -/
def clear (c : Cache) : Cache :=
  { c with entries := [] }

/-- What became of a response that was to be stored. -/
inductive Put where
  /-- It has no time of receipt. -/
  | ignored
  /-- It is stored, and the entry given here is gone. -/
  | stored (displaced : Option CacheEntry)
  deriving Repr

/-- The cache with an entry as the most recently used, and the entry that had to go: the one
under the same key, or else, at capacity, the least recently used. -/
def push (c : Cache) (key : CacheKey) (entry : CacheEntry) : Cache × Option CacheEntry :=
  match c.find? key with
  | some old => ({ c with entries := (key, entry) :: c.without key }, some old)
  | none =>
    if c.size < c.capacity then ({ c with entries := (key, entry) :: c.entries }, none)
    else ({ c with entries := (key, entry) :: c.entries.dropLast },
      c.entries.getLast?.map (·.2))

/-- Stores a response under a query, if it has a time of receipt. -/
def put (c : Cache) (query response : Message) : Cache × Put :=
  if response.receivedAt ≤ 0 then (c, .ignored)
  else
    let (c, displaced) := c.push (.ofQuery query) ⟨response⟩
    (c, .stored displaced)

/-- What a lookup finds. -/
inductive Lookup where
  | hit (response : Message)
  | miss
  /-- A stale entry, which has been removed. -/
  | expired (entry : CacheEntry)
  deriving Repr

/-- Looks up the response to a query as of `now`, without counting. -/
def lookup (c : Cache) (query : Message) (now : Int64) : Cache × Lookup :=
  let key := CacheKey.ofQuery query
  match c.find? key with
  | none => (c, .miss)
  | some entry =>
    if entry.isExpired now then ({ c with entries := c.without key }, .expired entry)
    else ({ c with entries := (key, entry) :: c.without key }, .hit entry.response)

/-- The statistics with one more lookup. -/
def Lookup.count (l : Lookup) (s : CacheStats) : CacheStats :=
  match l with
  | .hit _ => { s with hits := s.hits + 1 }
  | .miss => { s with misses := s.misses + 1 }
  | .expired _ => { s with expired := s.expired + 1 }

/-- The response that a lookup found. -/
def Lookup.response? : Lookup → Option Message
  | .hit response => some response
  | .miss | .expired _ => none

/-- Looks up the response to a query as of `now`, and counts that. -/
def get (c : Cache) (query : Message) (now : Int64) : Cache × Lookup :=
  let (c, found) := c.lookup query now
  ({ c with stats := found.count c.stats }, found)

end Cache

end StubResolver
