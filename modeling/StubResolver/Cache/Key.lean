import StubResolver.Message.Wire

/-! Cache keys: the wire form of a query with its id zeroed, so that queries which differ in nothing
else have one key. -/

namespace StubResolver

/-- What a response is stored under. -/
structure CacheKey where
  /-- Tells most keys apart at a glance. -/
  digest : UInt64
  wire : Octets
  digest_eq : digest = wire.digest
  deriving DecidableEq, Repr

namespace CacheKey

/-- The key of some octets. -/
def ofWire (wire : Octets) : CacheKey :=
  ⟨wire.digest, wire, rfl⟩

/-- Keys differ in nothing but their octets. -/
theorem eq_of_wire_eq {a b : CacheKey} (h : a.wire = b.wire) : a = b := by
  obtain ⟨_, wire, rfl⟩ := a
  obtain ⟨_, _, rfl⟩ := b
  cases h
  rfl

/-- The key of a query. -/
def ofQuery (query : Message) : CacheKey :=
  ofWire query.normalized.toWire

/-- How long the key is, for a reader of logs. -/
def describe (k : CacheKey) : String :=
  "CacheKey(" ++ toString k.wire.length ++ " bytes)"

end CacheKey

end StubResolver
