import StubResolver.Question
import StubResolver.RData

/-!
# Records

A record gives a name, type and class a payload for a time. Equality of records ignores the time,
so two copies of one record received at different times are the same.
-/

namespace StubResolver

/-- A resource record. -/
structure Record where
  name : Name
  type : TypeCode
  /-- The class, without the top bit of its field. -/
  recordClass : Class
  /-- The class field as on the wire. -/
  classField : UInt16
  /-- How many seconds the record may be kept. -/
  ttl : UInt32
  rdata : RData
  deriving DecidableEq, Repr

namespace Record

/-- The bits of the class field that hold the class. -/
def classMask : UInt16 := 0x7FFF

/-- A record of a class. -/
def ofClass (name : Name) (type : TypeCode) (recordClass : Class) (ttl : UInt32)
    (rdata : RData) : Record :=
  ⟨name, type, recordClass, recordClass.code, ttl, rdata⟩

/-- A record whose class field may hold something else than a class. -/
def ofClassField (name : Name) (type : TypeCode) (field : UInt16) (ttl : UInt32)
    (rdata : RData) : Record :=
  ⟨name, type, ⟨field &&& classMask⟩, field, ttl, rdata⟩

/-- An address record. -/
def ofAddress (name : Name) (ttl : UInt32) (address : Address) : Record :=
  let rdata := RData.ofAddress address
  ofClass name rdata.type .internet ttl rdata

/-- A TXT record. -/
def ofStrings (name : Name) (ttl : UInt32) (strings : List Octets) : Record :=
  ofClass name (.known .txt) .internet ttl (.txt (.ofStrings strings))

/-- Equality but for the class field and the time. -/
def same (a b : Record) : Bool :=
  a.name.same b.name && a.type == b.type && a.recordClass == b.recordClass && a.rdata == b.rdata

/-- The record with another time. -/
def withTtl (r : Record) (ttl : UInt32) : Record :=
  { r with ttl }

/-- Whether this is an OPT record, which holds EDNS parameters. -/
def isOpt (r : Record) : Bool :=
  r.type == .known .opt

/-- Whether the top bit of the class field is set. -/
def isUnicast (r : Record) : Bool :=
  r.classField &&& ~~~classMask != 0

/-- Whether the record answers a question: same name, and the type and class asked for, where a
wildcard asks for all. -/
def isAnswer (r : Record) (q : Question) : Bool :=
  (q.type.isAny || r.type == q.type) &&
    (q.recordClass.isAny || r.recordClass == q.recordClass) && r.name.same q.name

/-- The record at the position. -/
def decode : Decoder Record := do
  let name ← Name.decode
  let type := TypeCode.ofCode (← Decoder.word16)
  let field ← Decoder.word16
  let ttl ← Decoder.word32
  let length := (← Decoder.word16).toNat
  let start ← Decoder.position
  let size ← Decoder.messageSize
  let data ← Decoder.takeOr length (.bufferTooShort (start + length) size)
  let rdata ← Decoder.ofExcept (RData.ofOctets type data)
  return ofClassField name type field ttl rdata

/-- An estimate of the length on the wire, exact where that of the name is. -/
def sizeEstimate (r : Record) : Nat :=
  r.name.sizeEstimate + 10 + r.rdata.wireLength

/-- The wire form. -/
def toWire (r : Record) : Octets :=
  r.name.toWire ++ Octets.ofWord16 r.type.code ++ Octets.ofWord16 r.classField ++
    Octets.ofWord32 r.ttl ++ Octets.ofWord16 (EdnsOption.lengthField r.rdata.wireLength) ++
    r.rdata.toWire

/-- The fields, with tabs between. -/
def toText (r : Record) : String :=
  "\t".intercalate
    [r.name.fqdn, toString r.ttl.toNat, r.recordClass.toText, r.type.toText, r.rdata.toText]

end Record

end StubResolver
