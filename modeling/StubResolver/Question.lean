import StubResolver.Class
import StubResolver.Name.Wire

/-!
# Questions

A question asks for records of a name, type and class. On the wire the top bit of the class field
asks for a unicast response.
-/

namespace StubResolver

/-- An entry of the question section. -/
structure Question where
  name : Name
  type : TypeCode
  recordClass : Class
  /-- Whether a unicast response is asked for. -/
  unicast : Bool
  deriving DecidableEq, Repr

namespace Question

/-- The top bit of the class field. -/
def unicastBit : UInt16 := 0x8000

/-- A question of class Internet. -/
def ofName (name : Name) (type : TypeCode) : Question :=
  ⟨name, type, .internet, false⟩

/-- Equality up to the case of letters in the names. -/
def same (a b : Question) : Bool :=
  a.name.same b.name && a.type == b.type && a.recordClass == b.recordClass &&
    a.unicast == b.unicast

/-- The class field of the wire form. -/
def classField (q : Question) : UInt16 :=
  q.recordClass.code ||| (if q.unicast then unicastBit else 0)

/-- The wire form. -/
def toWire (q : Question) : Octets :=
  q.name.toWire ++ Octets.ofWord16 q.type.code ++ Octets.ofWord16 q.classField

/-- The question at the position. -/
def decode : Decoder Question := do
  let name ← Name.decode
  let type ← Decoder.word16
  let field ← Decoder.word16
  return ⟨name, .ofCode type, ⟨field &&& ~~~unicastBit⟩, field &&& unicastBit != 0⟩

/-- The fields, with tabs between. -/
def toText (q : Question) : String :=
  q.name.fqdn ++ "\t" ++ q.recordClass.toText ++ "\t" ++ q.type.toText

end Question

end StubResolver
