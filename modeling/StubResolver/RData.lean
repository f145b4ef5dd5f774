import StubResolver.Address.Basic
import StubResolver.RData.EdnsOption
import StubResolver.RData.TextStrings

/-!
# Record data

Addresses, texts and EDNS options are decoded; the data of every other type stays opaque and is
written back unchanged.
-/

namespace StubResolver

/-- The payload of a record. -/
inductive RData where
  | a (address : IPv4)
  | aaaa (address : IPv6)
  | txt (strings : TextStrings)
  | opt (options : List EdnsOption)
  /-- Opaque data of the type with the given code. -/
  | unknown (code : UInt16) (data : Octets)
  deriving DecidableEq, Repr

namespace RData

/-- The payload of a record of type `type` in exactly the octets `data`. -/
def ofOctets (type : TypeCode) (data : Octets) : Except ProtocolError RData :=
  match type.known? with
  | some .a =>
    match IPv4.ofOctets? data with
    | some address => .ok (a address)
    | none => .error (.rdataLengthMismatch .a 4 data.length)
  | some .aaaa =>
    match IPv6.ofOctets? data with
    | some address => .ok (aaaa address)
    | none => .error (.rdataLengthMismatch .aaaa 16 data.length)
  | some .txt => txt <$> TextStrings.ofOctets data
  | some .opt => opt <$> EdnsOption.readAll 0 data
  | _ => .ok (unknown type.code data)

/-- The payload that an address makes. -/
def ofAddress : Address → RData
  | .v4 address => a address
  | .v6 address => aaaa address

/-- The type that the payload belongs to. -/
def type : RData → TypeCode
  | a _ => .known .a
  | aaaa _ => .known .aaaa
  | txt _ => .known .txt
  | opt _ => .known .opt
  | unknown code _ => .ofCode code

/-- The length on the wire. -/
def wireLength : RData → Nat
  | a _ => 4
  | aaaa _ => 16
  | txt strings => strings.blob.length
  | opt options => options.foldr (fun o n => o.wireLength + n) 0
  | unknown _ data => data.length

/-- The wire form, without a length. -/
def toWire : RData → Octets
  | a address => address.octets
  | aaaa address => address.octets
  | txt strings => strings.blob
  | opt options => options.flatMap EdnsOption.toWire
  | unknown _ data => data

/-- The payload of a TXT record. -/
def strings? : RData → Option TextStrings
  | txt strings => some strings
  | _ => none

/-- The address of an A record. -/
def ipv4? : RData → Option IPv4
  | a address => some address
  | _ => none

/-- The address of an AAAA record. -/
def ipv6? : RData → Option IPv6
  | aaaa address => some address
  | _ => none

/-- Uninterpreted data: its length, and if there is any, its hexadecimal digits. -/
def genericText (data : Octets) : String :=
  "\\# " ++ toString data.length ++ (if data.isEmpty then "" else " " ++ Octets.hex data)

/-- The presentation of a payload. -/
def toText : RData → String
  | a address => address.toText
  | aaaa address => address.toText
  | txt strings => strings.toText
  | opt options => "; ".intercalate (options.map EdnsOption.toText)
  | unknown _ data => genericText data

end RData

end StubResolver
