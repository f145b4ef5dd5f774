import StubResolver.Record

/-!
# EDNS

EDNS parameters travel in an OPT record of the additional section, whose fields have other
meanings: the class field is the payload size, and the time holds the upper bits of the response
code, the version and flags.
-/

namespace StubResolver

/-- EDNS parameters. -/
structure Edns where
  udpPayloadSize : UInt16
  extendedRcode : UInt8
  version : UInt8
  dnssecOk : Bool
  options : List EdnsOption
  deriving DecidableEq, Repr

namespace Edns

/-- The payload size that a client offers if nothing else is set. -/
def defaultPayloadSize : UInt16 := 1024

/-- Version 0 with a payload size and nothing else. -/
def ofSize (udpPayloadSize : UInt16) : Edns :=
  ⟨udpPayloadSize, 0, 0, false, []⟩

/-- The full response code, given that of the header. -/
def fullRcode (e : Edns) (header : UInt8) : UInt16 :=
  UInt16.ofNat (16 * e.extendedRcode.toNat + header.toNat % 16)

/-- The parameters packed into the time field. -/
def ttl (e : Edns) : UInt32 :=
  UInt32.ofNat (0x1000000 * e.extendedRcode.toNat + 0x10000 * e.version.toNat +
    (if e.dnssecOk then 0x8000 else 0))

/-- The OPT record of the parameters. -/
def toRecord (e : Edns) : Record :=
  .ofClassField .root (.known .opt) e.udpPayloadSize e.ttl (.opt e.options)

/-- The parameters in a record with an OPT payload. -/
def ofRecord (r : Record) : Except ProtocolError Edns :=
  match r.rdata with
  | .opt options => .ok {
      udpPayloadSize := r.classField
      extendedRcode := UInt8.ofNat (r.ttl.toNat / 0x1000000)
      version := UInt8.ofNat (r.ttl.toNat / 0x10000)
      dnssecOk := r.ttl.toNat / 0x8000 % 2 == 1
      options }
  | _ => .error (.notOptPayload r.type)

/-- The presentation of the parameters. -/
def toText (e : Edns) : String :=
  "EDNS: version: " ++ toString e.version.toNat ++ ", flags:" ++
    (if e.dnssecOk then " do" else "") ++ "; udp: " ++ toString e.udpPayloadSize.toNat ++
    String.join (e.options.map fun o => "\n; " ++ o.toText)

end Edns

end StubResolver
