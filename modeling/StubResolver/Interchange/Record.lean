import StubResolver.Address.Text
import StubResolver.Edns
import StubResolver.Interchange.Codes
import StubResolver.Name.Text

/-!
# Records in JSON

A name is its text as given, and read back as text. A payload is an object with one member. The
boundaries in a text payload are not looked at.
-/

namespace StubResolver

/-- A name as JSON. -/
def Name.toJson (n : Name) : Json :=
  .text n.rawAce

/-- The forms of the name of a JSON value. -/
def Name.Forms.ofJson? (j : Json) : Option Name.Forms :=
  j.text?.bind fun s => (ofTextWith asciiOnly s).toOption

theorem Name.Forms.valid_of_ofJson? {j : Json} {f : Name.Forms} (h : ofJson? j = some f) :
    f.Valid := by
  obtain ⟨s, _, h⟩ := Option.bind_eq_some_iff.1 h
  cases hread : ofTextWith asciiOnly s with
  | error e => rw [hread] at h; cases h
  | ok f => rw [hread] at h; cases h; exact valid_of_ofTextWith hread

/-- The name of a JSON value. -/
def Name.ofJson? (j : Json) : Option Name :=
  (Forms.ofJson? j).pmap Name.mk fun _ => Forms.valid_of_ofJson?

/-- An option as JSON. -/
def EdnsOption.toJson (o : EdnsOption) : Json :=
  .object [("code", .ofNat o.code.toNat), ("data", .ofOctets o.data)]

/-- The option of a JSON value. -/
def EdnsOption.ofJson? (j : Json) : Option EdnsOption := do
  let f ← Json.Fields.ofJson? ["code", "data"] j
  return ⟨← f.get? "code" Json.word16?, ← f.get? "data" Json.octets?⟩

namespace RData

/-- A payload as JSON. -/
def toJson : RData → Json
  | a address => .ofVariant "A" (.text address.toText)
  | aaaa address => .ofVariant "AAAA" (.text address.toText)
  | txt strings => .ofVariant "TXT" (.object [("blob", .ofOctets strings.blob)])
  | opt options => .ofVariant "OPT" (.object [("options", .list (options.map (·.toJson)))])
  | unknown code data =>
    .ofVariant "Unknown" (.object [("type_code", .ofNat code.toNat), ("data", .ofOctets data)])

/-- The payload of a JSON value. -/
def ofJson? (j : Json) : Option RData := do
  let (name, contents) ← j.variant?
  match name with
  | "A" => (contents.text?.bind IPv4.ofText?).map a
  | "AAAA" => (contents.text?.bind IPv6.ofText?).map aaaa
  | "TXT" =>
    let f ← Json.Fields.ofJson? ["blob"] contents
    return txt ⟨← f.get? "blob" Json.octets?⟩
  | "OPT" =>
    let f ← Json.Fields.ofJson? ["options"] contents
    return opt (← f.get? "options" (Json.listOf? EdnsOption.ofJson?))
  | "Unknown" =>
    let f ← Json.Fields.ofJson? ["type_code", "data"] contents
    return unknown (← f.get? "type_code" Json.word16?) (← f.get? "data" Json.octets?)
  | _ => none

end RData

namespace Record

/-- A record as JSON. -/
def toJson (r : Record) : Json :=
  .object [("name", r.name.toJson), ("rtype", r.type.toJson), ("rclass", r.recordClass.toJson),
    ("class_value", .ofNat r.classField.toNat), ("ttl", .ofNat r.ttl.toNat),
    ("rdata", r.rdata.toJson)]

/-- The record of a JSON value. -/
def ofJson? (j : Json) : Option Record := do
  let f ← Json.Fields.ofJson? ["name", "rtype", "rclass", "class_value", "ttl", "rdata"] j
  return {
    name := ← f.get? "name" Name.ofJson?
    type := ← f.get? "rtype" TypeCode.ofJson?
    recordClass := ← f.get? "rclass" Class.ofJson?
    classField := ← f.get? "class_value" Json.word16?
    ttl := ← f.get? "ttl" Json.word32?
    rdata := ← f.get? "rdata" RData.ofJson? }

end Record

/-- EDNS parameters as JSON. -/
def Edns.toJson (e : Edns) : Json :=
  .object [("udp_payload_size", .ofNat e.udpPayloadSize.toNat),
    ("extended_rcode", .ofNat e.extendedRcode.toNat), ("version", .ofNat e.version.toNat),
    ("dnssec_ok", .bool e.dnssecOk), ("options", .list (e.options.map (·.toJson)))]

end StubResolver
