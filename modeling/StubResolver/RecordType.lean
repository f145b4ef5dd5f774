/-!
# Record types

Registered types have a mnemonic. A type field may hold any code, so `TypeCode` keeps the
unregistered ones as numbers.
-/

namespace StubResolver

/-- Registered record types with a mnemonic. -/
inductive RecordType where
  | a | ns | cname | soa | ptr | hinfo | mx | txt | aaaa | srv | naptr | opt | ds | rrsig | nsec
  | dnskey | svcb | https | axfr | any | caa
  deriving DecidableEq, Repr

namespace RecordType

/-- Every registered type, by ascending code. -/
def all : List RecordType :=
  [a, ns, cname, soa, ptr, hinfo, mx, txt, aaaa, srv, naptr, opt, ds, rrsig, nsec, dnskey, svcb,
    https, axfr, any, caa]

/-- The code on the wire. -/
def code : RecordType → UInt16
  | a => 1 | ns => 2 | cname => 5 | soa => 6 | ptr => 12 | hinfo => 13 | mx => 15 | txt => 16
  | aaaa => 28 | srv => 33 | naptr => 35 | opt => 41 | ds => 43 | rrsig => 46 | nsec => 47
  | dnskey => 48 | svcb => 64 | https => 65 | axfr => 252 | any => 255 | caa => 257

/-- The mnemonic. -/
def mnemonic : RecordType → String
  | a => "A" | ns => "NS" | cname => "CNAME" | soa => "SOA" | ptr => "PTR" | hinfo => "HINFO"
  | mx => "MX" | txt => "TXT" | aaaa => "AAAA" | srv => "SRV" | naptr => "NAPTR" | opt => "OPT"
  | ds => "DS" | rrsig => "RRSIG" | nsec => "NSEC" | dnskey => "DNSKEY" | svcb => "SVCB"
  | https => "HTTPS" | axfr => "AXFR" | any => "ANY" | caa => "CAA"

/-- The registered type with a code. -/
def ofCode? (code : UInt16) : Option RecordType :=
  all.find? fun t => t.code == code

theorem mem_all (t : RecordType) : t ∈ all := by
  cases t <;> decide

theorem ofCode?_code (t : RecordType) : ofCode? t.code = some t := by
  cases t <;> rfl

theorem code_of_ofCode? {n : UInt16} {t : RecordType} (h : ofCode? n = some t) : t.code = n := by
  simpa using List.find?_some h

end RecordType

/-- The type field of a question or record. -/
inductive TypeCode where
  /-- A registered type. -/
  | known (type : RecordType)
  /-- A code kept as a number. It need not be unregistered, but then it is not the known type. -/
  | unknown (code : UInt16)
  deriving DecidableEq, Repr

namespace TypeCode

/-- The code on the wire. -/
def code : TypeCode → UInt16
  | known t => t.code
  | unknown n => n

/-- The type a code on the wire stands for: the registered one if there is one. -/
def ofCode (n : UInt16) : TypeCode :=
  match RecordType.ofCode? n with
  | some t => known t
  | none => unknown n

/-- The registered type, if it is one. -/
def known? : TypeCode → Option RecordType
  | known t => some t
  | unknown _ => none

/-- Whether this is the wildcard query type. -/
def isAny (t : TypeCode) : Bool :=
  t == known .any

/-- The mnemonic, or `TYPE` and the code. -/
def toText : TypeCode → String
  | known t => t.mnemonic
  | unknown n => "TYPE" ++ toString n.toNat

/-- Whether this is what its own code stands for. -/
def Canonical (t : TypeCode) : Prop :=
  ofCode t.code = t

instance (t : TypeCode) : Decidable t.Canonical :=
  inferInstanceAs (Decidable (ofCode t.code = t))

@[simp] theorem code_ofCode (n : UInt16) : (ofCode n).code = n := by
  unfold ofCode
  split
  · exact RecordType.code_of_ofCode? ‹_›
  · rfl

@[simp] theorem ofCode_known (t : RecordType) : ofCode t.code = known t := by
  simp [ofCode, RecordType.ofCode?_code]

theorem canonical_ofCode (n : UInt16) : (ofCode n).Canonical := by
  simp [Canonical]

theorem canonical_known (t : RecordType) : (known t).Canonical := by
  simp [Canonical, code]

end TypeCode

end StubResolver
