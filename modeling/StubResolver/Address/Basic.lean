import StubResolver.Octets

/-!
# Addresses

IPv4 and IPv6 addresses and their texts. An IPv6 address is written with `::` for its longest run
of at least two zero groups, the first one on a tie; one that stands for an IPv4 address is
written with that.
-/

namespace StubResolver

/-- Four octets. -/
structure IPv4 where
  octets : Octets
  length_eq : octets.length = 4
  deriving DecidableEq, Repr

/-- Sixteen octets. -/
structure IPv6 where
  octets : Octets
  length_eq : octets.length = 16
  deriving DecidableEq, Repr

/-- An address of either family. -/
inductive Address where
  | v4 (address : IPv4)
  | v6 (address : IPv6)
  deriving DecidableEq, Repr

/-- The address of four octets. -/
def IPv4.ofOctets? (octets : Octets) : Option IPv4 :=
  if h : octets.length = 4 then some ⟨octets, h⟩ else none

/-- Four decimal numbers with dots between. -/
def IPv4.toText (a : IPv4) : String :=
  ".".intercalate (a.octets.map fun b => toString b.toNat)

namespace IPv6

/-- The address of sixteen octets. -/
def ofOctets? (octets : Octets) : Option IPv6 :=
  if h : octets.length = 16 then some ⟨octets, h⟩ else none

/-- Pairs of octets as numbers. -/
def groupsOf : Octets → List Nat
  | a :: b :: rest => (256 * a.toNat + b.toNat) :: groupsOf rest
  | _ => []

/-- The octets of numbers below 2^16. -/
def octetsOf (groups : List Nat) : Octets :=
  groups.flatMap fun g => [UInt8.ofNat (g / 256), UInt8.ofNat g]

/-- The eight groups. -/
def groups (a : IPv6) : List Nat :=
  groupsOf a.octets

/-- The address of eight groups. -/
def ofGroups? (groups : List Nat) : Option IPv6 :=
  ofOctets? (octetsOf groups)

/-- The IPv4 address that this one stands for, if it does. -/
def mapped? (a : IPv6) : Option IPv4 :=
  if a.octets.take 12 = [0, 0, 0, 0, 0, 0, 0, 0, 0, 0, 255, 255] then
    IPv4.ofOctets? (a.octets.drop 12)
  else none

/-- A run of zero groups. -/
structure Run where
  start : Nat
  length : Nat
  deriving DecidableEq, Repr

/-- The longer run, `a` on a tie. -/
def Run.longer (a b : Run) : Run :=
  if a.length < b.length then b else a

/-- The first longest run of zeros in groups that begin at `index`, against the `longest` before
and with the `current` one running up to here. -/
def longestZeros (index : Nat) (current longest : Run) : List Nat → Run
  | [] => longest
  | g :: gs =>
    if g = 0 then
      let current :=
        if current.length = 0 then ⟨index, 1⟩ else { current with length := current.length + 1 }
      longestZeros (index + 1) current (longest.longer current) gs
    else longestZeros (index + 1) ⟨0, 0⟩ longest gs

/-- Groups in hexadecimal digits with colons between. -/
def groupsText (groups : List Nat) : String :=
  ":".intercalate (groups.map fun g => String.ofList (Nat.toDigits 16 g))

/-- The text of an address. -/
def toText (a : IPv6) : String :=
  match a.mapped? with
  | some v4 => "::ffff:" ++ v4.toText
  | none =>
    let run := longestZeros 0 ⟨0, 0⟩ ⟨0, 0⟩ a.groups
    if 1 < run.length then
      groupsText (a.groups.take run.start) ++ "::" ++
        groupsText (a.groups.drop (run.start + run.length))
    else groupsText a.groups

end IPv6

/-- The text of an address of either family. -/
def Address.toText : Address → String
  | .v4 a => a.toText
  | .v6 a => a.toText

/-- An address with a port; an IPv6 one may name its scope. -/
inductive Endpoint where
  | v4 (address : IPv4) (port : UInt16)
  | v6 (address : IPv6) (port : UInt16) (scope : UInt32)
  deriving DecidableEq, Repr

namespace Endpoint

/-- The address of an endpoint. -/
def address : Endpoint → Address
  | v4 a _ => .v4 a
  | v6 a _ _ => .v6 a

/-- The port of an endpoint. -/
def port : Endpoint → UInt16
  | v4 _ port => port
  | v6 _ port _ => port

/-- An address with a port and no scope. -/
def ofAddress (address : Address) (port : UInt16) : Endpoint :=
  match address with
  | .v4 a => v4 a port
  | .v6 a => v6 a port 0

/-- Whether the address is IPv6. -/
def isV6 : Endpoint → Bool
  | v4 .. => false
  | v6 .. => true

/-- Address and port; an IPv6 address stands in brackets, with its scope if that is not 0. -/
def toText : Endpoint → String
  | v4 a port => a.toText ++ ":" ++ toString port.toNat
  | v6 a port scope =>
    let scopeText := if scope = 0 then "" else "%" ++ toString scope.toNat
    "[" ++ a.toText ++ scopeText ++ "]:" ++ toString port.toNat

end Endpoint

end StubResolver
