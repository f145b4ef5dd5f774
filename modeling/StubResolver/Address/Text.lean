import StubResolver.Address.Basic
import StubResolver.Text.Numeral

/-!
# Addresses from text

Each reader takes characters from the front and gives the rest back; an address is read if nothing
is left over.
-/

namespace StubResolver.AddressText

/-- A reader of some characters at the front. -/
abbrev Reader (α : Type) := List Char → Option (α × List Char)

/-- The character `c` and then what `next` reads. -/
def after {α : Type} (c : Char) (next : Reader α) : Reader α
  | x :: rest => if x = c then next rest else none
  | [] => none

/-- The digits in front, as a number and how many there are. -/
def takeDigits (base : Nat) (cs : List Char) : List Char × List Char :=
  cs.span fun c => (Text.digitValue? base c).isSome

/-- A decimal number below 256 of at most three digits, without leading zeros. -/
def decimalOctet : Reader UInt8 := fun cs =>
  let (digits, rest) := takeDigits 10 cs
  let padded := digits.head? = some '0' ∧ 1 < digits.length
  if 3 < digits.length ∨ padded then none
  else do return (UInt8.ofNat (← Text.digitsUpTo? 10 255 digits), rest)

/-- One to four hexadecimal digits. -/
def hexGroup : Reader Nat := fun cs =>
  let (digits, rest) := takeDigits 16 cs
  if 4 < digits.length then none
  else do return (← Text.digits? 16 digits, rest)

/-- A decimal number of any number of digits, at most `limit`. -/
def decimal (limit : Nat) : Reader Nat := fun cs => do
  let (digits, rest) := takeDigits 10 cs
  return (← Text.digitsUpTo? 10 limit digits, rest)

/-- Four decimal octets with dots between. -/
def ipv4 : Reader IPv4 := fun cs => do
  let (a, cs) ← decimalOctet cs
  let (b, cs) ← after '.' decimalOctet cs
  let (c, cs) ← after '.' decimalOctet cs
  let (d, cs) ← after '.' decimalOctet cs
  return (⟨[a, b, c, d], rfl⟩, cs)

/-- Groups that were read, and whether they end in an IPv4 address. -/
structure Groups where
  groups : List Nat
  embedded : Bool

/-- Reads behind a colon, except at the front. -/
def separated {α : Type} (first : Bool) (reader : Reader α) : Reader α :=
  if first then reader else after ':' reader

/-- Up to `limit` groups with colons between, as far as they go. An IPv4 address may take the
place of two groups and ends them. -/
def groups : (limit : Nat) → (first : Bool) → List Char → Groups × List Char
  | 0, _, cs => (⟨[], false⟩, cs)
  | limit + 1, first, cs =>
    match (if limit = 0 then none else separated first ipv4 cs) with
    | some (a, rest) => (⟨IPv6.groupsOf a.octets, true⟩, rest)
    | none =>
      match separated first hexGroup cs with
      | some (g, rest) =>
        let (found, rest) := groups limit false rest
        (⟨g :: found.groups, found.embedded⟩, rest)
      | none => (⟨[], false⟩, cs)

/-- Eight groups, or fewer with `::` for at least one zero group. -/
def ipv6 : Reader IPv6 := fun cs => do
  let (front, cs) := groups 8 true cs
  if front.groups.length = 8 then
    return (← IPv6.ofGroups? front.groups, cs)
  else if front.embedded then none
  else
    let ((), cs) ← after ':' (after ':' fun rest => some ((), rest)) cs
    let (back, cs) := groups (7 - front.groups.length) true cs
    let zeros := List.replicate (8 - front.groups.length - back.groups.length) 0
    return (← IPv6.ofGroups? (front.groups ++ zeros ++ back.groups), cs)

/-- A port, behind a colon. -/
def portNumber : Reader UInt16 := fun cs => do
  let (n, cs) ← after ':' (decimal 65535) cs
  return (UInt16.ofNat n, cs)

/-- A scope behind a percent sign, or no scope. -/
def scope (cs : List Char) : UInt32 × List Char :=
  match after '%' (decimal (UInt32.size - 1)) cs with
  | some (n, rest) => (UInt32.ofNat n, rest)
  | none => (0, cs)

/-- What `reader` makes of a whole text. -/
def whole? {α : Type} (reader : Reader α) (cs : List Char) : Option α :=
  match reader cs with
  | some (a, []) => some a
  | _ => none

/-- An IPv4 address and a port. -/
def endpointV4 : Reader Endpoint := fun cs => do
  let (a, cs) ← ipv4 cs
  let (port, cs) ← portNumber cs
  return (.v4 a port, cs)

/-- An IPv6 address and perhaps a scope in brackets, and a port. -/
def endpointV6 : Reader Endpoint := fun cs => do
  let (a, cs) ← after '[' ipv6 cs
  let (scope, cs) := scope cs
  let (port, cs) ← after ']' portNumber cs
  return (.v6 a port scope, cs)

end AddressText

open AddressText

/-- The IPv4 address of a text. -/
def IPv4.ofText? (text : String) : Option IPv4 :=
  whole? ipv4 text.toList

/-- The IPv6 address of a text. -/
def IPv6.ofText? (text : String) : Option IPv6 :=
  whole? ipv6 text.toList

/-- The address of a text, of either family. -/
def Address.ofText? (text : String) : Option Address :=
  ((IPv4.ofText? text).map .v4).or ((IPv6.ofText? text).map .v6)

/-- The endpoint of a text, of either family. -/
def Endpoint.ofText? (text : String) : Option Endpoint :=
  (whole? endpointV4 text.toList).or (whole? endpointV6 text.toList)

end StubResolver
