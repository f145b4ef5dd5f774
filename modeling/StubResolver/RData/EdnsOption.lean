import StubResolver.Error

/-!
# EDNS options

The payload of an OPT record is a sequence of options: a code, a length and that many octets.
-/

namespace StubResolver

/-- One option, its data uninterpreted. -/
structure EdnsOption where
  code : UInt16
  data : Octets
  deriving DecidableEq, Repr

namespace EdnsOption

/-- The length on the wire. -/
def wireLength (o : EdnsOption) : Nat :=
  4 + o.data.length

/-- A length in its field, where what is longer counts as 65535. -/
def lengthField (n : Nat) : UInt16 :=
  UInt16.ofNat (min n 65535)

/-- Code, length and data. -/
def toWire (o : EdnsOption) : Octets :=
  Octets.ofWord16 o.code ++ Octets.ofWord16 (lengthField o.data.length) ++ o.data

/-- The options in octets that begin at `offset` of the payload. -/
def readAll (offset : Nat) : Octets → Except ProtocolError (List EdnsOption)
  | [] => .ok []
  | [_] => .error (.unexpectedEnd (offset + 2))
  | [_, _] | [_, _, _] => .error (.unexpectedEnd (offset + 4))
  | a :: b :: c :: d :: rest =>
    let code := Octets.word16 a b
    let length := (Octets.word16 c d).toNat
    if Octets.atLeast length rest then
      match readAll (offset + 4 + length) (rest.drop length) with
      | .ok options => .ok (⟨code, rest.take length⟩ :: options)
      | .error e => .error e
    else .error (.optionOverrun code)
termination_by data => data.length

/-- The name of a registered code. -/
def name? (code : UInt16) : Option String :=
  match code with
  | 3 => some "NSID"
  | 8 => some "ECS"
  | 10 => some "COOKIE"
  | 11 => some "KEEPALIVE"
  | 12 => some "PADDING"
  | 15 => some "EDE"
  | _ => none

/-- The name of the code, or `OPT` and its number, and the data in hexadecimal digits. -/
def toText (o : EdnsOption) : String :=
  (name? o.code).getD ("OPT" ++ toString o.code.toNat) ++ ": " ++ Octets.hex o.data

end EdnsOption

end StubResolver
