import StubResolver.Class
import StubResolver.Header
import StubResolver.Interchange.Fields
import StubResolver.Text.Blank
import StubResolver.Text.Numeral

/-!
# Codes in JSON

Types, operations, response codes, classes and flags by name or number.
-/

namespace StubResolver

/-- The name of an operation. -/
def Opcode.variantName : Opcode → String
  | .query => "Query" | .inverseQuery => "InverseQuery" | .status => "Status"
  | .reserved3 => "Reserved3" | .notify => "Notify" | .update => "Update"

/-- An operation as JSON. -/
def Opcode.toJson (o : Opcode) : Json :=
  .text o.variantName

/-- The operation of a JSON value. -/
def Opcode.ofJson? (j : Json) : Option Opcode := do
  let name ← j.unitVariant?
  Opcode.all.find? fun o => o.variantName == name

namespace ResponseCode

/-- The name of a registered response code. -/
def variantName : ResponseCode → String
  | noError => "NoError" | formErr => "FormErr" | servFail => "ServFail"
  | nxDomain => "NxDomain" | notImp => "NotImp" | refused => "Refused" | yxDomain => "YxDomain"
  | yxRrSet => "YxRrSet" | nxRrSet => "NxRrSet" | notAuth => "NotAuth" | notZone => "NotZone"
  | badVersOrBadSig => "BadVersOrBadSig" | badKey => "BadKey" | badTime => "BadTime"
  | badMode => "BadMode" | badName => "BadName" | badAlg => "BadAlg" | badTrunc => "BadTrunc"
  | badCookie => "BadCookie"
  | unknown _ => "Unknown"

/-- A response code as JSON. -/
def toJson : ResponseCode → Json
  | unknown value => .ofVariant "Unknown" (.ofNat value.toNat)
  | c => .text c.variantName

/-- The response code of a JSON value. -/
def ofJson? (j : Json) : Option ResponseCode :=
  match j.variant? with
  | some ("Unknown", value) => value.word8?.map unknown
  | _ => do
    let name ← j.unitVariant?
    registered.find? fun c => c.variantName == name

end ResponseCode

namespace TypeCode

/-- A type as JSON. -/
def toJson : TypeCode → Json
  | known t => .ofVariant "Known" (.text t.mnemonic)
  | unknown n => .ofVariant "Unknown" (.ofNat n.toNat)

/-- The type of a JSON value. -/
def ofJson? (j : Json) : Option TypeCode := do
  match ← j.variant? with
  | ("Known", contents) =>
    let name ← contents.unitVariant?
    (RecordType.all.find? fun t => t.mnemonic == name).map known
  | ("Unknown", contents) => contents.word16?.map unknown
  | _ => none

end TypeCode

/-- A class as JSON. -/
def Class.toJson (c : Class) : Json :=
  .ofNat c.code.toNat

/-- The class of a JSON value. -/
def Class.ofJson? (j : Json) : Option Class :=
  j.word16?.map Class.mk

namespace Flags

/-- The names of the set flags with bars between; bits without a name come last. -/
def toText (f : Flags) : String :=
  let rest := f.bits &&& ~~~defined.bits
  let names := f.toList.map Flag.toText
  let extra := if rest = 0 then [] else ["0x" ++ String.ofList (Nat.toDigits 16 rest.toNat)]
  " | ".intercalate (names ++ extra)

/-- The flags of one part of a text: a name, or bits in hexadecimal digits. -/
def ofPart? (part : List Char) : Option Flags :=
  match Text.trimBlanks part with
  | '0' :: 'x' :: digits =>
    (Text.numeralUpTo? 16 (UInt16.size - 1) digits).map fun n => ⟨UInt16.ofNat n⟩
  | name => (Flag.all.find? fun f => f.toText.toList == name).map fun f => ⟨f.bit⟩

/-- The flags of a text with bars between its parts. -/
def ofText? (text : String) : Option Flags :=
  if (Text.trimBlanks text.toList).isEmpty then some empty
  else do
    let parts ← (text.toList.splitOn '|').mapM ofPart?
    return ⟨parts.foldl (fun bits f => bits ||| f.bits) 0⟩

/-- Flags as JSON. -/
def toJson (f : Flags) : Json :=
  .text f.toText

/-- The flags of a JSON value. -/
def ofJson? (j : Json) : Option Flags :=
  j.text?.bind ofText?

end Flags

end StubResolver
