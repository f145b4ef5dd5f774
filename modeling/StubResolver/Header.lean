import StubResolver.Decoder
import StubResolver.Opcode
import StubResolver.ResponseCode

/-!
# Headers

A message begins with six words: its id, the control word with flags, opcode and response code,
and the lengths of the four sections.
-/

namespace StubResolver

/-- The one-bit fields of the control word, at their places in it. -/
structure Flags where
  bits : UInt16
  deriving DecidableEq, Repr

namespace Flags

/-- A defined flag. -/
inductive Flag where
  | qr | aa | tc | rd | ra | ad | cd
  deriving DecidableEq, Repr

/-- The flags in the order they are presented in. -/
def Flag.all : List Flag :=
  [.qr, .aa, .tc, .rd, .ra, .ad, .cd]

/-- The place of a flag in the control word. -/
def Flag.bit : Flag → UInt16
  | .qr => 0x8000 | .aa => 0x0400 | .tc => 0x0200 | .rd => 0x0100 | .ra => 0x0080 | .ad => 0x0020
  | .cd => 0x0010

/-- The name of a flag. -/
def Flag.toText : Flag → String
  | .qr => "QR" | .aa => "AA" | .tc => "TC" | .rd => "RD" | .ra => "RA" | .ad => "AD"
  | .cd => "CD"

/-- The name of a flag in presented messages. -/
def Flag.toLowerText : Flag → String
  | .qr => "qr" | .aa => "aa" | .tc => "tc" | .rd => "rd" | .ra => "ra" | .ad => "ad"
  | .cd => "cd"

/-- No flag set. -/
def empty : Flags := ⟨0⟩

instance : Inhabited Flags := ⟨empty⟩

/-- All defined flags set. -/
def defined : Flags := ⟨0x87B0⟩

/-- Whether a flag is set. -/
def contains (f : Flags) (flag : Flag) : Bool :=
  f.bits &&& flag.bit == flag.bit

/-- The flags with one of them set or cleared. -/
def set (f : Flags) (flag : Flag) (value : Bool) : Flags :=
  ⟨if value then f.bits ||| flag.bit else f.bits &&& ~~~flag.bit⟩

/-- The flags of a control word; its other bits are dropped. -/
def ofControl (control : UInt16) : Flags :=
  ⟨control &&& defined.bits⟩

/-- The set flags in presentation order. -/
def toList (f : Flags) : List Flag :=
  Flag.all.filter f.contains

end Flags

/-- A message header. The counts say how long the sections are in the wire form. -/
structure Header where
  id : UInt16
  flags : Flags
  opcode : Opcode
  /-- The response code; four bits of it fit on the wire. -/
  rcode : ResponseCode
  questionCount : UInt16
  answerCount : UInt16
  authorityCount : UInt16
  additionalCount : UInt16
  deriving DecidableEq, Repr

namespace Header

/-- A query header with an id, no flags and empty sections. -/
def ofId (id : UInt16) : Header :=
  ⟨id, .empty, .query, .noError, 0, 0, 0, 0⟩

/-- How many octets a header takes. -/
def size : Nat := 12

/-- The header with a flag set or cleared. -/
def setFlag (h : Header) (flag : Flags.Flag) (value : Bool) : Header :=
  { h with flags := h.flags.set flag value }

/-- Whether this is the header of a response. -/
def isResponse (h : Header) : Bool :=
  h.flags.contains .qr

/-- Whether the message was cut to fit. -/
def isTruncated (h : Header) : Bool :=
  h.flags.contains .tc

/-- Whether the client asks the server to recurse. -/
def recursionDesired (h : Header) : Bool :=
  h.flags.contains .rd

/-- Whether the server recurses. -/
def recursionAvailable (h : Header) : Bool :=
  h.flags.contains .ra

/-- The opcode bits of a control word. -/
def opcodeBits (control : UInt16) : UInt8 :=
  UInt8.ofNat (control.toNat / 0x800 % 16)

/-- The response code of a control word. -/
def rcodeOfControl (control : UInt16) : ResponseCode :=
  .ofValue (UInt8.ofNat (control.toNat % 16))

/-- The second word, with opcode and response code packed in. -/
def controlWord (h : Header) : UInt16 :=
  h.flags.bits ||| UInt16.ofNat (h.opcode.value.toNat % 16 * 0x800) |||
    UInt16.ofNat (h.rcode.value.toNat % 16)

/-- The wire form. -/
def toWire (h : Header) : Octets :=
  Octets.ofWord16 h.id ++ Octets.ofWord16 h.controlWord ++ Octets.ofWord16 h.questionCount ++
    Octets.ofWord16 h.answerCount ++ Octets.ofWord16 h.authorityCount ++
    Octets.ofWord16 h.additionalCount

/-- The header at the position. The opcode is looked at when all six words have been read. -/
def decode : Decoder Header := do
  let left ← Decoder.remaining
  if left < size then
    throw (.bufferTooShort size left)
  let id ← Decoder.word16
  let control ← Decoder.word16
  let questionCount ← Decoder.word16
  let answerCount ← Decoder.word16
  let authorityCount ← Decoder.word16
  let additionalCount ← Decoder.word16
  let opcode ← Decoder.ofExcept (Opcode.ofValue (opcodeBits control))
  return {
    id, flags := .ofControl control, opcode, rcode := rcodeOfControl control
    questionCount, answerCount, authorityCount, additionalCount }

/-- The two lines that present a header. -/
def toText (h : Header) : String :=
  ";; ->>HEADER<<- opcode: " ++ h.opcode.toText ++ ", status: " ++ h.rcode.toText ++ ", id: " ++
    toString h.id.toNat ++ "\n;; flags: " ++
    " ".intercalate (h.flags.toList.map Flags.Flag.toLowerText) ++
    "; QUERY: " ++ toString h.questionCount.toNat ++
    ", ANSWER: " ++ toString h.answerCount.toNat ++
    ", AUTHORITY: " ++ toString h.authorityCount.toNat ++
    ", ADDITIONAL: " ++ toString h.additionalCount.toNat

end Header

end StubResolver
