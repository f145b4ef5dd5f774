import StubResolver.Interchange.Record
import StubResolver.Message.Basic

/-! Headers, questions and messages in JSON. The counts and the place of the OPT record are read
as they are given. -/

namespace StubResolver

namespace Header

/-- A header as JSON. -/
def toJson (h : Header) : Json :=
  .object [("id", .ofNat h.id.toNat), ("flags", h.flags.toJson), ("opcode", h.opcode.toJson),
    ("rcode", h.rcode.toJson), ("qd_count", .ofNat h.questionCount.toNat),
    ("an_count", .ofNat h.answerCount.toNat), ("ns_count", .ofNat h.authorityCount.toNat),
    ("ar_count", .ofNat h.additionalCount.toNat)]

/-- The header of a JSON value. -/
def ofJson? (j : Json) : Option Header := do
  let f ← Json.Fields.ofJson?
    ["id", "flags", "opcode", "rcode", "qd_count", "an_count", "ns_count", "ar_count"] j
  return {
    id := ← f.get? "id" Json.word16?
    flags := ← f.get? "flags" Flags.ofJson?
    opcode := ← f.get? "opcode" Opcode.ofJson?
    rcode := ← f.get? "rcode" ResponseCode.ofJson?
    questionCount := ← f.get? "qd_count" Json.word16?
    answerCount := ← f.get? "an_count" Json.word16?
    authorityCount := ← f.get? "ns_count" Json.word16?
    additionalCount := ← f.get? "ar_count" Json.word16? }

end Header

namespace Question

/-- A question as JSON. -/
def toJson (q : Question) : Json :=
  .object [("qname", q.name.toJson), ("qtype", q.type.toJson), ("qclass", q.recordClass.toJson),
    ("unicast", .bool q.unicast)]

/-- The question of a JSON value. -/
def ofJson? (j : Json) : Option Question := do
  let f ← Json.Fields.ofJson? ["qname", "qtype", "qclass", "unicast"] j
  return {
    name := ← f.get? "qname" Name.ofJson?
    type := ← f.get? "qtype" TypeCode.ofJson?
    recordClass := ← f.get? "qclass" Class.ofJson?
    unicast := ← f.get? "unicast" Json.bool? }

end Question

namespace Message

/-- An index as JSON. -/
def indexJson : Option Nat → Json
  | some i => .ofNat i
  | none => .null

/-- A message as JSON. -/
def toJson (m : Message) : Json :=
  .object [("header", m.header.toJson), ("questions", .list (m.questions.map (·.toJson))),
    ("answers", .list (m.answers.map (·.toJson))),
    ("authority", .list (m.authority.map (·.toJson))),
    ("additional", .list (m.additional.map (·.toJson))),
    ("opt_rr_position", indexJson m.optIndex),
    ("receive_timestamp", .integer m.receivedAt.toInt)]

/-- The message of a JSON value. -/
def ofJson? (j : Json) : Option Message := do
  let f ← Json.Fields.ofJson? ["header", "questions", "answers", "authority", "additional",
    "opt_rr_position", "receive_timestamp"] j
  return {
    header := ← f.get? "header" Header.ofJson?
    questions := ← f.get? "questions" (Json.listOf? Question.ofJson?)
    answers := ← f.get? "answers" (Json.listOf? Record.ofJson?)
    authority := ← f.get? "authority" (Json.listOf? Record.ofJson?)
    additional := ← f.get? "additional" (Json.listOf? Record.ofJson?)
    optIndex := ← f.getOr? "opt_rr_position"
      (Json.nullable? (Json.naturalUpTo? (UInt64.size - 1))) none
    receivedAt := ← f.get? "receive_timestamp" Json.int64? }

end Message

end StubResolver
