import StubResolver.Frame
import StubResolver.Message.Basic

/-!
# Messages on the wire

Reading tolerates several OPT records and keeps the place of the first. What follows a message is
left unread. Two messages are the same if their wire forms are.
-/

namespace StubResolver.Message

/-- The message at the position, without a time of receipt. -/
def decode : Decoder Message := do
  let header ← Header.decode
  let questions ← Decoder.times header.questionCount.toNat Question.decode
  let answers ← Decoder.times header.answerCount.toNat Record.decode
  let authority ← Decoder.times header.authorityCount.toNat Record.decode
  let additional ← Decoder.times header.additionalCount.toNat Record.decode
  return {
    header, questions, answers, authority, additional
    optIndex := additional.findIdx? Record.isOpt
    receivedAt := 0 }

/-- The message in some octets, received at `time`. -/
def ofArray (message : Array UInt8) (time : Int64) : Except ProtocolError Message :=
  (fun m => m.stamped time) <$> decode.valueAt message 0

/-- The message in some octets, received at `time`. -/
def ofWire (message : Octets) (time : Int64) : Except ProtocolError Message :=
  ofArray message.toArray time

/-- An estimate of the length on the wire, exact where those of the names are. -/
def sizeEstimate (m : Message) : Nat :=
  Header.size + m.questions.foldr (fun q n => q.name.sizeEstimate + 4 + n) 0 +
    m.records.foldr (fun r n => r.sizeEstimate + n) 0

/-- The wire form; names are not compressed. -/
def toWire (m : Message) : Octets :=
  m.header.toWire ++ m.questions.flatMap Question.toWire ++ m.records.flatMap Record.toWire

/-- The frame of the wire form. -/
def toFrame (m : Message) : Except ProtocolError Octets :=
  frame m.toWire

/-- Equality of the wire forms. -/
def same (a b : Message) : Bool :=
  a.toWire == b.toWire

end StubResolver.Message
