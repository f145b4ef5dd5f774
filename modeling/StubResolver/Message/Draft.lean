import StubResolver.Message.Basic

/-!
# Making messages

A draft becomes a message if it has a question, at most one OPT record, and nothing too long for
its field on the wire.
-/

namespace StubResolver

/-- What a message is made of. -/
structure Draft where
  id : UInt16
  opcode : Opcode
  rcode : ResponseCode
  flags : Flags
  questions : List Question
  answers : List Record
  authority : List Record
  additional : List Record
  deriving Repr

namespace Draft

/-- Nothing in it yet. -/
def empty : Draft :=
  ⟨0, .query, .noError, .empty, [], [], [], []⟩

/-- A single question. -/
def ofQuestion (q : Question) : Draft :=
  { empty with questions := [q] }

/-- The beginning of a response: id, opcode, questions and the wish for recursion are those of
the query. -/
def responseTo (query : Message) : Draft :=
  { empty with
    id := query.header.id
    opcode := query.header.opcode
    questions := query.questions
    flags := (Flags.empty.set .qr true).set .rd query.header.recursionDesired }

/-- The draft with a flag set or cleared. -/
def setFlag (d : Draft) (flag : Flags.Flag) (value : Bool) : Draft :=
  { d with flags := d.flags.set flag value }

/-- The draft with an OPT record for EDNS parameters. -/
def withEdns (d : Draft) (e : Edns) : Draft :=
  { d with additional := d.additional ++ [e.toRecord] }

/-- The sections with their lengths, in the order in which they are checked. -/
def sectionLengths (d : Draft) : List (WireField × Nat) :=
  [(.questionCount, d.questions.length), (.answerCount, d.answers.length),
    (.authorityCount, d.authority.length), (.additionalCount, d.additional.length)]

/-- The lengths of all payloads. -/
def payloadLengths (d : Draft) : List (WireField × Nat) :=
  (d.answers ++ d.authority ++ d.additional).map fun r => (.rdataLength, r.rdata.wireLength)

/-- The message of a draft, or the first reason against it. -/
def build (d : Draft) : Except ProtocolError Message :=
  if d.questions.isEmpty then .error .missingQuestion
  else if 1 < d.additional.countP Record.isOpt then .error .multipleOptRecords
  else match (d.sectionLengths ++ d.payloadLengths).find? fun field => 65535 < field.2 with
    | some (field, length) => .error (.exceedsWireLimit field length)
    | none => .ok <| Message.counted {
        header := { Header.ofId d.id with flags := d.flags, opcode := d.opcode, rcode := d.rcode }
        questions := d.questions
        answers := d.answers
        authority := d.authority
        additional := d.additional
        optIndex := d.additional.findIdx? Record.isOpt
        receivedAt := 0 }

end Draft

/-- A query that asks for recursion and offers a payload size. -/
def Message.query (id : UInt16) (q : Question) (udpPayloadSize : UInt16) : Message :=
  Message.counted {
    header := (Header.ofId id).setFlag .rd true
    questions := [q]
    answers := []
    authority := []
    additional := [(Edns.ofSize udpPayloadSize).toRecord]
    optIndex := some 0
    receivedAt := 0 }

end StubResolver
