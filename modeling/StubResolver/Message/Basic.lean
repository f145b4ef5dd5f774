import StubResolver.Edns
import StubResolver.Header

/-!
# Messages

A message is a header, a question section and three record sections. Its EDNS parameters stay in
the additional section, where the index of their record is remembered.
-/

namespace StubResolver

/-- A message, and when it was received. -/
structure Message where
  header : Header
  questions : List Question
  answers : List Record
  authority : List Record
  additional : List Record
  /-- The index of the OPT record in the additional section. -/
  optIndex : Option Nat
  /-- The time of receipt in milliseconds since 1970, or 0 for a message made here. -/
  receivedAt : Int64
  deriving Repr

namespace Message

/-- All records, section by section. -/
def records (m : Message) : List Record :=
  m.answers ++ m.authority ++ m.additional

/-- The first question. -/
def question? (m : Message) : Option Question :=
  m.questions.head?

/-- The record of the EDNS parameters. -/
def optRecord? (m : Message) : Option Record :=
  m.optIndex.bind fun i => m.additional[i]?

/-- The EDNS parameters. -/
def edns? (m : Message) : Option Edns :=
  m.optRecord?.bind fun r => (Edns.ofRecord r).toOption

/-- Whether some answer record answers the question. -/
def answersQuestion (m : Message) (q : Question) : Bool :=
  m.answers.any fun r => r.isAnswer q

/-- The smallest time to live among the answers. -/
def minTtl? (m : Message) : Option UInt32 :=
  match m.answers with
  | [] => none
  | r :: rest => some (rest.foldl (fun least r => min least r.ttl) r.ttl)

/-- The message with another id. -/
def withId (m : Message) (id : UInt16) : Message :=
  { m with header := { m.header with id } }

/-- The message with the id zeroed, so that it stands for all that differ in nothing else. -/
def normalized (m : Message) : Message :=
  m.withId 0

/-- The message with another time of receipt. -/
def stamped (m : Message) (time : Int64) : Message :=
  { m with receivedAt := time }

/-- A section length in its header field, where what is longer counts as 65535. -/
def countField (n : Nat) : UInt16 :=
  UInt16.ofNat (min n 65535)

/-- The header with the section lengths of the message. -/
def countedHeader (m : Message) : Header :=
  { m.header with
    questionCount := countField m.questions.length
    answerCount := countField m.answers.length
    authorityCount := countField m.authority.length
    additionalCount := countField m.additional.length }

/-- The message with the counts of its header set to its section lengths. -/
def counted (m : Message) : Message :=
  { m with header := m.countedHeader }

end Message

end StubResolver
