import StubResolver.Octets
import StubResolver.RecordType
import StubResolver.Text.Quoted

/-!
# What can go wrong with a message

Every failure while building, reading or writing a message is one `ProtocolError`. Reading fails
for the message at hand and nothing else.
-/

namespace StubResolver

/-- A 16-bit field that a message under construction can overrun. -/
inductive WireField where
  | questionCount | answerCount | authorityCount | additionalCount | rdataLength
  deriving DecidableEq, Repr

/-- The name of the field in an error. -/
def WireField.toText : WireField → String
  | questionCount => "question count"
  | answerCount => "answer count"
  | authorityCount => "authority count"
  | additionalCount => "additional count"
  | rdataLength => "RDATA length"

/-- The cause of a failure. -/
inductive ProtocolError where
  /-- A structure of `expected` octets, of which `actual` are there. -/
  | bufferTooShort (expected actual : Nat)
  /-- A read would have had to reach `offset`. -/
  | unexpectedEnd (offset : Nat)
  /-- A length octet whose two top bits are neither both clear nor both set. -/
  | unsupportedLabelType (offset : Nat) (octet : UInt8)
  /-- A message too long for the length of a TCP frame. -/
  | frameTooLong (length : Nat)
  /-- A label of more than 63 octets. -/
  | labelTooLong (length : Nat)
  /-- A name of more than 128 labels. -/
  | tooManyLabels (count : Nat)
  /-- A label character that does not fit in one octet. -/
  | invalidLabelCharacter (character : Char) (position : Nat)
  /-- Name text with nothing between two separators. -/
  | emptyLabel (name : String)
  /-- Name text that the converter refuses. -/
  | noAsciiForm (name : String)
  /-- Compression pointers that come back to `offset`. -/
  | compressionLoop (offset : Nat)
  /-- Opcode bits without an operation. -/
  | unsupportedOpcode (value : UInt8)
  /-- Text that names no record type. -/
  | unknownRecordType (text : String)
  /-- An address of the wrong length. -/
  | rdataLengthMismatch (type : RecordType) (expected actual : Nat)
  /-- A character string longer than what is left of the RDATA. -/
  | stringOverrun (length : Nat)
  /-- An EDNS option longer than what is left of the RDATA. -/
  | optionOverrun (code : UInt16)
  /-- EDNS parameters sought in a record with another payload. -/
  | notOptPayload (found : TypeCode)
  /-- A message under construction with two OPT records. -/
  | multipleOptRecords
  /-- A message under construction without a question. -/
  | missingQuestion
  /-- A count or length of more than 65535. -/
  | exceedsWireLimit (field : WireField) (length : Nat)
  deriving DecidableEq, Repr

namespace ProtocolError

/-- The largest offset an error names; what lies beyond is cut off there. -/
def maxOffset : Nat := UInt64.size - 1

private def bytesText (offset : Nat) : String :=
  "malformed data at byte " ++ toString offset ++ ": "

private def rdataText (type : RecordType) : String :=
  "bad " ++ type.mnemonic ++ " RDATA: "

/-- The wording of an error. -/
def message : ProtocolError → String
  | bufferTooShort expected actual =>
    s!"need {expected} bytes but only {actual} are available"
  | unexpectedEnd offset => s!"message ends early at byte {offset}"
  | unsupportedLabelType offset octet =>
    bytesText offset ++ "unsupported label type 0x" ++ String.ofList (Octets.hexPairUpper octet)
  | frameTooLong length => bytesText length ++ "message too large for TCP framing"
  | labelTooLong length => s!"label of {length} octets is longer than 63"
  | tooManyLabels count => s!"name has {count} labels, more than 128"
  | invalidLabelCharacter character position =>
    "label character " ++ Text.quoteChar character ++
      s!" at index {position} does not fit in one octet"
  | emptyLabel name => "cannot use " ++ Text.quote name ++ " as a domain name: empty label"
  | noAsciiForm name => "no ASCII form for " ++ Text.quote name
  | compressionLoop offset => s!"compression pointers loop back to byte {offset}"
  | unsupportedOpcode value => s!"opcode {value} is not supported"
  | unknownRecordType text => Text.quote text ++ " is not a record type"
  | rdataLengthMismatch type expected actual =>
    type.mnemonic ++ s!" RDATA must be {expected} bytes, got {actual}"
  | stringOverrun length => rdataText .txt ++ s!"string length {length} exceeds remaining data"
  | optionOverrun code => rdataText .opt ++ s!"option {code} overruns payload"
  | notOptPayload found => rdataText .opt ++ "expected OPT payload, found " ++ found.toText
  | multipleOptRecords => "a message may carry at most one OPT record"
  | missingQuestion => "a message needs at least one question"
  | exceedsWireLimit field length => field.toText ++ s!" of {length} exceeds 65535"

/-- Whether the error counts as one of received octets, and not of what a caller handed over. -/
def isMalformed : ProtocolError → Bool
  | bufferTooShort .. | unexpectedEnd _ | unsupportedLabelType .. | frameTooLong _
  | compressionLoop _ | unsupportedOpcode _ | rdataLengthMismatch .. | stringOverrun _
  | optionOverrun _ | notOptPayload _ => true
  | labelTooLong _ | tooManyLabels _ | invalidLabelCharacter .. | emptyLabel _ | noAsciiForm _
  | unknownRecordType _ | multipleOptRecords | missingQuestion | exceedsWireLimit .. => false

end ProtocolError

/-- A chain of two steps succeeds exactly if both do. -/
theorem bind_eq_ok_iff {α β : Type} {x : Except ProtocolError α} {f : α → Except ProtocolError β}
    {b : β} : x >>= f = .ok b ↔ ∃ a, x = .ok a ∧ f a = .ok b := by
  cases x with
  | error e => exact iff_of_false (fun h => by cases h) (fun ⟨_, h, _⟩ => by cases h)
  | ok a => exact ⟨fun h => ⟨a, rfl, h⟩, fun ⟨_, h, h'⟩ => by cases h; exact h'⟩

theorem map_eq_ok_iff {α β : Type} {x : Except ProtocolError α} {f : α → β} {b : β} :
    f <$> x = .ok b ↔ ∃ a, x = .ok a ∧ f a = b := by
  cases x with
  | error e => exact iff_of_false (fun h => by cases h) (fun ⟨_, h, _⟩ => by cases h)
  | ok a => exact ⟨fun h => ⟨a, rfl, by cases h; rfl⟩, fun ⟨_, h, h'⟩ => by cases h; cases h'; rfl⟩

section Pmap

variable {α β : Type} {p : α → Prop} {f : (a : α) → p a → β} {x : Except ProtocolError α}
  {h : ∀ a, x = .ok a → p a}

/-- A step that needs to know something about what it is given. -/
def pmapExcept (f : (a : α) → p a → β) (x : Except ProtocolError α) (h : ∀ a, x = .ok a → p a) :
    Except ProtocolError β :=
  match x, h with
  | .ok a, h => .ok (f a (h a rfl))
  | .error e, _ => .error e

theorem pmapExcept_eq_ok_iff {b : β} :
    pmapExcept f x h = .ok b ↔ ∃ a, ∃ ha : x = .ok a, f a (h a ha) = b := by
  cases x with
  | error e => exact iff_of_false (fun h => by cases h) (fun ⟨_, h, _⟩ => by cases h)
  | ok a => exact ⟨fun h => ⟨a, rfl, by cases h; rfl⟩, fun ⟨_, h, h'⟩ => by cases h; cases h'; rfl⟩

theorem pmapExcept_eq_error_iff {e : ProtocolError} :
    pmapExcept f x h = .error e ↔ x = .error e := by
  cases x with
  | error e' => exact ⟨fun h => by cases h; rfl, fun h => by cases h; rfl⟩
  | ok a => exact iff_of_false (fun h => by cases h) (fun h => by cases h)

theorem toOption_pmapExcept :
    (pmapExcept f x h).toOption =
      x.toOption.pmap f fun a ha => h a (by cases x <;> cases ha; rfl) := by
  cases x <;> rfl

end Pmap

end StubResolver
