import StubResolver.Proofs.Message.RoundTrip
import StubResolver.Proofs.Name.Reading

/-!
# Messages that were read

A header, question, record or message is read exactly where its octets span the message. Behind a
name these are the octets it is written with, so what was read is of the kind that writing gives
back: types are canonical, payloads genuine, and lengths and counts those of what was read.
-/

namespace StubResolver

open Decoder

variable {message : Array UInt8} {pos next : Nat}

/-! ## Headers -/

namespace Header

variable {h : Header}

/-- The six words of a header, with a control word for its own. -/
def words (h : Header) (control : UInt16) : Octets :=
  Octets.ofWord16 h.id ++ (Octets.ofWord16 control ++ (Octets.ofWord16 h.questionCount ++
    (Octets.ofWord16 h.answerCount ++ (Octets.ofWord16 h.authorityCount ++
      Octets.ofWord16 h.additionalCount))))

theorem toWire_eq_words (h : Header) : h.toWire = h.words h.controlWord := by
  simp only [toWire, words, List.append_assoc]

/-- The control word says what the header says. -/
structure Unpacks (control : UInt16) (h : Header) : Prop where
  flags : h.flags = .ofControl control
  opcode : Opcode.ofValue (opcodeBits control) = .ok h.opcode
  rcode : h.rcode = rcodeOfControl control

theorem decode_eq_ok_iff :
    decode message pos = .ok h next ↔
      ∃ control, Spans message pos (h.words control) next ∧ Unpacks control h := by
  unfold decode
  rw [Decoder.bind_eq_ok_iff]
  constructor
  · rintro ⟨left, _, hleft, hread⟩
    cases hleft
    split at hread
    · cases hread
    · simp only [Decoder.bind_eq_ok_iff, word16_eq_ok_iff, ofExcept_eq_ok_iff,
        pure_eq_ok_iff] at hread
      obtain ⟨id, _, hid, control, _, hcontrol, qc, _, hqc, ac, _, hac, uc, _, huc, dc, _, hdc,
        opcode, _, ⟨hopcode, rfl⟩, rfl, rfl⟩ := hread
      refine ⟨control, ?_, rfl, hopcode, rfl⟩
      simp only [words, Spans.append_iff]
      exact ⟨_, hid, _, hcontrol, _, hqc, _, hac, _, huc, hdc⟩
  · rintro ⟨control, hspans, hflags, hopcode, hrcode⟩
    have hsize : pos + size ≤ message.size := hspans.stands.le_size
    refine ⟨_, _, rfl, ?_⟩
    rw [if_neg (show ¬ message.size - pos < size by omega)]
    simp only [words, Spans.append_iff] at hspans
    obtain ⟨_, hid, _, hcontrol, _, hqc, _, hac, _, huc, hdc⟩ := hspans
    simp only [Decoder.bind_eq_ok_iff, word16_eq_ok_iff, ofExcept_eq_ok_iff, pure_eq_ok_iff]
    refine ⟨_, _, hid, _, _, hcontrol, _, _, hqc, _, _, hac, _, _, huc, _, _, hdc, _, _,
      ⟨hopcode, rfl⟩, ?_, rfl⟩
    rw [← hflags, ← hrcode]

theorem Unpacks.flagsDefined {control : UInt16} (hu : Unpacks control h) : h.FlagsDefined := by
  show h.flags.bits &&& Flags.defined.bits = h.flags.bits
  rw [hu.flags]
  show control &&& _ &&& _ = control &&& _
  rw [UInt16.and_assoc, UInt16.and_self]

theorem decode_extend (hread : decode message pos = .ok h next) (rest : Array UInt8) :
    decode (message ++ rest) pos = .ok h next := by
  obtain ⟨control, hspans, hu⟩ := decode_eq_ok_iff.1 hread
  exact decode_eq_ok_iff.2 ⟨control, hspans.extend rest, hu⟩

end Header

/-! ## Questions -/

namespace Question

variable {q : Question}

/-- The octets behind the name. -/
def behindName (q : Question) : Octets :=
  Octets.ofWord16 q.type.code ++ Octets.ofWord16 q.classField

theorem toWire_eq_append (q : Question) : q.toWire = q.name.toWire ++ q.behindName := by
  simp only [toWire, behindName, List.append_assoc]

/-- The question of a type code and a class field. -/
def ofFields (name : Name) (type field : UInt16) : Question :=
  ⟨name, .ofCode type, ⟨field &&& ~~~unicastBit⟩, field &&& unicastBit != 0⟩

theorem regular_ofFields (name : Name) (type field : UInt16) :
    (ofFields name type field).Regular where
  type := TypeCode.canonical_ofCode _
  recordClass := by
    have hlow := toNat_lowBits field
    show (field &&& ~~~unicastBit).toNat < 2 ^ 15
    omega

theorem behindName_ofFields (name : Name) (type field : UInt16) :
    (ofFields name type field).behindName = Octets.ofWord16 type ++ Octets.ofWord16 field := by
  have hfield : (ofFields name type field).classField = field := classField_split field
  rw [behindName, hfield, ofFields, TypeCode.code_ofCode]

theorem Regular.ofFields_eq (h : q.Regular) : ofFields q.name q.type.code q.classField = q := by
  have hreceived := h.received
  rw [Question.received, mk.injEq] at hreceived
  obtain ⟨-, htype, hclass, hunicast⟩ := hreceived
  rw [ofFields, htype, hclass, hunicast]

theorem Regular.received_same (h : q.Regular) : q.received.same q = true := by
  rw [h.received]
  exact same_iff.2 ⟨q.name.same_folded, rfl, rfl, rfl⟩

theorem decode_eq_ok_iff :
    decode message pos = .ok q next ↔
      Name.Followed message pos q.name q.behindName next ∧ q.Regular := by
  unfold decode
  simp only [Decoder.bind_eq_ok_iff, word16_eq_ok_iff, pure_eq_ok_iff]
  constructor
  · rintro ⟨name, mid, hname, type, _, htype, field, _, hfield, hq, rfl⟩
    obtain rfl : ofFields name type field = q := hq
    refine ⟨⟨mid, hname, ?_⟩, regular_ofFields name type field⟩
    rw [behindName_ofFields]
    exact Spans.append_iff.2 ⟨_, htype, hfield⟩
  · rintro ⟨⟨mid, hname, hspans⟩, hregular⟩
    obtain ⟨_, htype, hfield⟩ := Spans.append_iff.1 hspans
    exact ⟨_, _, hname, _, _, htype, _, _, hfield, hregular.ofFields_eq, rfl⟩

theorem decode_extend (h : decode message pos = .ok q next) (rest : Array UInt8) :
    decode (message ++ rest) pos = .ok q next := by
  obtain ⟨hfollowed, hregular⟩ := decode_eq_ok_iff.1 h
  exact decode_eq_ok_iff.2 ⟨hfollowed.extend rest, hregular⟩

end Question

/-! ## Records -/

namespace Record

variable {r : Record}

/-- The octets behind the name. -/
def behindName (r : Record) : Octets :=
  Octets.ofWord16 r.type.code ++ (Octets.ofWord16 r.classField ++ (Octets.ofWord32 r.ttl ++
    (Octets.ofWord16 (EdnsOption.lengthField r.rdata.wireLength) ++ r.rdata.toWire)))

theorem toWire_eq_append (r : Record) : r.toWire = r.name.toWire ++ r.behindName := by
  simp only [toWire, behindName, List.append_assoc]

/-- The class is that of the class field, the type that of the payload, and the payload is genuine
and fits. -/
structure Readable (r : Record) : Prop where
  recordClass : r.recordClass = ⟨r.classField &&& classMask⟩
  faithful : r.Faithful
  fits : r.rdata.wireLength ≤ 65535

theorem decode_eq_ok_iff :
    decode message pos = .ok r next ↔
      Name.Followed message pos r.name r.behindName next ∧ r.Readable := by
  unfold decode behindName Name.Followed
  simp only [Decoder.bind_eq_ok_iff, word16_eq_ok_iff, word32_eq_ok_iff, ofExcept_eq_ok_iff,
    takeOr_eq_ok_iff, pure_eq_ok_iff, Spans.append_iff]
  constructor
  · rintro ⟨name, mid, hname, type, _, htype, field, _, hfield, ttl, _, httl, length, _, hlength,
      start, _, hstart, size, _, hsize, data, _, ⟨hlen, hdata⟩, rdata, _, ⟨hpayload, rfl⟩, rfl,
      rfl⟩
    cases hstart
    cases hsize
    -- the payload is written as it was read, so the length field is that of what is written
    obtain ⟨rfl, hkind, hgenuine⟩ := RData.of_ofOctets hpayload
    rw [RData.length_toWire] at hlen
    have hbound := length.toNat_lt
    refine ⟨⟨mid, hname, ?_⟩, rfl, ⟨hkind.symm, hgenuine⟩, show rdata.wireLength ≤ _ by omega⟩
    dsimp only [ofClassField]
    rw [TypeCode.code_ofCode, hlen, EdnsOption.lengthField_word]
    exact ⟨_, htype, _, hfield, _, httl, _, hlength, hdata⟩
  · rintro ⟨⟨mid, hname, _, htype, _, hfield, _, httl, _, hlength, hdata⟩, hclass, hfaithful, hfits⟩
    have hcode : TypeCode.ofCode r.type.code = r.type := hfaithful.canonical
    have hlen : r.rdata.toWire.length = (EdnsOption.lengthField r.rdata.wireLength).toNat := by
      rw [RData.length_toWire, EdnsOption.lengthField_toNat hfits]
    have hpayload : RData.ofOctets (.ofCode r.type.code) r.rdata.toWire = .ok r.rdata := by
      rw [hcode, hfaithful.type]
      exact RData.ofOctets_toWire hfaithful.genuine hfits
    refine ⟨_, _, hname, _, _, htype, _, _, hfield, _, _, httl, _, _, hlength, _, _, rfl, _, _, rfl,
      _, _, ⟨hlen, hdata⟩, r.rdata, next, ⟨hpayload, rfl⟩, ?_, rfl⟩
    rw [ofClassField, hcode, ← hclass]

theorem decode_extend (h : decode message pos = .ok r next) (rest : Array UInt8) :
    decode (message ++ rest) pos = .ok r next := by
  obtain ⟨hfollowed, hreadable⟩ := decode_eq_ok_iff.1 h
  exact decode_eq_ok_iff.2 ⟨hfollowed.extend rest, hreadable⟩

end Record

/-! ## Messages -/

namespace Message

variable {m : Message} {p₁ p₂ p₃ p₄ : Nat}

/-- The parts of a message stand in a row, from `pos` to `next`, as many as the header counts. -/
structure Laid (message : Array UInt8) (pos p₁ p₂ p₃ p₄ next : Nat) (m : Message) : Prop where
  header : Header.decode message pos = .ok m.header p₁
  questions : Reads Question.decode message p₁ m.questions p₂
  answers : Reads Record.decode message p₂ m.answers p₃
  authority : Reads Record.decode message p₃ m.authority p₄
  additional : Reads Record.decode message p₄ m.additional next
  questionCount : m.questions.length = m.header.questionCount.toNat
  answerCount : m.answers.length = m.header.answerCount.toNat
  authorityCount : m.authority.length = m.header.authorityCount.toNat
  additionalCount : m.additional.length = m.header.additionalCount.toNat
  optIndex : m.optIndex = m.additional.findIdx? Record.isOpt
  receivedAt : m.receivedAt = 0

theorem decode_eq_ok_iff :
    decode message pos = .ok m next ↔ ∃ p₁ p₂ p₃ p₄, Laid message pos p₁ p₂ p₃ p₄ next m := by
  unfold decode
  simp only [Decoder.bind_eq_ok_iff, times_eq_ok_iff, pure_eq_ok_iff]
  constructor
  · rintro ⟨header, p₁, hheader, questions, p₂, ⟨hqc, hq⟩, answers, p₃, ⟨hac, ha⟩, authority, p₄,
      ⟨huc, hu⟩, additional, _, ⟨hdc, hd⟩, rfl, rfl⟩
    exact ⟨p₁, p₂, p₃, p₄, hheader, hq, ha, hu, hd, hqc, hac, huc, hdc, rfl, rfl⟩
  · rintro ⟨p₁, p₂, p₃, p₄, h⟩
    refine ⟨_, _, h.header, _, _, ⟨h.questionCount, h.questions⟩, _, _,
      ⟨h.answerCount, h.answers⟩, _, _, ⟨h.authorityCount, h.authority⟩, _, _,
      ⟨h.additionalCount, h.additional⟩, ?_, rfl⟩
    rw [← h.optIndex, ← h.receivedAt]

theorem decode_extend (h : decode message pos = .ok m next) (rest : Array UInt8) :
    decode (message ++ rest) pos = .ok m next := by
  obtain ⟨p₁, p₂, p₃, p₄, h⟩ := decode_eq_ok_iff.1 h
  have keep : ∀ pos r next, Record.decode message pos = .ok r next →
      Record.decode (message ++ rest) pos = .ok r next :=
    fun _ _ _ hr => Record.decode_extend hr rest
  exact decode_eq_ok_iff.2 ⟨p₁, p₂, p₃, p₄, {
    h with
    header := Header.decode_extend h.header rest
    questions := h.questions.mono fun _ _ _ hq => Question.decode_extend hq rest
    answers := h.answers.mono keep
    authority := h.authority.mono keep
    additional := h.additional.mono keep }⟩

/-- Octets are a message if one stands at their front. -/
theorem ofWire_eq_ok_iff {w : Octets} {time : Int64} :
    ofWire w time = .ok m ↔
      ∃ read next, decode w.toArray 0 = .ok read next ∧ m = read.stamped time := by
  unfold ofWire ofArray valueAt
  rw [map_eq_ok_iff]
  cases decode w.toArray 0 with
  | ok read next =>
    constructor
    · rintro ⟨read', hread, rfl⟩
      cases hread
      exact ⟨_, _, rfl, rfl⟩
    · rintro ⟨read', next', hread, rfl⟩
      cases hread
      exact ⟨_, rfl, rfl⟩
  | error e next =>
    exact iff_of_false (fun ⟨_, h, _⟩ => nomatch h) fun ⟨_, _, h, _⟩ => nomatch h

/-- But for the time of its receipt, what was read stands in the octets. -/
theorem exists_laid_of_ofWire {w : Octets} {time : Int64} (h : ofWire w time = .ok m) :
    ∃ read p₁ p₂ p₃ p₄ next,
      Laid w.toArray 0 p₁ p₂ p₃ p₄ next read ∧ m = read.stamped time := by
  obtain ⟨read, next, hread, rfl⟩ := ofWire_eq_ok_iff.1 h
  obtain ⟨p₁, p₂, p₃, p₄, hlaid⟩ := decode_eq_ok_iff.1 hread
  exact ⟨read, p₁, p₂, p₃, p₄, next, hlaid, rfl⟩

namespace Laid

variable (h : Laid message pos p₁ p₂ p₃ p₄ next m)

include h in
theorem records : Reads Record.decode message p₂ m.records next :=
  (h.answers.append h.authority).append h.additional

include h in
theorem forall_readable : ∀ r ∈ m.records, r.Readable := by
  have hread : ∀ pos r next, Record.decode message pos = .ok r next → r.Readable :=
    fun _ _ _ hr => (Record.decode_eq_ok_iff.1 hr).2
  exact h.records.forall_mem hread

include h in
theorem forall_regular : ∀ q ∈ m.questions, q.Regular :=
  h.questions.forall_mem fun _ _ _ hq => (Question.decode_eq_ok_iff.1 hq).2

include h in
/-- What was read can be written, and read again. -/
theorem writable : m.Writable where
  flags := (Header.decode_eq_ok_iff.1 h.header).choose_spec.2.flagsDefined
  questionCount := h.questionCount.symm
  answerCount := h.answerCount.symm
  authorityCount := h.authorityCount.symm
  additionalCount := h.additionalCount.symm
  faithful := fun r hr => (h.forall_readable r hr).faithful
  fits := fun r hr => (h.forall_readable r hr).fits

end Laid

end Message

end StubResolver
