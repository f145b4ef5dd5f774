import StubResolver.Proofs.Message.Reading

/-!
# Reading, writing and reading again

What was read can be written, so it is read back from its own wire form: pointers are gone and
letters are lower there, and nothing else has changed. Where there was no pointer, no upper-case
letter and no reserved bit to begin with, the wire form is what was read, octet by octet.
-/

namespace StubResolver

open Decoder

variable {message : Array UInt8} {pos mid next : Nat}

/-! ## Values and their places -/

namespace Decoder

variable {α : Type} {d : Decoder α} {xs ys : List α}

/-- A value, with the place where it begins. -/
def placed (d : Decoder α) : Decoder (Nat × α) := do
  let place ← position
  let value ← d
  return (place, value)

theorem placed_eq_ok_iff {x : Nat × α} :
    d.placed message pos = .ok x next ↔ x.1 = pos ∧ d message pos = .ok x.2 next := by
  unfold placed
  simp only [Decoder.bind_eq_ok_iff, pure_eq_ok_iff]
  constructor
  · rintro ⟨place, _, hplace, value, _, hvalue, rfl, rfl⟩
    cases hplace
    exact ⟨rfl, hvalue⟩
  · rintro ⟨rfl, h⟩
    exact ⟨_, _, rfl, _, _, h, rfl, rfl⟩

namespace Reads

theorem exists_placed (h : Reads d message pos xs next) :
    ∃ ps, Reads d.placed message pos ps next ∧ ps.map Prod.snd = xs := by
  induction h with
  | nil => exact ⟨[], .nil _, rfl⟩
  | @cons pos mid next x xs head _ ih =>
    obtain ⟨ps, hps, rfl⟩ := ih
    exact ⟨(pos, x) :: ps, .cons (placed_eq_ok_iff.2 ⟨rfl, head⟩) hps, rfl⟩

/-- Each value is read at its place. -/
theorem placed_mem {ps : List (Nat × α)} (h : Reads d.placed message pos ps next) :
    ∀ p ∈ ps, ∃ mid, d message p.1 = .ok p.2 mid := by
  refine h.forall_mem fun pos p mid hp => ?_
  obtain ⟨rfl, hp⟩ := placed_eq_ok_iff.1 hp
  exact ⟨mid, hp⟩

/-- Values whose written forms stand at their places are written from `pos` to `next`. -/
theorem spans_placed {write : α → Octets} {ps : List (Nat × α)}
    (h : Reads d.placed message pos ps next) (hpos : pos ≤ message.size)
    (hd : ∀ p ∈ ps, ∀ next, d message p.1 = .ok p.2 next → Spans message p.1 (write p.2) next) :
    Spans message pos ((ps.map Prod.snd).flatMap write) next := by
  rw [List.flatMap_map]
  refine h.spans hpos fun pos p next hmem hp => ?_
  obtain ⟨rfl, hp⟩ := placed_eq_ok_iff.1 hp
  exact hd p hmem next hp

end Reads

end Decoder

/-! ## Headers without the reserved bit -/

theorem Opcode.value_of_ofValue {v : UInt8} {o : Opcode} (h : ofValue v = .ok o) : o.value = v := by
  unfold ofValue at h
  split at h <;> cases h <;> rfl

namespace Header

variable {h : Header} {control : UInt16}

/-- The control bit without a meaning is clear in a message: 0x40 in the fourth octet. -/
def ReservedClear (message : Array UInt8) : Prop :=
  ∀ octet, message[3]? = some octet → octet &&& 0x40 = 0

theorem opcode_field (c : Nat) : c / 0x800 % 16 * 0x800 = c &&& 0x7800 := by
  apply Nat.eq_of_testBit_eq
  intro i
  rw [show 0x800 = 2 ^ 11 from rfl, show 16 = 2 ^ 4 from rfl,
    show 0x7800 = (2 ^ 4 - 1) * 2 ^ 11 from rfl]
  simp only [Nat.testBit_mul_two_pow, Nat.testBit_mod_two_pow, Nat.testBit_div_two_pow,
    Nat.testBit_and, Nat.testBit_two_pow_sub_one]
  by_cases hi : 11 ≤ i
  · rw [Nat.sub_add_cancel hi]
    simp [hi, Bool.and_comm]
  · simp [hi]

theorem Unpacks.controlWord_eq (hu : Unpacks control h) (hclear : control.toNat &&& 0x40 = 0) :
    h.controlWord = control := by
  have hlt := control.toNat_lt
  have hflags : h.flags.bits.toNat = control.toNat &&& 0x87B0 := by
    rw [hu.flags]
    exact UInt16.toNat_and _ _
  have hopcode : h.opcode.value.toNat = control.toNat / 0x800 % 16 := by
    rw [Opcode.value_of_ofValue hu.opcode, opcodeBits, UInt8.toNat_ofNat']
    omega
  have hrcode : h.rcode.value.toNat % 16 = control.toNat &&& 0xF := by
    rw [hu.rcode, rcodeOfControl, ResponseCode.value_ofValue, UInt8.toNat_ofNat',
      Nat.and_two_pow_sub_one_eq_mod control.toNat 4]
    omega
  apply UInt16.toNat_inj.1
  -- flags, opcode and response code cover all bits but the reserved one
  calc h.controlWord.toNat
      = control.toNat &&& 0x87B0 ||| control.toNat &&& 0x7800 ||| control.toNat &&& 0xF := by
        rw [toNat_controlWord, hflags, hopcode, hrcode, opcode_field]
    _ = control.toNat &&& (0x87B0 ||| 0x7800 ||| 0xF ||| 0x40) := by
        simp only [Nat.and_or_distrib_left, hclear, Nat.or_zero]
    _ = control.toNat := by
        rw [show 0x87B0 ||| 0x7800 ||| 0xF ||| 0x40 = 2 ^ 16 - 1 from rfl,
          Nat.and_two_pow_sub_one_eq_mod, Nat.mod_eq_of_lt hlt]

/-- Of a header that was read nothing is cut. -/
theorem Unpacks.received_eq (hu : Unpacks control h) : h.received = h := by
  have hcut : h.wireRcode = h.rcode := by
    rw [wireRcode, hu.rcode, rcodeOfControl, ResponseCode.value_ofValue, UInt8.toNat_ofNat']
    congr 2
    omega
  rw [received, hcut]

theorem spans_toWire (hread : decode message 0 = .ok h next) (hclear : ReservedClear message) :
    Spans message 0 h.toWire next := by
  obtain ⟨control, hspans, hu⟩ := decode_eq_ok_iff.1 hread
  have hoctet : UInt8.ofNat control.toNat &&& 0x40 = 0 :=
    hclear _ (hspans.stands.octet 3 (by simp [words]))
  have hcontrol : control.toNat &&& 0x40 = 0 := by
    have hnat := congrArg UInt8.toNat hoctet
    rw [UInt8.toNat_and, UInt8.toNat_ofNat', ← Nat.and_two_pow_sub_one_eq_mod,
      Nat.and_assoc] at hnat
    exact hnat
  rw [toWire_eq_words, hu.controlWord_eq hcontrol]
  exact hspans

end Header

/-! ## Names without pointers and upper-case letters -/

theorem Question.spans_toWire {q : Question} (h : decode message pos = .ok q next)
    (hplain : Name.Unpointed message pos) (hlower : q.name.IsLower) :
    Spans message pos q.toWire next := by
  rw [toWire_eq_append]
  exact (decode_eq_ok_iff.1 h).1.spans hplain hlower

theorem Record.spans_toWire {r : Record} (h : decode message pos = .ok r next)
    (hplain : Name.Unpointed message pos) (hlower : r.name.IsLower) :
    Spans message pos r.toWire next := by
  rw [toWire_eq_append]
  exact (decode_eq_ok_iff.1 h).1.spans hplain hlower

namespace Message

/-- The names in a message, each with the place where it begins: those of the questions, and those
of the records. -/
def namesRead : Decoder (List (Nat × Name)) := do
  let header ← Header.decode
  let questions ← times header.questionCount.toNat (placed Question.decode)
  let records ← times
    (header.answerCount.toNat + header.authorityCount.toNat + header.additionalCount.toNat)
    (placed Record.decode)
  return questions.map (Prod.map id Question.name) ++ records.map (Prod.map id Record.name)

/-- The names of a message, in the order in which they are written. -/
def names (m : Message) : List Name :=
  m.questions.map Question.name ++ m.records.map Record.name

/-- Nothing in the octets is written otherwise: no name has a pointer or an upper-case letter, and
the reserved bit is clear. -/
structure Plain (message : Array UInt8) (names : List (Nat × Name)) : Prop where
  unpointed : ∀ n ∈ names, Name.Unpointed message n.1
  lower : ∀ n ∈ names, n.2.IsLower
  reserved : Header.ReservedClear message

namespace Laid

variable {m : Message} {p₁ p₂ p₃ p₄ : Nat} (h : Laid message pos p₁ p₂ p₃ p₄ next m)

include h in
theorem records_length :
    m.records.length = m.header.answerCount.toNat + m.header.authorityCount.toNat +
      m.header.additionalCount.toNat := by
  rw [Message.records, List.length_append, List.length_append, h.answerCount, h.authorityCount,
    h.additionalCount]

include h in
theorem le_size : next ≤ message.size := by
  obtain ⟨_, hheader, _⟩ := Header.decode_eq_ok_iff.1 h.header
  have hquestions := h.questions.le_size hheader.le_size fun _ _ _ hq =>
    (Question.decode_eq_ok_iff.1 hq).1.le_size
  exact h.records.le_size hquestions fun _ _ _ hr => (Record.decode_eq_ok_iff.1 hr).1.le_size

end Laid

/-- **Verbatim.** The names of a message are read where they stand, and if everything is written
as it would be here, then the message is written as it was read. -/
theorem Laid.verbatim {m : Message} {p₁ p₂ p₃ p₄ : Nat}
    (h : Laid message 0 p₁ p₂ p₃ p₄ next m) :
    ∃ ns, namesRead message 0 = .ok ns next ∧ ns.map Prod.snd = m.names ∧
      (∀ n ∈ ns, ∃ mid, Name.decode message n.1 = .ok n.2 mid) ∧
      (Plain message ns → Spans message 0 m.toWire next) := by
  obtain ⟨qs, hqs, hq⟩ := h.questions.exists_placed
  obtain ⟨rs, hrs, hr⟩ := h.records.exists_placed
  refine ⟨qs.map (Prod.map id Question.name) ++ rs.map (Prod.map id Record.name), ?_, ?_, ?_, ?_⟩
  · unfold namesRead
    simp only [Decoder.bind_eq_ok_iff, times_eq_ok_iff, pure_eq_ok_iff]
    refine ⟨_, _, h.header, qs, _, ⟨?_, hqs⟩, rs, _, ⟨?_, hrs⟩, rfl, rfl⟩
    · rw [← h.questionCount, ← hq, List.length_map]
    · rw [← h.records_length, ← hr, List.length_map]
  · rw [names, ← hq, ← hr]
    simp only [List.map_append, List.map_map]
    rfl
  · -- a question and a record both begin with their names
    intro n hn
    rcases List.mem_append.1 hn with hn | hn
    · obtain ⟨q, hqmem, rfl⟩ := List.mem_map.1 hn
      obtain ⟨_, hread⟩ := hqs.placed_mem q hqmem
      exact (Question.decode_eq_ok_iff.1 hread).1.imp fun _ => And.left
    · obtain ⟨r, hrmem, rfl⟩ := List.mem_map.1 hn
      obtain ⟨_, hread⟩ := hrs.placed_mem r hrmem
      exact (Record.decode_eq_ok_iff.1 hread).1.imp fun _ => And.left
  · intro hplain
    have hheader := Header.spans_toWire h.header hplain.reserved
    have hquestions := hqs.spans_placed hheader.le_size fun q hmem next hread =>
      have hname := List.mem_append_left _ (List.mem_map_of_mem hmem)
      Question.spans_toWire hread (hplain.unpointed _ hname) (hplain.lower _ hname)
    have hrecords := hrs.spans_placed hquestions.le_size fun r hmem next hread =>
      have hname := List.mem_append_right _ (List.mem_map_of_mem hmem)
      Record.spans_toWire hread (hplain.unpointed _ hname) (hplain.lower _ hname)
    rw [hq] at hquestions
    rw [hr] at hrecords
    rw [toWire, List.append_assoc]
    exact Spans.append_iff.2 ⟨_, hheader, Spans.append_iff.2 ⟨_, hquestions, hrecords⟩⟩

/-- What becomes of the octets of a message that are read, written and read again. -/
structure NormalForm (w : Octets) (m : Message) : Prop where
  /-- Reading what was written gives the same message. -/
  restored : ∀ time, ∃ back, ofWire m.toWire time = .ok back ∧ Restored m time back ∧
    back.header = m.header ∧ List.Forall₂ (fun a b => a.same b = true) back.questions m.questions
  /-- Octets that are plain up to where the reading stops are written as they were. -/
  verbatim : ∃ next ns, next ≤ w.length ∧ decode w.toArray 0 = .ok (m.stamped 0) next ∧
    namesRead w.toArray 0 = .ok ns next ∧ ns.map Prod.snd = m.names ∧
    (∀ n ∈ ns, ∃ mid, Name.decode w.toArray n.1 = .ok n.2 mid) ∧
    (Plain w.toArray ns → m.toWire = w.take next)

/-- **Decoding and encoding.** Whatever octets a message is read from, it has a normal form. -/
theorem normalForm_of_ofWire {w : Octets} {time : Int64} {m : Message}
    (h : ofWire w time = .ok m) : NormalForm w m := by
  obtain ⟨read, next, hread, rfl⟩ := ofWire_eq_ok_iff.1 h
  obtain ⟨p₁, p₂, p₃, p₄, hlaid⟩ := decode_eq_ok_iff.1 hread
  have hstamped : (read.stamped time).stamped 0 = read := by
    rw [← hlaid.receivedAt]
    rfl
  have hwritable : (read.stamped time).Writable := { hlaid.writable with }
  refine ⟨fun time' => ?_, ?_⟩
  · have hrestored := hwritable.restored hlaid.optIndex time'
    refine ⟨_, hwritable.ofWire_toWire time', hrestored, ?_, ?_⟩
    · obtain ⟨_, _, hu⟩ := Header.decode_eq_ok_iff.1 hlaid.header
      exact hu.received_eq
    · show List.Forall₂ _ (read.questions.map Question.received) read.questions
      rw [List.forall₂_map_left_iff, List.forall₂_same]
      exact fun q hq => (hlaid.forall_regular q hq).received_same
  · obtain ⟨ns, hns, hnames, hplaces, hplain⟩ := hlaid.verbatim
    refine ⟨next, ns, ?_, by rw [hstamped]; exact hread, hns, hnames, hplaces, fun hall => ?_⟩
    · simpa using hlaid.le_size
    · exact (hplain hall).take_eq.symm

/-- A reply with a letter in upper case, a pointer to it and the reserved bit set. -/
def pointedReply : Octets :=
  [0x12, 0x34, 0x80, 0x40, 0, 1, 0, 1, 0, 0, 0, 0, 1, 65, 0, 0, 1, 0, 1, 0xC0, 12, 0, 1, 0, 1,
    0, 0, 0, 60, 0, 4, 127, 0, 0, 1]

/-- The name `A`. -/
def pointedName : Name :=
  .ofLabels [⟨[65], by decide⟩] (by decide) (by decide)

/-- What is read of the reply. -/
def pointedMessage : Message where
  header := { Header.ofId 0x1234 with flags := ⟨0x8000⟩, questionCount := 1, answerCount := 1 }
  questions := [.ofName pointedName (.known .a)]
  answers := [.ofAddress pointedName 60 (.v4 ⟨[127, 0, 0, 1], rfl⟩)]
  authority := []
  additional := []
  optIndex := none
  receivedAt := 7

theorem normalForm_pointedReply :
    ofWire pointedReply 7 = .ok pointedMessage ∧ NormalForm pointedReply pointedMessage := by
  have hroot : Name.Spells pointedReply.toArray 14 [] 15 := .root rfl
  have hlength : pointedReply.toArray[12]? = some 1 := rfl
  have hlabel : Name.Spells pointedReply.toArray 12 [[65]] 15 :=
    .label hlength (by decide) (by decide) (by decide) hroot
  have hpointer : Name.Spells pointedReply.toArray 19 [[65]] 21 :=
    .pointer rfl (by decide) rfl hlabel
  have hquestion : Name.decode pointedReply.toArray 12 = .ok pointedName 15 :=
    Name.decode_of_spells hlabel
  have hanswer : Name.decode pointedReply.toArray 19 = .ok pointedName 21 :=
    Name.decode_of_spells hpointer
  have hread : ofWire pointedReply 7 = .ok pointedMessage :=
    ofWire_eq_ok_iff.2 ⟨pointedMessage.stamped 0, 35, decode_eq_ok_iff.2 ⟨12, 19, 35, 35, {
      header := rfl
      questions := .cons (Decoder.bind_eq_ok_iff.2 ⟨_, _, hquestion, rfl⟩) (.nil _)
      answers := .cons (Decoder.bind_eq_ok_iff.2 ⟨_, _, hanswer, rfl⟩) (.nil _)
      authority := .nil _
      additional := .nil _
      questionCount := rfl
      answerCount := rfl
      authorityCount := rfl
      additionalCount := rfl
      optIndex := rfl
      receivedAt := rfl }⟩, rfl⟩
  exact ⟨hread, normalForm_of_ofWire hread⟩

end Message

end StubResolver
