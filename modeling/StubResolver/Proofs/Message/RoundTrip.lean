import Mathlib.Data.List.Forall2
import StubResolver.Message.Draft
import StubResolver.Message.Wire
import StubResolver.Proofs.Header
import StubResolver.Proofs.Message.Parts

/-!
# Writing a message and reading it back

A message can be written (`Writable`) if its header counts its sections, its flags are defined
ones and its records are faithful and fit. Wherever the wire form of such a message stands, it is
read back as `received`, and what stands behind it is left alone. Drafts and queries make writable
messages (`Built.writable`), so their round trip needs conditions on flags and records only.
-/

namespace StubResolver

open Decoder

namespace Message

/-! ## Sections -/

theorem answers_subset (m : Message) : m.answers ⊆ m.records :=
  List.Subset.trans (List.subset_append_left _ _) (List.subset_append_left _ _)

theorem authority_subset (m : Message) : m.authority ⊆ m.records :=
  List.Subset.trans (List.subset_append_right _ _) (List.subset_append_left _ _)

theorem additional_subset (m : Message) : m.additional ⊆ m.records :=
  List.subset_append_right _ _

/-! ## Messages that can be written -/

/-- The conditions under which a message is read back from its wire form. -/
structure Writable (m : Message) : Prop where
  flags : m.header.FlagsDefined
  questionCount : m.header.questionCount.toNat = m.questions.length
  answerCount : m.header.answerCount.toNat = m.answers.length
  authorityCount : m.header.authorityCount.toNat = m.authority.length
  additionalCount : m.header.additionalCount.toNat = m.additional.length
  faithful : ∀ r ∈ m.records, r.Faithful
  fits : ∀ r ∈ m.records, r.rdata.wireLength ≤ 65535

/-- The message as it is read back at `time`. -/
def received (m : Message) (time : Int64) : Message where
  header := m.header.received
  questions := m.questions.map Question.received
  answers := m.answers.map Record.received
  authority := m.authority.map Record.received
  additional := m.additional.map Record.received
  optIndex := m.additional.findIdx? Record.isOpt
  receivedAt := time

variable {m : Message}

theorem Writable.restores_section (h : m.Writable) {rs : List Record} {n : Nat}
    (hn : n = rs.length) (hrs : rs ⊆ m.records) :
    (Record.decode.times n).Restores (rs.flatMap Record.toWire) (rs.map Record.received) :=
  .times hn fun r hr => (h.faithful r (hrs hr)).restores_toWire (h.fits r (hrs hr))

theorem Writable.findIdx?_received (h : m.Writable) :
    (m.additional.map Record.received).findIdx? Record.isOpt =
      m.additional.findIdx? Record.isOpt := by
  have hmem := m.additional_subset
  rw [List.findIdx?_map]
  generalize m.additional = rs at hmem
  induction rs with
  | nil => rfl
  | cons r rs ih =>
    have hopt := (h.faithful r (hmem (List.mem_cons_self ..))).isOpt_received
    rw [List.findIdx?_cons, List.findIdx?_cons, Function.comp_apply, hopt,
      ih fun _ hx => hmem (List.mem_cons_of_mem _ hx)]

/-- What is read behind a header. -/
def decodeBehind (header : Header) : Decoder Message := do
  let questions ← Decoder.times header.questionCount.toNat Question.decode
  let answers ← Decoder.times header.answerCount.toNat Record.decode
  let authority ← Decoder.times header.authorityCount.toNat Record.decode
  let additional ← Decoder.times header.additionalCount.toNat Record.decode
  return {
    header, questions, answers, authority, additional
    optIndex := additional.findIdx? Record.isOpt
    receivedAt := 0 }

theorem decode_eq_bind : decode = Header.decode >>= decodeBehind := rfl

/-- Of a header only the counts matter for what is read behind it. -/
theorem Writable.restores_behind (h : m.Writable) {header : Header}
    (hc : header.SameCounts m.header) :
    (decodeBehind header).Restores
      (m.questions.flatMap Question.toWire ++ m.records.flatMap Record.toWire)
      { m.received 0 with header } := by
  unfold decodeBehind records
  rw [hc.questionCount, hc.answerCount, hc.authorityCount, hc.additionalCount]
  simp only [List.flatMap_append, List.append_assoc]
  refine .bind (.times h.questionCount fun q _ => q.restores_toWire) <|
    .bind (h.restores_section h.answerCount m.answers_subset) <|
    .bind (h.restores_section h.authorityCount m.authority_subset) <|
    .bind_end (h.restores_section h.additionalCount m.additional_subset) ?_
  rw [h.findIdx?_received]
  exact .pure

/-- **Messages.** Wherever the wire form of a writable message stands, the message is read. -/
theorem Writable.restores_toWire (h : m.Writable) : decode.Restores m.toWire (m.received 0) := by
  rw [decode_eq_bind, toWire, List.append_assoc]
  exact .bind (Header.restores_toWire h.flags) (h.restores_behind ⟨rfl, rfl, rfl, rfl⟩)

/-- Octets behind a message do not change what is read. -/
theorem Writable.ofWire_toWire_append (h : m.Writable) (rest : Octets) (time : Int64) :
    ofWire (m.toWire ++ rest) time = .ok (m.received time) := by
  have hread := h.restores_toWire _ 0 (Stands.front m.toWire rest)
  unfold ofWire ofArray valueAt
  rw [hread]
  rfl

theorem Writable.ofWire_toWire (h : m.Writable) (time : Int64) :
    ofWire m.toWire time = .ok (m.received time) := by
  rw [← h.ofWire_toWire_append [] time, List.append_nil]

theorem flatMap_toWire_received {α : Type} {write : α → Octets} {received : α → α} {xs : List α}
    (h : ∀ x ∈ xs, write (received x) = write x) :
    (xs.map received).flatMap write = xs.flatMap write := by
  rw [List.flatMap_map]
  exact List.flatMap_congr h

theorem Writable.toWire_received (h : m.Writable) (time : Int64) :
    (m.received time).toWire = m.toWire := by
  have hrecords : (m.received time).records = m.records.map Record.received := by
    simp only [records, received, List.map_append]
  unfold toWire
  rw [hrecords, flatMap_toWire_received fun r hr => (h.faithful r hr).received_agrees.toWire_eq]
  show m.header.received.toWire ++ (m.questions.map _).flatMap _ ++ _ = _
  rw [Header.toWire_received, flatMap_toWire_received fun q _ => q.received_agrees.toWire_eq]

/-! ## What comes back -/

/-- What a message has in common with the one it was read back from. -/
structure Restored (m : Message) (time : Int64) (back : Message) : Prop where
  same : back.same m = true
  toWire : back.toWire = m.toWire
  id : back.header.id = m.header.id
  opcode : back.header.opcode = m.header.opcode
  flags : back.header.flags = m.header.flags
  /-- The low four bits of the response code. -/
  rcode : back.header.rcode = .ofValue (UInt8.ofNat (m.header.rcode.value.toNat % 16))
  questionCount : back.header.questionCount = m.header.questionCount
  answerCount : back.header.answerCount = m.header.answerCount
  authorityCount : back.header.authorityCount = m.header.authorityCount
  additionalCount : back.header.additionalCount = m.header.additionalCount
  optIndex : back.optIndex = m.optIndex
  receivedAt : back.receivedAt = time
  questions : List.Forall₂ Question.Agrees back.questions m.questions
  answers : List.Forall₂ Record.Agrees back.answers m.answers
  authority : List.Forall₂ Record.Agrees back.authority m.authority
  additional : List.Forall₂ Record.Agrees back.additional m.additional

theorem Writable.agrees (h : m.Writable) {rs : List Record} (hrs : rs ⊆ m.records) :
    List.Forall₂ Record.Agrees (rs.map Record.received) rs := by
  rw [List.forall₂_map_left_iff, List.forall₂_same]
  exact fun r hr => (h.faithful r (hrs hr)).received_agrees

theorem Writable.restored (h : m.Writable) (hopt : m.optIndex = m.additional.findIdx? Record.isOpt)
    (time : Int64) : Restored m time (m.received time) where
  same := beq_iff_eq.2 (h.toWire_received time)
  toWire := h.toWire_received time
  id := rfl
  opcode := rfl
  flags := rfl
  rcode := rfl
  questionCount := rfl
  answerCount := rfl
  authorityCount := rfl
  additionalCount := rfl
  optIndex := hopt.symm
  receivedAt := rfl
  questions := by
    show List.Forall₂ _ (m.questions.map _) _
    rw [List.forall₂_map_left_iff, List.forall₂_same]
    exact fun q _ => q.received_agrees
  answers := h.agrees m.answers_subset
  authority := h.agrees m.authority_subset
  additional := h.agrees m.additional_subset

end Message

/-! ## Messages that are made -/

namespace Draft

/-- The message of a draft that has nothing against it. -/
def message (d : Draft) : Message :=
  Message.counted {
    header := { Header.ofId d.id with flags := d.flags, opcode := d.opcode, rcode := d.rcode }
    questions := d.questions
    answers := d.answers
    authority := d.authority
    additional := d.additional
    optIndex := d.additional.findIdx? Record.isOpt
    receivedAt := 0 }

/-- Every section and payload fits in its field. -/
def Fits (d : Draft) : Prop :=
  ∀ field ∈ d.sectionLengths ++ d.payloadLengths, field.2 ≤ 65535

theorem build_eq_ok_iff {d : Draft} {m : Message} :
    d.build = .ok m ↔
      d.questions ≠ [] ∧ d.additional.countP Record.isOpt ≤ 1 ∧ d.Fits ∧ m = d.message := by
  unfold build
  by_cases hq : d.questions = []
  · rw [if_pos (List.isEmpty_iff.2 hq)]
    exact iff_of_false (fun h => by cases h) fun h => h.1 hq
  rw [if_neg (fun h => hq (List.isEmpty_iff.1 h))]
  by_cases hopt : 1 < d.additional.countP Record.isOpt
  · rw [if_pos hopt]
    exact iff_of_false (fun h => by cases h) fun h => absurd h.2.1 (Nat.not_le.2 hopt)
  rw [if_neg hopt]
  cases hfind : (d.sectionLengths ++ d.payloadLengths).find? fun field => 65535 < field.2 with
  | some field =>
    refine iff_of_false (fun h => by cases h) fun h => ?_
    have hlong : 65535 < field.2 := by simpa using List.find?_some hfind
    exact absurd (h.2.2.1 field (List.mem_of_find?_eq_some hfind)) (Nat.not_le.2 hlong)
  | none =>
    have hfits : d.Fits := fun field hfield => by
      simpa using List.find?_eq_none.1 hfind field hfield
    constructor
    · intro h
      cases h
      exact ⟨hq, Nat.not_lt.1 hopt, hfits, rfl⟩
    · rintro ⟨_, _, _, rfl⟩
      rfl

end Draft

namespace Message

/-- A draft was built, or a query made. -/
def Built (m : Message) : Prop :=
  (∃ d : Draft, d.build = .ok m) ∨ ∃ id q size, m = query id q size

theorem countField_toNat {n : Nat} (h : n ≤ 65535) : (countField n).toNat = n :=
  EdnsOption.lengthField_toNat h

/-- All that a query says besides its question is how much it has room for. -/
theorem records_query (id : UInt16) (q : Question) (size : UInt16) :
    (query id q size).records = [(Edns.ofSize size).toRecord] := rfl

/-- A message whose sections can be counted can be written once its counts are set. -/
theorem writable_counted {m : Message} (hflags : m.header.FlagsDefined)
    (hquestions : m.questions.length ≤ 65535) (hanswers : m.answers.length ≤ 65535)
    (hauthority : m.authority.length ≤ 65535) (hadditional : m.additional.length ≤ 65535)
    (hfaithful : ∀ r ∈ m.records, r.Faithful)
    (hfits : ∀ r ∈ m.records, r.rdata.wireLength ≤ 65535) : m.counted.Writable where
  flags := hflags
  questionCount := countField_toNat hquestions
  answerCount := countField_toNat hanswers
  authorityCount := countField_toNat hauthority
  additionalCount := countField_toNat hadditional
  faithful := hfaithful
  fits := hfits

theorem Built.writable {m : Message} (h : m.Built) (hflags : m.header.FlagsDefined)
    (hrecords : ∀ r ∈ m.records, r.Faithful) : m.Writable := by
  rcases h with ⟨d, hd⟩ | ⟨id, q, size, rfl⟩
  · obtain ⟨_, _, hfits, rfl⟩ := Draft.build_eq_ok_iff.1 hd
    have hlength : ∀ field ∈ d.sectionLengths, field.2 ≤ 65535 := fun field hfield =>
      hfits field (List.mem_append_left _ hfield)
    refine writable_counted hflags (hlength (.questionCount, _) ?_) (hlength (.answerCount, _) ?_)
      (hlength (.authorityCount, _) ?_) (hlength (.additionalCount, _) ?_) hrecords fun r hr =>
        hfits (.rdataLength, r.rdata.wireLength)
          (List.mem_append_right _ (List.mem_map_of_mem hr))
    all_goals simp [Draft.sectionLengths]
  · refine writable_counted hflags (by simp) (by simp) (by simp) (by simp) hrecords fun r hr => ?_
    obtain rfl := List.mem_singleton.1 (records_query id q size ▸ hr)
    exact Nat.zero_le _

theorem Built.optIndex_eq {m : Message} (h : m.Built) :
    m.optIndex = m.additional.findIdx? Record.isOpt := by
  rcases h with ⟨d, hd⟩ | ⟨id, q, size, rfl⟩
  · obtain ⟨_, _, _, rfl⟩ := Draft.build_eq_ok_iff.1 hd
    rfl
  · rfl

/-- **The whole format.** A message that was made here, with defined flags and faithful records, is
read back from its wire form in everything that the wire carries. -/
theorem restored_of_built {m : Message} (hbuilt : m.Built) (hflags : m.header.FlagsDefined)
    (hrecords : ∀ r ∈ m.records, r.Faithful) (time : Int64) :
    ∃ back, ofWire m.toWire time = .ok back ∧ Restored m time back := by
  have hwritable := hbuilt.writable hflags hrecords
  exact ⟨m.received time, hwritable.ofWire_toWire time, hwritable.restored hbuilt.optIndex_eq time⟩

/-- A draft with an upper-case name, a question type that is not canonical, a class that overlaps
the unicast bit, a response code of five bits, and text, option and opaque payloads. -/
def mixedDraft : Draft where
  id := 0x1234
  opcode := .status
  rcode := .badKey
  flags := ⟨0x8580⟩
  questions :=
    [⟨.ofLabels [⟨[65, 192, 0], by decide⟩] (by decide) (by decide), .unknown 1, ⟨0x8001⟩, true⟩]
  answers := [⟨.root, .known .txt, ⟨1⟩, 0xFFFF, 5, .txt ⟨[2, 104, 105, 0]⟩⟩]
  authority := [⟨.root, .unknown 3, ⟨1⟩, 1, 60, .unknown 3 [0xC0, 0]⟩]
  additional := [(Edns.mk 1232 1 0 true [⟨10, [1, 2]⟩]).toRecord]

theorem mixedDraft_restored :
    ∃ back, ofWire mixedDraft.message.toWire 1000 = .ok back ∧
      Restored mixedDraft.message 1000 back := by
  have hbuild : mixedDraft.build = .ok mixedDraft.message := rfl
  have htext : TextStrings.ofOctets [2, 104, 105, 0] = .ok ⟨[2, 104, 105, 0]⟩ :=
    TextStrings.ofOctets_eq_ok_iff.2 ⟨by simp [TextStrings.check, Octets.atLeast], rfl⟩
  refine restored_of_built (.inl ⟨mixedDraft, hbuild⟩) (by decide) ?_ 1000
  intro r hr
  have hr : r ∈ mixedDraft.answers ++ mixedDraft.authority ++ mixedDraft.additional := hr
  simp only [mixedDraft, List.cons_append, List.nil_append, List.mem_cons, List.not_mem_nil,
    or_false] at hr
  rcases hr with rfl | rfl | rfl
  · exact ⟨rfl, .inr ⟨_, htext⟩⟩
  · exact ⟨by decide, by unfold RData.Genuine; decide⟩
  · exact ⟨rfl, trivial⟩

end Message

end StubResolver
