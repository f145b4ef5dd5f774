import StubResolver.Proofs.Cache.Key
import StubResolver.Proofs.Message.Reading

/-!
# Counts and the OPT index

A message repeats what its sections say already: their lengths in the header, and the place of the
first OPT record. However a message comes about, the copies are right (`Consistent`), because making
refuses what has no room in a count, and reading takes as many records as are counted. A consistent
message is therefore the message of a draft of its own parts, and making one from them succeeds
unless it has no question or a second OPT record.
-/

namespace StubResolver

/-! ## The first OPT record -/

namespace Record

/-- The index is that of the first OPT record, and missing if there is none. -/
def FirstOpt (rs : List Record) : Option Nat → Prop
  | none => ∀ r ∈ rs, r.isOpt = false
  | some i => ∃ before r after, rs = before ++ r :: after ∧ before.length = i ∧
      r.isOpt = true ∧ ∀ x ∈ before, x.isOpt = false

theorem firstOpt_findIdx? (rs : List Record) : FirstOpt rs (rs.findIdx? isOpt) := by
  cases hfind : rs.findIdx? isOpt with
  | none => exact List.findIdx?_eq_none_iff.1 hfind
  | some i =>
    obtain ⟨hlt, hopt, hbefore⟩ := List.findIdx?_eq_some_iff_getElem.1 hfind
    -- the index cuts the list in two, with the record between
    refine ⟨rs.take i, rs[i], rs.drop (i + 1), ?_, List.length_take_of_le hlt.le, hopt, ?_⟩
    · rw [← List.drop_eq_getElem_cons hlt, List.take_append_drop]
    · intro x hx
      obtain ⟨j, hj, rfl⟩ := List.getElem_of_mem hx
      rw [List.length_take_of_le hlt.le] at hj
      simpa using hbefore j hj

/-- There is only one such index. -/
theorem FirstOpt.eq_findIdx? {rs : List Record} {i : Option Nat} (h : FirstOpt rs i) :
    i = rs.findIdx? isOpt := by
  cases i with
  | none => exact (List.findIdx?_eq_none_iff.2 h).symm
  | some i =>
    obtain ⟨before, r, after, rfl, rfl, hopt, hbefore⟩ := h
    have hnone : before.findIdx? isOpt = none := List.findIdx?_eq_none_iff.2 hbefore
    rw [List.findIdx?_append, hnone, List.findIdx?_cons, hopt]
    simp

end Record

/-! ## Drafts that make a message -/

namespace Draft

/-- There is a question and at most one OPT record, and no section or payload is too long. -/
structure Acceptable (d : Draft) : Prop where
  question : d.questions ≠ []
  opt : d.additional.countP Record.isOpt ≤ 1
  questions : d.questions.length ≤ 65535
  answers : d.answers.length ≤ 65535
  authority : d.authority.length ≤ 65535
  additional : d.additional.length ≤ 65535
  payloads : ∀ r ∈ d.answers ++ d.authority ++ d.additional, r.rdata.toWire.length ≤ 65535

variable {d : Draft} {m : Message}

theorem fits_iff :
    d.Fits ↔ (d.questions.length ≤ 65535 ∧ d.answers.length ≤ 65535 ∧ d.authority.length ≤ 65535 ∧
      d.additional.length ≤ 65535) ∧
      ∀ r ∈ d.answers ++ d.authority ++ d.additional, r.rdata.toWire.length ≤ 65535 := by
  unfold Fits sectionLengths payloadLengths
  rw [List.forall_mem_append, List.forall_mem_map]
  simp only [List.forall_mem_cons, List.not_mem_nil, false_implies, implies_true, and_true,
    RData.length_toWire]

theorem build_eq_ok_iff_acceptable : d.build = .ok m ↔ d.Acceptable ∧ m = d.message := by
  rw [build_eq_ok_iff, fits_iff]
  constructor
  · rintro ⟨hquestion, hopt, ⟨⟨hq, ha, hu, hd⟩, hp⟩, rfl⟩
    exact ⟨⟨hquestion, hopt, hq, ha, hu, hd, hp⟩, rfl⟩
  · rintro ⟨⟨hquestion, hopt, hq, ha, hu, hd, hp⟩, rfl⟩
    exact ⟨hquestion, hopt, ⟨⟨hq, ha, hu, hd⟩, hp⟩, rfl⟩

/-- The draft of the parts of a message. -/
def ofMessage (m : Message) : Draft where
  id := m.header.id
  opcode := m.header.opcode
  rcode := m.header.rcode
  flags := m.header.flags
  questions := m.questions
  answers := m.answers
  authority := m.authority
  additional := m.additional

end Draft

/-! ## Messages -/

namespace Message

/-- The counts are the section lengths, and the OPT index is that of the first OPT record. -/
structure Consistent (m : Message) : Prop where
  questionCount : m.header.questionCount.toNat = m.questions.length
  answerCount : m.header.answerCount.toNat = m.answers.length
  authorityCount : m.header.authorityCount.toNat = m.authority.length
  additionalCount : m.header.additionalCount.toNat = m.additional.length
  optIndex : Record.FirstOpt m.additional m.optIndex

/-- How messages come about. -/
inductive Obtained : Message → Prop
  | built {d : Draft} {m : Message} (h : d.build = .ok m) : Obtained m
  | query (id : UInt16) (q : Question) (size : UInt16) : Obtained (query id q size)
  | read {w : Octets} {time : Int64} {m : Message} (h : ofWire w time = .ok m) : Obtained m
  | normalized {m : Message} (h : Obtained m) : Obtained m.normalized
  | stamped {m : Message} (h : Obtained m) (time : Int64) : Obtained (m.stamped time)

variable {m : Message}

theorem Consistent.normalized (h : m.Consistent) : m.normalized.Consistent := { h with }

theorem Consistent.stamped (h : m.Consistent) (time : Int64) : (m.stamped time).Consistent :=
  { h with }

theorem Writable.consistent (h : m.Writable)
    (hopt : m.optIndex = m.additional.findIdx? Record.isOpt) : m.Consistent where
  questionCount := h.questionCount
  answerCount := h.answerCount
  authorityCount := h.authorityCount
  additionalCount := h.additionalCount
  optIndex := hopt ▸ Record.firstOpt_findIdx? _

theorem consistent_of_build {d : Draft} (h : d.build = .ok m) : m.Consistent := by
  obtain ⟨hd, rfl⟩ := Draft.build_eq_ok_iff_acceptable.1 h
  -- what a count would cut to 65535 has been refused
  exact {
    questionCount := countField_toNat hd.questions
    answerCount := countField_toNat hd.answers
    authorityCount := countField_toNat hd.authority
    additionalCount := countField_toNat hd.additional
    optIndex := Record.firstOpt_findIdx? _ }

theorem consistent_query (id : UInt16) (q : Question) (size : UInt16) :
    (query id q size).Consistent :=
  (writable_query id q size).consistent rfl

theorem consistent_of_ofWire {w : Octets} {time : Int64} (h : ofWire w time = .ok m) :
    m.Consistent := by
  obtain ⟨read, p₁, p₂, p₃, p₄, next, hlaid, rfl⟩ := exists_laid_of_ofWire h
  exact (hlaid.writable.consistent hlaid.optIndex).stamped time

theorem Obtained.consistent (h : Obtained m) : m.Consistent := by
  induction h with
  | built h => exact consistent_of_build h
  | query id q size => exact consistent_query id q size
  | read h => exact consistent_of_ofWire h
  | normalized _ ih => exact ih.normalized
  | stamped _ time ih => exact ih.stamped time

/-! ## Making a message again -/

theorem countField_eq {c : UInt16} {n : Nat} (h : c.toNat = n) : countField n = c := by
  have hlt := c.toNat_lt
  apply UInt16.toNat_inj.1
  rw [countField_toNat (by omega), h]

theorem Consistent.countedHeader_eq (h : m.Consistent) : m.countedHeader = m.header := by
  unfold countedHeader
  rw [countField_eq h.questionCount, countField_eq h.answerCount, countField_eq h.authorityCount,
    countField_eq h.additionalCount]

/-- A consistent message says nothing that a draft of its parts does not say. -/
theorem Consistent.message_ofMessage (h : m.Consistent) :
    (Draft.ofMessage m).message = m.stamped 0 :=
  calc (Draft.ofMessage m).message
    _ = { m with
          header := m.countedHeader
          optIndex := m.additional.findIdx? Record.isOpt
          receivedAt := 0 } := rfl
    _ = m.stamped 0 := by
      rw [h.countedHeader_eq, ← h.optIndex.eq_findIdx?]
      rfl

/-- The sections of a consistent message are as long as counts can say. -/
theorem Consistent.acceptable (h : m.Consistent) (hquestion : m.questions ≠ [])
    (hopt : m.additional.countP Record.isOpt ≤ 1)
    (hfits : ∀ r ∈ m.records, r.rdata.toWire.length ≤ 65535) :
    (Draft.ofMessage m).Acceptable where
  question := hquestion
  opt := hopt
  questions := h.questionCount ▸ Nat.le_of_lt_succ (UInt16.toNat_lt _)
  answers := h.answerCount ▸ Nat.le_of_lt_succ (UInt16.toNat_lt _)
  authority := h.authorityCount ▸ Nat.le_of_lt_succ (UInt16.toNat_lt _)
  additional := h.additionalCount ▸ Nat.le_of_lt_succ (UInt16.toNat_lt _)
  payloads := hfits

theorem fits_of_ofWire {w : Octets} {time : Int64} (h : ofWire w time = .ok m) :
    ∀ r ∈ m.records, r.rdata.toWire.length ≤ 65535 := by
  obtain ⟨read, p₁, p₂, p₃, p₄, next, hlaid, rfl⟩ := exists_laid_of_ofWire h
  intro r hr
  rw [RData.length_toWire]
  exact (hlaid.forall_readable r hr).fits

/-- **Messages are consistent.** However a message was obtained, its counts and OPT index are right.
Drafts make messages exactly if they have a question, at most one OPT record and nothing too long.
A message that was read can be made again from its parts if it has a question and at most one OPT
record, and is the same but for the time of its receipt. -/
theorem consistent_and_remade :
    (∀ m, Obtained m → m.Consistent) ∧
      (∀ d : Draft, (∃ m, d.build = .ok m) ↔ d.Acceptable) ∧
      ∀ w time m, ofWire w time = .ok m → m.questions ≠ [] →
        m.additional.countP Record.isOpt ≤ 1 →
        ∃ back, (Draft.ofMessage m).build = .ok back ∧ back.same m = true ∧ back = m.stamped 0 := by
  refine ⟨fun m h => h.consistent, fun d => ?_, fun w time m h hquestion hopt => ?_⟩
  · constructor
    · rintro ⟨m, h⟩
      exact (Draft.build_eq_ok_iff_acceptable.1 h).1
    · intro h
      exact ⟨d.message, Draft.build_eq_ok_iff_acceptable.2 ⟨h, rfl⟩⟩
  · have hconsistent := consistent_of_ofWire h
    have haccept := hconsistent.acceptable hquestion hopt (fits_of_ofWire h)
    have hmade := hconsistent.message_ofMessage
    refine ⟨m.stamped 0, Draft.build_eq_ok_iff_acceptable.2 ⟨haccept, hmade.symm⟩, ?_, rfl⟩
    exact beq_iff_eq.2 rfl

/-- A query for the addresses of the root that was received, and a draft without a question. -/
theorem consistent_and_remade_query :
    let m := (query 7 (.ofName .root (.known .a)) 1232).received 5
    (m.normalized.stamped 9).Consistent ∧ ¬ (∃ m, Draft.empty.build = .ok m) ∧
      ∃ back, (Draft.ofMessage m).build = .ok back ∧ back.same m = true ∧ back = m.stamped 0 := by
  intro m
  obtain ⟨hconsistent, hbuild, hremade⟩ := consistent_and_remade
  have hread := (writable_query 7 (.ofName .root (.known .a)) 1232).ofWire_toWire 5
  refine ⟨hconsistent _ ((Obtained.read hread).normalized.stamped 9), ?_, ?_⟩
  · rw [hbuild]
    intro h
    exact h.question rfl
  · exact hremade _ _ _ hread (List.cons_ne_nil _ _) (by decide)

end Message

end StubResolver
