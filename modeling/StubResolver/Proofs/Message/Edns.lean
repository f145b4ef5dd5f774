import StubResolver.Proofs.Message.Consistency

/-!
# EDNS parameters on the wire

An OPT record keeps EDNS parameters in its class field, time and payload. Packed and unpacked again
they are the same, and a record unpacked and packed again loses only the bits of its time that have
no meaning. The parameters of a message are those of its first OPT record, and that is found again
in what is read back of a draft with parameters. The flags of the draft can make reading fail,
where one of them covers the opcode, but they cannot change what is read behind the header.
-/

namespace StubResolver

open Decoder

/-! ## Parameters and their record -/

namespace Edns

variable {e : Edns} {r : Record}

theorem toNat_ttl (e : Edns) :
    e.ttl.toNat = 0x1000000 * e.extendedRcode.toNat + 0x10000 * e.version.toNat +
      (if e.dnssecOk then 0x8000 else 0) := by
  have hrcode := e.extendedRcode.toNat_lt
  have hversion := e.version.toNat_lt
  rw [ttl, UInt32.toNat_ofNat']
  split <;> omega

theorem ofRecord_eq_of_agrees {a b : Record} (h : a.Agrees b) : ofRecord a = ofRecord b := by
  unfold ofRecord
  rw [h.rdata, h.classField, h.ttl, h.type]

theorem ofRecord_toRecord (e : Edns) : ofRecord e.toRecord = .ok e := by
  have hrcode := e.extendedRcode.toNat_lt
  have hversion := e.version.toNat_lt
  have httl := e.toNat_ttl
  -- the fields do not overlap, so each is taken out as it was put in
  have hr : UInt8.ofNat (e.ttl.toNat / 0x1000000) = e.extendedRcode := by
    apply UInt8.toNat_inj.1
    rw [UInt8.toNat_ofNat', httl]
    split <;> omega
  have hv : UInt8.ofNat (e.ttl.toNat / 0x10000) = e.version := by
    apply UInt8.toNat_inj.1
    rw [UInt8.toNat_ofNat', httl]
    split <;> omega
  have hd : (e.ttl.toNat / 0x8000 % 2 == 1) = e.dnssecOk := by
    rw [httl]
    cases e.dnssecOk
    · simp
      omega
    · simp
      omega
  show Except.ok (Edns.mk e.udpPayloadSize (UInt8.ofNat (e.ttl.toNat / 0x1000000))
    (UInt8.ofNat (e.ttl.toNat / 0x10000)) (e.ttl.toNat / 0x8000 % 2 == 1) e.options) = .ok e
  rw [hr, hv, hd]

/-- The bits of the time that have no meaning. -/
def reservedBits : UInt32 := 0x7FFF

theorem toNat_clearReserved (t : UInt32) :
    (t &&& ~~~reservedBits).toNat = t.toNat / 2 ^ 15 * 2 ^ 15 := by
  have hlt := t.toNat_lt
  rw [UInt32.toNat_and, show (~~~reservedBits).toNat = (2 ^ 17 - 1) * 2 ^ 15 from rfl]
  apply Nat.eq_of_testBit_eq
  intro i
  rw [Nat.testBit_and, Nat.testBit_mul_two_pow, Nat.testBit_mul_two_pow,
    Nat.testBit_two_pow_sub_one, Nat.testBit_div_two_pow]
  by_cases hlow : 15 ≤ i
  · by_cases hhigh : i < 32
    · have : i - 15 < 17 := by omega
      simp [hlow, this]
    · have hzero : t.toNat.testBit i = false := Nat.testBit_lt_two_pow <|
        hlt.trans_le (Nat.pow_le_pow_right (by decide) (by omega))
      simp [hlow, hzero]
  · simp [hlow]

theorem ofRecord_of_options {options : List EdnsOption} (h : r.rdata = .opt options) :
    ∃ e, ofRecord r = .ok e := by
  unfold ofRecord
  rw [h]
  exact ⟨_, rfl⟩

theorem toRecord_of_ofRecord (h : ofRecord r = .ok e) :
    e.toRecord.classField = r.classField ∧ e.toRecord.rdata = r.rdata ∧
      e.toRecord.ttl = r.ttl &&& ~~~reservedBits := by
  unfold ofRecord at h
  split at h
  · rename_i options hrdata
    cases h
    refine ⟨rfl, hrdata.symm, ?_⟩
    apply UInt32.toNat_inj.1
    rw [toNat_clearReserved]
    show (ttl _).toNat = _
    rw [toNat_ttl]
    have hlt := r.ttl.toNat_lt
    simp only [UInt8.toNat_ofNat', beq_iff_eq]
    split <;> omega
  · cases h

end Edns

/-! ## Records and messages with parameters -/

theorem Record.Faithful.exists_options {r : Record} (h : r.Faithful) (hopt : r.isOpt = true) :
    ∃ options, r.rdata = .opt options := by
  have htype : r.rdata.type = .known .opt := h.type ▸ beq_iff_eq.1 hopt
  have hgenuine := h.genuine
  generalize r.rdata = rdata at htype hgenuine
  cases rdata with
  | opt options => exact ⟨options, rfl⟩
  | unknown code data =>
    -- opaque data is never that of a type whose payload is decoded
    have hcode : code = RecordType.opt.code := by
      rw [← TypeCode.code_ofCode code]
      exact congrArg TypeCode.code htype
    exact absurd hcode (hgenuine .opt (by decide))
  | a | aaaa | txt => cases htype

/-- The opcode as it stands on the wire, with the bits of the flags that are at its place. -/
def Draft.wireOpcode (d : Draft) : UInt8 :=
  d.opcode.value ||| Header.opcodeBits d.flags.bits

namespace Message

variable {m : Message}

/-- The parameters of a message are those of its first OPT record. -/
theorem Consistent.edns?_eq (h : m.Consistent) {before after : List Record} {r : Record}
    (hadditional : m.additional = before ++ r :: after) (hopt : r.isOpt = true)
    (hbefore : ∀ x ∈ before, x.isOpt = false) : m.edns? = (Edns.ofRecord r).toOption := by
  have hindex : m.optIndex = some before.length := by
    have hfirst : Record.FirstOpt m.additional (some before.length) :=
      ⟨before, r, after, hadditional, rfl, hopt, hbefore⟩
    rw [h.optIndex.eq_findIdx?, hfirst.eq_findIdx?]
  unfold edns? optRecord?
  rw [hindex, hadditional]
  simp

theorem edns?_of_ofWire {w : Octets} {time : Int64} (hread : ofWire w time = .ok m)
    {before after : List Record} {r : Record} (hadditional : m.additional = before ++ r :: after)
    (hopt : r.isOpt = true) (hbefore : ∀ x ∈ before, x.isOpt = false) :
    ∃ e, Edns.ofRecord r = .ok e ∧ m.edns? = some e := by
  obtain ⟨read, p₁, p₂, p₃, p₄, next, hlaid, rfl⟩ := exists_laid_of_ofWire hread
  have hmem : r ∈ (read.stamped time).additional := by simp [hadditional]
  have hreadable := hlaid.forall_readable r (read.additional_subset hmem)
  obtain ⟨options, hoptions⟩ := hreadable.faithful.exists_options hopt
  obtain ⟨e, he⟩ := Edns.ofRecord_of_options hoptions
  have hedns := (consistent_of_ofWire hread).edns?_eq hadditional hopt hbefore
  exact ⟨e, he, by rw [hedns, he]; rfl⟩

/-! ## Other flags -/

/-- The message with other flags. -/
def withFlags (m : Message) (flags : Flags) : Message :=
  { m with header := { m.header with flags } }

/-- Flags that are not defined change nothing outside the header, unless they spoil the opcode. -/
theorem Writable.ofWire_withFlags (h : m.Writable) {flags : Flags} {o : Opcode}
    (ho : Opcode.ofValue (Header.opcodeBits (m.withFlags flags).header.controlWord) = .ok o)
    (time : Int64) :
    ofWire (m.withFlags flags).toWire time =
      .ok { m.received time with header := (m.withFlags flags).header.unpacked o } := by
  have hread : decode.Restores (m.withFlags flags).toWire
      { m.received 0 with header := (m.withFlags flags).header.unpacked o } := by
    rw [decode_eq_bind, toWire, List.append_assoc]
    -- the counts do not depend on the flags
    exact .bind (Header.restores_unpacked ho) (h.restores_behind ⟨rfl, rfl, rfl, rfl⟩)
  have hstands := Stands.front (m.withFlags flags).toWire []
  rw [List.append_nil] at hstands
  unfold ofWire ofArray valueAt
  rw [hread _ 0 hstands]
  rfl

/-- Nothing is read of a message whose opcode bits stand for no operation. -/
theorem ofWire_of_unsupported {e : ProtocolError}
    (he : Opcode.ofValue (Header.opcodeBits m.header.controlWord) = .error e) (time : Int64) :
    ofWire m.toWire time = .error e := by
  have hhead := Stands.front m.header.toWire
    (m.questions.flatMap Question.toWire ++ m.records.flatMap Record.toWire)
  rw [← List.append_assoc] at hhead
  have hread := (Header.refuses_toWire he).bind_left (f := decodeBehind) _ 0 hhead
  unfold ofWire ofArray valueAt
  rw [decode_eq_bind, toWire, hread]
  rfl

/-! ## Drafts with parameters -/

section Drafts

variable {d : Draft} {e : Edns} (hbuild : (d.withEdns e).build = .ok m)
  (hfaithful : ∀ r ∈ d.answers ++ d.authority ++ d.additional, r.Faithful)

include hbuild in
theorem isOpt_eq_false_of_withEdns : ∀ r ∈ d.additional, r.isOpt = false := by
  obtain ⟨-, hcount, -⟩ := Draft.build_eq_ok_iff.1 hbuild
  have hlast : [e.toRecord].countP Record.isOpt = 1 := rfl
  have hzero : d.additional.countP Record.isOpt = 0 := by
    simp only [Draft.withEdns, List.countP_append, hlast] at hcount
    omega
  intro r hr
  simpa using List.countP_eq_zero.1 hzero r hr

include hbuild hfaithful in
/-- Without its flags the message of the draft can be written. -/
theorem exists_writable_of_withEdns :
    ∃ m₀ : Message, m₀.Writable ∧ m₀.additional = d.additional ++ [e.toRecord] ∧
      m = m₀.withFlags d.flags := by
  obtain ⟨hquestion, hopt, hfits, rfl⟩ := Draft.build_eq_ok_iff.1 hbuild
  let bare : Draft := { d.withEdns e with flags := .empty }
  have hbare : bare.build = .ok bare.message :=
    Draft.build_eq_ok_iff.2 ⟨hquestion, hopt, hfits, rfl⟩
  have hflags : bare.message.header.FlagsDefined := by
    show Flags.empty.bits &&& Flags.defined.bits = Flags.empty.bits
    decide
  refine ⟨bare.message, Built.writable (.inl ⟨bare, hbare⟩) hflags ?_, rfl, rfl⟩
  intro r hr
  have hr : r ∈ (d.answers ++ d.authority ++ d.additional) ++ [e.toRecord] := by
    rw [List.append_assoc _ d.additional]
    exact hr
  rcases List.mem_append.1 hr with hr | hr
  · exact hfaithful r hr
  · obtain rfl := List.mem_singleton.1 hr
    exact ⟨rfl, trivial⟩

include hbuild in
theorem opcodeBits_of_withEdns : Header.opcodeBits m.header.controlWord = d.wireOpcode := by
  obtain ⟨-, -, -, rfl⟩ := Draft.build_eq_ok_iff.1 hbuild
  exact Header.opcodeBits_controlWord _

include hbuild hfaithful in
theorem exists_edns?_of_withEdns {o : Opcode} (ho : Opcode.ofValue d.wireOpcode = .ok o)
    (time : Int64) : ∃ back, ofWire m.toWire time = .ok back ∧ back.edns? = some e := by
  obtain ⟨m₀, hwritable, hadditional, hm⟩ := exists_writable_of_withEdns hbuild hfaithful
  rw [← opcodeBits_of_withEdns hbuild, hm] at ho
  have hread := hwritable.ofWire_withFlags ho time
  rw [← hm] at hread
  refine ⟨_, hread, ?_⟩
  -- the record of the parameters is the only OPT record, and comes last
  have hback : m₀.additional.map Record.received =
      d.additional.map Record.received ++ e.toRecord.received :: [] := by
    rw [hadditional, List.map_append]
    rfl
  have hbefore : ∀ x ∈ d.additional.map Record.received, x.isOpt = false := by
    intro x hx
    obtain ⟨r, hr, rfl⟩ := List.mem_map.1 hx
    have hr' := hfaithful r (List.mem_append_right _ hr)
    rw [hr'.isOpt_received]
    exact isOpt_eq_false_of_withEdns hbuild r hr
  have hsame : Edns.ofRecord e.toRecord.received = Edns.ofRecord e.toRecord :=
    Edns.ofRecord_eq_of_agrees (Record.Faithful.received_agrees ⟨rfl, trivial⟩)
  rw [(consistent_of_ofWire hread).edns?_eq hback rfl hbefore, hsame, Edns.ofRecord_toRecord]
  rfl

end Drafts

/-- **EDNS survives the wire.** Parameters added to a draft are those of the message that is read
back, unless its flags cover the opcode such that it stands for no operation; then nothing is read.
Of an OPT record that is unpacked and packed again only the reserved bits are lost. What was read
has the parameters of its first OPT record. -/
theorem edns_survives :
    (∀ (d : Draft) (e : Edns) (m : Message) (time : Int64), (d.withEdns e).build = .ok m →
      (∀ r ∈ d.answers ++ d.authority ++ d.additional, r.Faithful) →
      (d.flags.bits &&& 0x7800 = 0 →
        ∃ back, ofWire m.toWire time = .ok back ∧ back.edns? = some e) ∧
      (d.wireOpcode ≤ 5 → ∃ back, ofWire m.toWire time = .ok back ∧ back.edns? = some e) ∧
      (5 < d.wireOpcode → ofWire m.toWire time = .error (.unsupportedOpcode d.wireOpcode))) ∧
      (∀ (r : Record) (options : List EdnsOption), r.rdata = .opt options →
        ∃ e, Edns.ofRecord r = .ok e ∧ e.toRecord.classField = r.classField ∧
          e.toRecord.rdata = r.rdata ∧ e.toRecord.ttl = r.ttl &&& ~~~Edns.reservedBits) ∧
      ∀ (w : Octets) (time : Int64) (m : Message), ofWire w time = .ok m →
        ∀ before r after, m.additional = before ++ r :: after → r.isOpt = true →
          (∀ x ∈ before, x.isOpt = false) →
          ∃ e, Edns.ofRecord r = .ok e ∧ m.edns? = some e := by
  refine ⟨fun d e m time hbuild hfaithful => ⟨fun hclear => ?_, fun hle => ?_, fun hlt => ?_⟩,
    fun r options hoptions => ?_, fun w time m hread before r after hadditional hopt hbefore => ?_⟩
  · refine exists_edns?_of_withEdns hbuild hfaithful (o := d.opcode) ?_ time
    rw [Draft.wireOpcode, Header.opcodeBits_of_clear hclear, UInt8.or_zero, Opcode.ofValue_value]
  · obtain ⟨o, ho⟩ := Opcode.exists_ofValue_of_le hle
    exact exists_edns?_of_withEdns hbuild hfaithful ho time
  · refine ofWire_of_unsupported ?_ time
    rw [opcodeBits_of_withEdns hbuild]
    exact Opcode.ofValue_of_lt hlt
  · obtain ⟨e, he⟩ := Edns.ofRecord_of_options hoptions
    exact ⟨e, he, Edns.toRecord_of_ofRecord he⟩
  · exact edns?_of_ofWire hread hadditional hopt hbefore

/-- Parameters with all bits of all fields in use. -/
def fullEdns : Edns :=
  ⟨0xFFFF, 0xFF, 0xFF, true, [⟨10, [1, 2]⟩, ⟨10, []⟩]⟩

/-- A response with an opaque record. -/
def opaqueDraft : Draft where
  id := 7
  opcode := .query
  rcode := .noError
  flags := ⟨0x8180⟩
  questions := [.ofName .root (.known .a)]
  answers := []
  authority := []
  additional := [⟨.root, .unknown 3, ⟨1⟩, 1, 60, .unknown 3 [0xC0, 0]⟩]

/-- The response with flags of one's own. -/
def flaggedDraft (bits : UInt16) : Draft :=
  { opaqueDraft with flags := ⟨bits⟩ }

theorem faithful_opaqueDraft : ∀ r ∈ opaqueDraft.additional, r.Faithful := by
  intro r hr
  obtain rfl := List.mem_singleton.1 hr
  exact ⟨by decide, by unfold RData.Genuine; decide⟩

/-- All bits set at the place of the opcode: the draft is built, its records are faithful, and
nothing is read. -/
theorem edns_lost_behind_flags :
    let d := flaggedDraft 0x7800
    let sent := (d.withEdns fullEdns).message
    (d.withEdns fullEdns).build = .ok sent ∧
      (∀ r ∈ d.answers ++ d.authority ++ d.additional, r.Faithful ∧ r.isOpt = false) ∧
      ofWire sent.toWire 5 = .error (.unsupportedOpcode 15) := by
  intro d sent
  have hbits : Header.opcodeBits sent.header.controlWord = 15 := by decide
  refine ⟨rfl, fun r hr => ⟨faithful_opaqueDraft r hr, ?_⟩, ofWire_of_unsupported ?_ 5⟩
  · obtain rfl := List.mem_singleton.1 hr
    rfl
  · rw [hbits]
    rfl

/-- A draft with an opaque record and parameters, under flags that are not defined, one beside the
opcode and one on it; the time of an OPT record with all its bits set; and a message with a second
OPT record. -/
theorem edns_survives_full :
    let sent := fun bits => ((flaggedDraft bits).withEdns fullEdns).message
    let crowded := ((opaqueDraft.withEdns fullEdns).withEdns (.ofSize 512)).message
    ((∃ back, ofWire (sent 0x81C0).toWire 5 = .ok back ∧ back.edns? = some fullEdns) ∧
      (∃ back, ofWire (sent 0x2000).toWire 5 = .ok back ∧ back.edns? = some fullEdns) ∧
      ofWire (sent 0x3000).toWire 5 = .error (.unsupportedOpcode 6)) ∧
      (∃ e, Edns.ofRecord (fullEdns.toRecord.withTtl 0xFFFFFFFF) = .ok e ∧
        e.toRecord.ttl = 0xFFFF8000) ∧
      ∃ e, Edns.ofRecord fullEdns.toRecord.received = .ok e ∧
        (crowded.received 5).edns? = some e := by
  intro sent crowded
  have hcrowded : crowded.Writable := by
    refine writable_counted (by decide) (by decide) (by decide) (by decide) (by decide) ?_
      (by decide)
    intro r hr
    have hr : r ∈ opaqueDraft.additional ++ [fullEdns.toRecord, (Edns.ofSize 512).toRecord] := hr
    rcases List.mem_append.1 hr with hr | hr
    · exact faithful_opaqueDraft r hr
    · rcases List.mem_pair.1 hr with rfl | rfl
      all_goals exact ⟨rfl, trivial⟩
  obtain ⟨hsent, htime, hfirst⟩ := edns_survives
  have hsent := fun bits =>
    hsent (flaggedDraft bits) fullEdns (sent bits) 5 rfl faithful_opaqueDraft
  refine ⟨⟨?_, ?_, ?_⟩, ?_, ?_⟩
  · exact (hsent 0x81C0).1 (by decide)
  · exact (hsent 0x2000).2.1 (by decide)
  · exact (hsent 0x3000).2.2 (by decide)
  · obtain ⟨e, he, -, -, httl⟩ := htime (fullEdns.toRecord.withTtl 0xFFFFFFFF) fullEdns.options rfl
    exact ⟨e, he, httl⟩
  · refine hfirst _ 5 _ (hcrowded.ofWire_toWire 5) (opaqueDraft.additional.map Record.received)
      fullEdns.toRecord.received [(Edns.ofSize 512).toRecord.received] rfl rfl ?_
    decide

end Message

end StubResolver
