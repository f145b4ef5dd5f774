import StubResolver.Header
import StubResolver.Proofs.Decoder

/-!
# Written headers

The control word packs flags, opcode and response code at places that do not overlap, so each can
be taken out again. Of the response code there is room for the low four bits only.
-/

namespace StubResolver

namespace Opcode

variable {v : UInt8}

theorem exists_ofValue_of_le (h : v ≤ 5) : ∃ o, ofValue v = .ok o := by
  have hle : v.toNat ≤ 5 := UInt8.le_iff_toNat_le.1 h
  rw [← v.ofNat_toNat]
  generalize v.toNat = n at hle
  obtain rfl | rfl | rfl | rfl | rfl | rfl : n = 0 ∨ n = 1 ∨ n = 2 ∨ n = 3 ∨ n = 4 ∨ n = 5 := by
    omega
  all_goals exact ⟨_, rfl⟩

theorem ofValue_of_lt (h : 5 < v) : ofValue v = .error (.unsupportedOpcode v) := by
  unfold ofValue
  split
  case h_7 => rfl
  all_goals exact absurd h (by decide)

end Opcode

namespace Header

/-- The flags are defined ones. -/
def FlagsDefined (h : Header) : Prop :=
  h.flags.bits &&& Flags.defined.bits = h.flags.bits

instance (h : Header) : Decidable h.FlagsDefined :=
  inferInstanceAs (Decidable (_ = _))

/-- The response code cut to the bits that fit on the wire. -/
def wireRcode (h : Header) : ResponseCode :=
  .ofValue (UInt8.ofNat (h.rcode.value.toNat % 16))

/-- The header as it is read back. -/
def received (h : Header) : Header :=
  { h with rcode := h.wireRcode }

/-- The header as its control word says, with the opcode found there. -/
def unpacked (h : Header) (opcode : Opcode) : Header :=
  { h with flags := .ofControl h.controlWord, opcode, rcode := rcodeOfControl h.controlWord }

/-- Two headers count the same section lengths. -/
structure SameCounts (a b : Header) : Prop where
  questionCount : a.questionCount = b.questionCount
  answerCount : a.answerCount = b.answerCount
  authorityCount : a.authorityCount = b.authorityCount
  additionalCount : a.additionalCount = b.additionalCount

/-! ## The control word -/

section ControlWord

variable {f o r : Nat} (hf : f &&& 0x87B0 = f)

include hf in
theorem flags_mod : f % 16 = 0 := by
  rw [← hf, show 16 = 2 ^ 4 from rfl, Nat.and_mod_two_pow, show 0x87B0 % 2 ^ 4 = 0 from rfl,
    Nat.and_zero]

include hf in
theorem flags_div : f / 0x800 % 16 = 0 := by
  rw [← hf, show 0x800 = 2 ^ 11 from rfl, Nat.and_div_two_pow, show 16 = 2 ^ 4 from rfl,
    Nat.and_mod_two_pow, show 0x87B0 / 2 ^ 11 % 2 ^ 4 = 0 from rfl, Nat.and_zero]

include hf in
theorem packed_and (ho : o < 8) (hr : r < 16) :
    (f ||| o * 0x800 ||| r) &&& 0x87B0 = f := by
  have hopcode : ∀ o < 8, o * 0x800 &&& 0x87B0 = 0 := by decide
  have hrcode : ∀ r < 16, r &&& 0x87B0 = 0 := by decide
  rw [Nat.and_or_distrib_right, Nat.and_or_distrib_right, hf, hopcode o ho, hrcode r hr,
    Nat.or_zero, Nat.or_zero]

theorem packed_div (ho : o < 8) (hr : r < 16) :
    (f ||| o * 0x800 ||| r) / 0x800 % 16 = o ||| f / 0x800 % 16 := by
  rw [show 0x800 = 2 ^ 11 from rfl, show 16 = 2 ^ 4 from rfl, Nat.or_div_two_pow,
    Nat.or_div_two_pow, Nat.or_mod_two_pow, Nat.or_mod_two_pow, Nat.mul_div_cancel _ (by decide),
    Nat.div_eq_of_lt (show r < 2 ^ 11 by omega), Nat.zero_mod, Nat.or_zero, Nat.or_comm,
    Nat.mod_eq_of_lt (show o < 2 ^ 4 by omega)]

include hf in
theorem packed_mod (hr : r < 16) : (f ||| o * 0x800 ||| r) % 16 = r := by
  have hmod := flags_mod hf
  rw [show 16 = 2 ^ 4 from rfl] at hmod ⊢
  rw [Nat.or_mod_two_pow, Nat.or_mod_two_pow, hmod, show o * 0x800 % 2 ^ 4 = 0 by omega,
    Nat.zero_or, Nat.zero_or]
  exact Nat.mod_eq_of_lt hr

end ControlWord

theorem opcode_lt (o : Opcode) : o.value.toNat < 8 := by
  cases o <;> decide

theorem toNat_controlWord (h : Header) :
    h.controlWord.toNat =
      h.flags.bits.toNat ||| h.opcode.value.toNat * 0x800 ||| h.rcode.value.toNat % 16 := by
  have ho := opcode_lt h.opcode
  have hr := Nat.mod_lt h.rcode.value.toNat (show 0 < 16 by decide)
  rw [controlWord, UInt16.toNat_or, UInt16.toNat_or, UInt16.toNat_ofNat', UInt16.toNat_ofNat',
    Nat.mod_eq_of_lt (show h.opcode.value.toNat < 16 by omega),
    Nat.mod_eq_of_lt (show h.opcode.value.toNat * 0x800 < 2 ^ 16 by omega),
    Nat.mod_eq_of_lt (show h.rcode.value.toNat % 16 < 2 ^ 16 by omega)]

variable {h : Header}

theorem FlagsDefined.toNat (hf : h.FlagsDefined) :
    h.flags.bits.toNat &&& 0x87B0 = h.flags.bits.toNat :=
  (UInt16.toNat_and _ _).symm.trans (congrArg UInt16.toNat hf)

theorem ofControl_controlWord (hf : h.FlagsDefined) : Flags.ofControl h.controlWord = h.flags := by
  have hbits : h.controlWord &&& Flags.defined.bits = h.flags.bits := by
    apply UInt16.toNat_inj.1
    rw [UInt16.toNat_and, toNat_controlWord]
    exact packed_and hf.toNat (opcode_lt _) (Nat.mod_lt _ (by decide))
  unfold Flags.ofControl
  rw [hbits]

/-- The opcode bits are those of the opcode and of the flags that cover it. -/
theorem opcodeBits_controlWord (h : Header) :
    opcodeBits h.controlWord = h.opcode.value ||| opcodeBits h.flags.bits := by
  apply UInt8.toNat_inj.1
  rw [opcodeBits, toNat_controlWord, packed_div (opcode_lt _) (Nat.mod_lt _ (by decide)),
    UInt8.ofNat_or, UInt8.ofNat_toNat]
  rfl

/-- Flags that leave the place of the opcode alone. -/
theorem opcodeBits_of_clear {bits : UInt16} (hclear : bits &&& 0x7800 = 0) :
    opcodeBits bits = 0 := by
  have hnat : bits.toNat &&& 0x7800 = 0 :=
    (UInt16.toNat_and _ _).symm.trans (congrArg UInt16.toNat hclear)
  have hbits := congrArg (· / 2 ^ 11 % 2 ^ 4) hnat
  simp only [Nat.and_div_two_pow, Nat.and_mod_two_pow] at hbits
  rw [show 0x7800 / 2 ^ 11 % 2 ^ 4 = 2 ^ 4 - 1 from rfl, Nat.and_two_pow_sub_one_eq_mod,
    Nat.mod_mod] at hbits
  rw [opcodeBits, show bits.toNat / 0x800 % 16 = 0 from hbits]
  rfl

theorem FlagsDefined.opcodeBits_eq (hf : h.FlagsDefined) : opcodeBits h.flags.bits = 0 := by
  rw [opcodeBits, flags_div hf.toNat]
  rfl

theorem ofValue_opcodeBits (hf : h.FlagsDefined) :
    Opcode.ofValue (opcodeBits h.controlWord) = .ok h.opcode := by
  rw [opcodeBits_controlWord, hf.opcodeBits_eq, UInt8.or_zero, Opcode.ofValue_value]

theorem rcodeOfControl_controlWord (hf : h.FlagsDefined) :
    rcodeOfControl h.controlWord = h.wireRcode := by
  rw [rcodeOfControl, toNat_controlWord, packed_mod hf.toNat (Nat.mod_lt _ (by decide))]
  rfl

/-! ## Reading back -/

@[simp] theorem length_toWire (h : Header) : h.toWire.length = size := rfl

@[simp] theorem controlWord_received (h : Header) : h.received.controlWord = h.controlWord := by
  apply UInt16.toNat_inj.1
  rw [toNat_controlWord, toNat_controlWord]
  show _ ||| _ ||| (ResponseCode.ofValue _).value.toNat % 16 = _
  rw [ResponseCode.value_ofValue, UInt8.toNat_ofNat', Nat.mod_mod_of_dvd _ (by decide),
    Nat.mod_mod]
  rfl

@[simp] theorem toWire_received (h : Header) : h.received.toWire = h.toWire := by
  unfold toWire
  rw [controlWord_received]
  rfl

/-- A header whose opcode bits stand for an operation is read back as its control word says. -/
theorem restores_unpacked {o : Opcode} (ho : Opcode.ofValue (opcodeBits h.controlWord) = .ok o) :
    decode.Restores h.toWire (h.unpacked o) := by
  unfold decode
  refine .bind_silent fun message pos hleft => ⟨_, rfl, ?_⟩
  have hnot : ¬ message.size - pos < size := Nat.not_lt.2 hleft
  simp only [if_neg hnot, toWire, List.append_assoc]
  exact .bind (.word16 _) <| .bind (.word16 _) <| .bind (.word16 _) <| .bind (.word16 _) <|
    .bind (.word16 _) <| .bind_end (.word16 _) <| .bind_end (.ofExcept ho) .pure

/-- **Headers.** A header with defined flags is read back with its response code cut. -/
theorem restores_toWire (hf : h.FlagsDefined) : decode.Restores h.toWire h.received := by
  have hread := restores_unpacked (ofValue_opcodeBits hf)
  rwa [unpacked, ofControl_controlWord hf, rcodeOfControl_controlWord hf] at hread

/-- A header whose opcode bits stand for no operation cannot be read. -/
theorem refuses_toWire {e : ProtocolError}
    (he : Opcode.ofValue (opcodeBits h.controlWord) = .error e) : decode.Refuses h.toWire e := by
  unfold decode
  refine .bind_silent fun message pos hleft => ⟨_, rfl, ?_⟩
  have hnot : ¬ message.size - pos < size := Nat.not_lt.2 hleft
  simp only [if_neg hnot, toWire, List.append_assoc]
  exact .bind (.word16 _) <| .bind (.word16 _) <| .bind (.word16 _) <| .bind (.word16 _) <|
    .bind (.word16 _) <| .bind_end (.word16 _) <| .bind_left (.ofExcept he)

end Header

end StubResolver
