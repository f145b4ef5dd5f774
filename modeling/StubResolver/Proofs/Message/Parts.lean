import Mathlib.Data.Nat.Bitwise
import StubResolver.Proofs.Name.Wire
import StubResolver.Proofs.RData
import StubResolver.Record

/-!
# Written questions and records

What is read back of a question or record is its `received` form: the name in lower case, and
every field as it stands on the wire. The forms agree with what was written in all that the wire
carries (`Question.Agrees`, `Record.Agrees`).
-/

namespace StubResolver

open Decoder

/-! ## Questions -/

namespace Question

/-- The question as it is read back. -/
def received (q : Question) : Question where
  name := q.name.folded
  type := .ofCode q.type.code
  recordClass := ⟨q.classField &&& ~~~unicastBit⟩
  unicast := q.classField &&& unicastBit != 0

/-- Two questions have the same name, type code and class field. -/
structure Agrees (a b : Question) : Prop where
  name : a.name.same b.name = true
  type : a.type.code = b.type.code
  classField : a.classField = b.classField

theorem toNat_lowBits (f : UInt16) : (f &&& ~~~unicastBit).toNat = f.toNat % 2 ^ 15 :=
  (UInt16.toNat_and _ _).trans (Nat.and_two_pow_sub_one_eq_mod f.toNat 15)

theorem toNat_topBit (f : UInt16) :
    (f &&& unicastBit).toNat = (f.toNat.testBit 15).toNat * 2 ^ 15 :=
  (UInt16.toNat_and _ _).trans (Nat.and_two_pow f.toNat 15)

/-- Whether the top bit is set. -/
theorem topBit_ne_zero (f : UInt16) : (f &&& unicastBit != 0) = f.toNat.testBit 15 := by
  have htop := toNat_topBit f
  cases h : f.toNat.testBit 15 with
  | true =>
    rw [h] at htop
    rw [show f &&& unicastBit = unicastBit from UInt16.toNat_inj.1 htop]
    rfl
  | false =>
    rw [h] at htop
    rw [show f &&& unicastBit = 0 from UInt16.toNat_inj.1 htop]
    rfl

/-- A class field is its lower bits and its top bit. -/
theorem classField_split (f : UInt16) :
    f &&& ~~~unicastBit ||| (if f &&& unicastBit != 0 then unicastBit else 0) = f := by
  have hlt := f.toNat_lt
  have hbit : f.toNat / 2 ^ 15 = (f.toNat.testBit 15).toNat := by
    rw [Nat.testBit_eq_decide_div_mod_eq]
    by_cases h : f.toNat / 2 ^ 15 = 0
    · rw [h]; rfl
    · rw [show f.toNat / 2 ^ 15 = 1 by omega]; rfl
  have hvalue : (if f &&& unicastBit != 0 then unicastBit else 0).toNat =
      (f.toNat.testBit 15).toNat * 2 ^ 15 := by
    rw [topBit_ne_zero]
    cases f.toNat.testBit 15 <;> rfl
  apply UInt16.toNat_inj.1
  rw [UInt16.toNat_or, toNat_lowBits, hvalue, ← hbit, Nat.or_comm, Nat.mul_comm,
    ← Nat.two_pow_add_eq_or_of_lt (Nat.mod_lt _ (by decide)), Nat.div_add_mod]

@[simp] theorem classField_received (q : Question) : q.received.classField = q.classField :=
  classField_split q.classField

theorem received_agrees (q : Question) : q.received.Agrees q where
  name := q.name.same_folded
  type := TypeCode.code_ofCode _
  classField := q.classField_received

/-- Questions that agree are written alike. -/
theorem Agrees.toWire_eq {a b : Question} (h : a.Agrees b) : a.toWire = b.toWire := by
  unfold toWire
  rw [Name.toWire_eq_of_same h.name, h.type, h.classField]

theorem restores_toWire (q : Question) : decode.Restores q.toWire q.received := by
  unfold decode toWire
  rw [List.append_assoc]
  exact .bind q.name.restores_toWire <| .bind (.word16 _) <| .bind_end (.word16 _) .pure

/-- A question with a canonical type, and a class that leaves the top bit of its field alone. -/
structure Regular (q : Question) : Prop where
  type : q.type.Canonical
  recordClass : q.recordClass.code < unicastBit

variable {q q' : Question}

theorem same_iff :
    q.same q' = true ↔ q.name.same q'.name = true ∧ q.type = q'.type ∧
      q.recordClass = q'.recordClass ∧ q.unicast = q'.unicast := by
  simp only [same, Bool.and_eq_true, beq_iff_eq, and_assoc]

theorem Regular.toNat_classField (h : q.Regular) :
    q.classField.toNat = q.recordClass.code.toNat + 2 ^ 15 * q.unicast.toNat := by
  have hlt : q.recordClass.code.toNat < 2 ^ 15 := h.recordClass
  have hunicast : (if q.unicast then unicastBit else 0).toNat = 2 ^ 15 * q.unicast.toNat := by
    cases q.unicast <;> rfl
  rw [classField, UInt16.toNat_or, hunicast, Nat.or_comm, ← Nat.two_pow_add_eq_or_of_lt hlt,
    Nat.add_comm]

/-- Of a regular question only the letters of its name can change on the wire. -/
theorem Regular.received (h : q.Regular) : q.received = { q with name := q.name.folded } := by
  have hlt : q.recordClass.code.toNat < 2 ^ 15 := h.recordClass
  have hfield := h.toNat_classField
  have htype : TypeCode.ofCode q.type.code = q.type := h.type
  have hclass : q.classField &&& ~~~unicastBit = q.recordClass.code := by
    apply UInt16.toNat_inj.1
    rw [toNat_lowBits, hfield, Nat.add_mul_mod_self_left, Nat.mod_eq_of_lt hlt]
  have hunicast : (q.classField &&& unicastBit != 0) = q.unicast := by
    rw [topBit_ne_zero, hfield, Nat.add_comm, Nat.testBit_two_pow_mul_add _ hlt]
    cases q.unicast <;> rfl
  rw [Question.received, htype, hclass, hunicast]

/-- Regular questions that are read back alike are the same. -/
theorem Regular.same_of_received_eq (h : q.Regular) (h' : q'.Regular)
    (heq : q.received = q'.received) : q.same q' = true := by
  rw [h.received, h'.received, mk.injEq] at heq
  obtain ⟨hname, htype, hclass, hunicast⟩ := heq
  refine same_iff.2 ⟨?_, htype, hclass, hunicast⟩
  rw [Name.same_iff, ← Name.labels_folded, hname, Name.labels_folded]

end Question

/-! ## Records -/

namespace Record

/-- The record as it is read back. -/
def received (r : Record) : Record :=
  ofClassField r.name.folded (.ofCode r.type.code) r.classField r.ttl r.rdata

/-- Two records have the same name, type, class field, time and payload. -/
structure Agrees (a b : Record) : Prop where
  name : a.name.same b.name = true
  type : a.type = b.type
  classField : a.classField = b.classField
  ttl : a.ttl = b.ttl
  rdata : a.rdata = b.rdata

/-- The type is that of the payload, and the payload was made as payloads are made. -/
structure Faithful (r : Record) : Prop where
  type : r.type = r.rdata.type
  genuine : r.rdata.Genuine

end Record

theorem RData.canonical_type (r : RData) : r.type.Canonical := by
  cases r with
  | unknown code data => exact TypeCode.canonical_ofCode code
  | a | aaaa | txt | opt => exact TypeCode.canonical_known _

namespace Record

variable {r : Record}

theorem Faithful.canonical (h : r.Faithful) : r.type.Canonical :=
  h.type ▸ r.rdata.canonical_type

theorem Faithful.received_agrees (h : r.Faithful) : r.received.Agrees r where
  name := r.name.same_folded
  type := h.canonical
  classField := rfl
  ttl := rfl
  rdata := rfl

/-- Records that agree are written alike. -/
theorem Agrees.toWire_eq {a b : Record} (h : a.Agrees b) : a.toWire = b.toWire := by
  unfold toWire
  rw [Name.toWire_eq_of_same h.name, h.type, h.classField, h.ttl, h.rdata]

theorem Faithful.isOpt_received (h : r.Faithful) : r.received.isOpt = r.isOpt := by
  unfold isOpt
  rw [h.received_agrees.type]

/-- **Records.** A faithful record whose payload fits is read back. -/
theorem Faithful.restores_toWire (h : r.Faithful) (hlen : r.rdata.wireLength ≤ 65535) :
    decode.Restores r.toWire r.received := by
  have hfield := EdnsOption.lengthField_toNat hlen
  have hpayload : RData.ofOctets (.ofCode r.type.code) r.rdata.toWire = .ok r.rdata := by
    rw [show TypeCode.ofCode r.type.code = r.type from h.canonical, h.type]
    exact RData.ofOctets_toWire h.genuine hlen
  unfold decode toWire
  simp only [List.append_assoc]
  refine .bind r.name.restores_toWire <| .bind (.word16 _) <| .bind (.word16 _) <|
    .bind (.word32 _) <| .bind (.word16 _) ?_
  refine .bind_silent fun _ start _ => ⟨start, rfl, .bind_silent fun message _ _ =>
    ⟨message.size, rfl, ?_⟩⟩
  rw [hfield, ← RData.length_toWire]
  exact .bind_end .takeOr <| .bind_end (.ofExcept hpayload) .pure

end Record

end StubResolver
