import StubResolver.Proofs.Decoder.Advance
import StubResolver.Proofs.Message.Reading
import StubResolver.Proofs.Message.Stepwise

/-!
# Readers that are used in any order

A reader goes through a message by operations in any order, some of which may fail.

1. Each operation leaves the position within the message and not before where it was
   (`Operation.advances`), as its steps do (`Advances.stepwise`); hence so does any sequence of
   them.
2. A name is decoded on the whole message, and the position moved behind it afterwards. The reader
   ends the name within the message, so that this last step cannot fail (`Name.decode_of_readAt`).
3. A record ends where its length field says, whatever its payload is (`Record.exists_length`).
-/

namespace StubResolver

open Decoder

variable {message : Array UInt8} {pos next : Nat}

/-! ## Composite readings -/

namespace Name

/-- Where the name is found, the position is moved behind it. -/
theorem decode_of_readAt {reading : Reading} (h : readAt message pos = .ok reading) :
    decode message pos = .ok reading.name reading.next := by
  obtain ⟨labels, hspells, -⟩ := spells_of_readAt h
  unfold decode
  simp only [h]
  exact if_pos hspells.next_bounds.2

/-- Where the name cannot be read, the position stays. -/
theorem eq_of_decode_error {e : ProtocolError} (h : decode message pos = .error e next) :
    next = pos := by
  cases hread : readAt message pos with
  | ok reading =>
    rw [decode_of_readAt hread] at h
    cases h
  | error e' =>
    unfold decode at h
    rw [hread] at h
    cases h
    rfl

theorem advances_decode : decode.Advances := by
  intro message pos hpos
  cases hread : decode message pos with
  | ok n next =>
    obtain ⟨hlt, hle⟩ := (decode_eq_ok_iff.1 hread).next_bounds
    rw [endsAt_of_ok hread]
    exact ⟨Nat.le_of_lt hlt, hle⟩
  | error e next =>
    rw [endsAt_of_error hread, eq_of_decode_error hread]
    exact ⟨Nat.le_refl pos, hpos⟩

end Name

theorem Decoder.Advances.stepwise : Stepwise Advances where
  look _ := .of_endsAt_eq fun _ _ => rfl
  raise _ := .of_endsAt_eq fun _ _ => rfl
  takeOr _ := .takeOr
  word16 := Takes.word16.advances
  word32 := Takes.word32.advances
  name := Name.advances_decode
  bind := .bind

namespace Record

/-- Eight octets behind the name stands the length of what follows the length. -/
theorem exists_length {r : Record} (h : decode message pos = .ok r next) :
    ∃ name mid length, Name.decode message pos = .ok name mid ∧
      Decoder.word16 message (mid + 8) = .ok length (mid + 10) ∧
      next = mid + 10 + length.toNat := by
  obtain ⟨⟨mid, hname, hspans⟩, hreadable⟩ := decode_eq_ok_iff.1 h
  simp only [behindName, Spans.append_iff] at hspans
  obtain ⟨_, ⟨_, rfl⟩, _, ⟨_, rfl⟩, _, ⟨_, rfl⟩, _, hlength, hdata⟩ := hspans
  have hpayload := hdata.next_eq
  rw [hlength.next_eq, RData.length_toWire] at hpayload
  have hfield := EdnsOption.lengthField_toNat hreadable.fits
  refine ⟨r.name, mid, _, hname, word16_eq_ok_iff.2 ⟨hlength.stands, rfl⟩, ?_⟩
  simp only [Octets.length_ofWord16, Octets.length_ofWord32] at hpayload
  omega

end Record

/-! ## Operations in any order -/

/-- An operation of a reader. What it reads `octets` into may be a slice or an array. -/
inductive Operation where
  | octet | word16 | word32
  | octets (n : Nat)
  | skip (n : Nat)
  | name | question | record | header

namespace Operation

/-- What an operation gives. -/
def Result : Operation → Type
  | octet => UInt8
  | word16 => UInt16
  | word32 => UInt32
  | octets _ => Octets
  | skip _ => Unit
  | name => Name
  | question => Question
  | record => Record
  | header => Header

/-- The reading of an operation. -/
def read : (op : Operation) → Decoder op.Result
  | octet => Decoder.octet
  | word16 => Decoder.word16
  | word32 => Decoder.word32
  | octets n => Decoder.take n
  | skip n => Decoder.skip n
  | name => Name.decode
  | question => Question.decode
  | record => Record.decode
  | header => Header.decode

/-- How many octets a plain read asks for. -/
def width? : Operation → Option Nat
  | octet => some 1
  | word16 => some 2
  | word32 => some 4
  | octets n | skip n => some n
  | name | question | record | header => none

/-- What a plain read gives is made of just these octets. -/
def Shows : (op : Operation) → op.Result → Octets → Prop
  | octet => fun b w => w = [b]
  | word16 => fun x w => w = Octets.ofWord16 x
  | word32 => fun x w => w = Octets.ofWord32 x
  | octets _ => fun v w => w = v
  | skip _ | name | question | record | header => fun _ _ => True

theorem takes {op : Operation} {n : Nat} (h : op.width? = some n) :
    Takes op.read n op.Shows := by
  cases op <;> cases h
  case octet => exact .octet
  case word16 => exact .word16
  case word32 => exact .word32
  case octets => exact .take n
  case skip => exact .skip n

theorem advances (op : Operation) : op.read.Advances := by
  cases op with
  | name => exact Name.advances_decode
  | question => exact Advances.stepwise.question
  | record => exact Advances.stepwise.record
  | header => exact Advances.stepwise.header
  | octet | word16 | word32 | octets | skip => exact (takes rfl).advances

/-- The position behind some operations, the first of them at the front of the message. -/
def position (message : Array UInt8) (ops : List Operation) : Nat :=
  ops.foldl (fun pos op => op.read.endsAt message pos) 0

theorem foldl_bounds (message : Array UInt8) (ops : List Operation) (hpos : pos ≤ message.size) :
    pos ≤ ops.foldl (fun pos op => op.read.endsAt message pos) pos ∧
      ops.foldl (fun pos op => op.read.endsAt message pos) pos ≤ message.size := by
  induction ops generalizing pos with
  | nil => exact ⟨Nat.le_refl pos, hpos⟩
  | cons op ops ih =>
    obtain ⟨hle, hsize⟩ := op.advances message pos hpos
    obtain ⟨hle', hsize'⟩ := ih hsize
    exact ⟨Nat.le_trans hle hle', hsize'⟩

theorem position_le_size (message : Array UInt8) (ops : List Operation) :
    position message ops ≤ message.size :=
  (foldl_bounds message ops (Nat.zero_le _)).2

theorem position_le_append (message : Array UInt8) (earlier later : List Operation) :
    position message earlier ≤ position message (earlier ++ later) := by
  have hsize := position_le_size message earlier
  unfold position at *
  rw [List.foldl_append]
  exact (foldl_bounds message later hsize).1

/-- What can be relied on at a position, whatever operation comes next. -/
structure Reliable (message : Array UInt8) (pos : Nat) : Prop where
  advances : ∀ op : Operation, pos ≤ op.read.endsAt message pos ∧
    op.read.endsAt message pos ≤ message.size
  plain_ok : ∀ (op : Operation) n, op.width? = some n → pos + n ≤ message.size →
    ∃ v, op.read message pos = .ok v (pos + n) ∧
      op.Shows v (message.extract pos (pos + n)).toList
  plain_error : ∀ (op : Operation) n, op.width? = some n → message.size < pos + n →
    op.read message pos = .error (.unexpectedEnd (min (pos + n) (2 ^ 64 - 1))) pos
  name_ok : ∀ reading, Name.readAt message pos = .ok reading →
    Name.decode message pos = .ok reading.name reading.next
  name_error : ∀ e next, Name.decode message pos = .error e next → next = pos
  record : ∀ r next, Record.decode message pos = .ok r next → ∃ name mid length,
    Name.decode message pos = .ok name mid ∧
      Decoder.word16 message (mid + 8) = .ok length (mid + 10) ∧ next = mid + 10 + length.toNat

/-- **Readers.** Through any sequence of operations, failing ones among them, the position goes only
on and stays within the message, and every operation at it does what it should. -/
theorem reliable_position (message : Array UInt8) (earlier : List Operation) :
    position message earlier ≤ message.size ∧
      (∀ later, position message earlier ≤ position message (earlier ++ later)) ∧
      Reliable message (position message earlier) := by
  have hsize := position_le_size message earlier
  refine ⟨hsize, position_le_append message earlier, ?_⟩
  exact {
    advances := fun op => op.advances message _ hsize
    plain_ok := fun op n h => (takes h).ok message _
    plain_error := fun op n h => (takes h).error message _
    name_ok := fun _ => Name.decode_of_readAt
    name_error := fun _ _ => Name.eq_of_decode_error
    record := fun _ _ => Record.exists_length }

/-- A word that is not there is read neither before nor after the octet that is. -/
example : position #[7] [.word16, .octet, .word16, .skip (2 ^ 64 - 1)] = 1 := by
  decide

end Operation

end StubResolver
