import StubResolver.Message.Wire

/-!
# What holds of every step

Headers, questions, records and messages are read by the same few steps. A property of decoders that
these steps have, and that steps in a row keep (`Stepwise`), is one of every reading.

A step that fails with an error of its own may be taken to fail with one that counts as malformed:
this is so of opcodes, and of payloads, kind by kind (`RData.ofOctets_error`).
-/

namespace StubResolver

variable {e : ProtocolError}

/-! ## Errors of the parts -/

theorem Opcode.ofValue_error {value : UInt8} (h : ofValue value = .error e) :
    e.isMalformed = true := by
  unfold ofValue at h
  split at h
  case h_7 =>
    cases h
    rfl
  all_goals cases h

theorem TextStrings.check_error {data : Octets} (h : check data = .error e) :
    e.isMalformed = true := by
  fun_induction check data
  case case1 => cases h
  case case2 ih => exact ih h
  case case3 =>
    cases h
    rfl

theorem TextStrings.ofOctets_error {data : Octets} (h : ofOctets data = .error e) :
    e.isMalformed = true := by
  unfold ofOctets at h
  cases hcheck : check data with
  | ok u =>
    rw [hcheck] at h
    cases h
  | error e' =>
    rw [hcheck] at h
    cases h
    exact check_error hcheck

theorem EdnsOption.readAll_error {offset : Nat} {data : Octets}
    (h : readAll offset data = .error e) : e.isMalformed = true := by
  fun_induction readAll offset data
  case case1 | case5 => cases h
  case case2 | case3 | case4 | case7 =>
    cases h
    rfl
  case case6 hrest ih =>
    cases h
    exact ih hrest

theorem RData.ofOctets_error {type : TypeCode} {data : Octets} (h : ofOctets type data = .error e) :
    e.isMalformed = true := by
  unfold ofOctets at h
  split at h
  · split at h
    · cases h
    · cases h
      rfl
  · split at h
    · cases h
    · cases h
      rfl
  · cases hread : TextStrings.ofOctets data with
    | ok t =>
      rw [hread] at h
      cases h
    | error e' =>
      rw [hread] at h
      cases h
      exact TextStrings.ofOctets_error hread
  · cases hread : EdnsOption.readAll 0 data with
    | ok options =>
      rw [hread] at h
      cases h
    | error e' =>
      rw [hread] at h
      cases h
      exact EdnsOption.readAll_error hread
  · cases h

/-! ## Readings step by step -/

/-- The property is one of each step, and of steps in a row if it is one of each of them. -/
structure Stepwise (P : ∀ {α : Type}, Decoder α → Prop) : Prop where
  /-- What neither fails nor consumes anything, such as asking for the position. -/
  look {α : Type} (value : Array UInt8 → Nat → α) : P fun message pos => .ok (value message pos) pos
  raise {α : Type} {e : ProtocolError} (he : e.isMalformed = true) : P (throw e : Decoder α)
  takeOr {n : Nat} {e : ProtocolError} (he : e.isMalformed = true) : P (Decoder.takeOr n e)
  word16 : P Decoder.word16
  word32 : P Decoder.word32
  name : P Name.decode
  bind {α β : Type} {d : Decoder α} {f : α → Decoder β} (hd : P d) (hf : ∀ a, P (f a)) :
    P (d >>= f)

namespace Stepwise

variable {α : Type} {d : Decoder α} {P : ∀ {α : Type}, Decoder α → Prop}

theorem pure (h : Stepwise P) (a : α) : P (Pure.pure a : Decoder α) :=
  h.look fun _ _ => a

theorem ofExcept (h : Stepwise P) {x : Except ProtocolError α}
    (hx : ∀ e, x = .error e → e.isMalformed = true) : P (Decoder.ofExcept x) := by
  cases x with
  | ok a => exact h.pure a
  | error e => exact h.raise (hx e rfl)

theorem timesOnto (h : Stepwise P) (hd : P d) (n : Nat) (done : List α) :
    P (d.timesOnto n done) := by
  induction n generalizing done with
  | zero => exact h.pure _
  | succ n ih => exact h.bind hd fun a => ih (a :: done)

theorem times (h : Stepwise P) (hd : P d) (n : Nat) : P (d.times n) :=
  h.timesOnto hd n []

theorem header (h : Stepwise P) : P Header.decode := by
  have hwords : ∀ {γ : Type} {g : UInt16 → Decoder γ},
      (∀ x, P (g x)) → P (Decoder.word16 >>= g) := fun hg => h.bind h.word16 hg
  unfold Header.decode
  refine h.bind (h.look fun message pos => message.size - pos) fun left => ?_
  split
  · exact h.bind (h.raise rfl) fun _ =>
      hwords fun _ => hwords fun _ => hwords fun _ => hwords fun _ => hwords fun _ =>
      hwords fun _ => h.bind (h.ofExcept fun _ => Opcode.ofValue_error) fun _ => h.pure _
  · exact hwords fun _ => hwords fun _ => hwords fun _ => hwords fun _ => hwords fun _ =>
      hwords fun _ => h.bind (h.ofExcept fun _ => Opcode.ofValue_error) fun _ => h.pure _

theorem question (h : Stepwise P) : P Question.decode := by
  unfold Question.decode
  exact h.bind h.name fun _ => h.bind h.word16 fun _ => h.bind h.word16 fun _ => h.pure _

theorem record (h : Stepwise P) : P Record.decode := by
  unfold Record.decode
  refine h.bind h.name fun _ => h.bind h.word16 fun _ => h.bind h.word16 fun _ =>
    h.bind h.word32 fun _ => h.bind h.word16 fun _ => ?_
  -- the position and the size are asked for to name them in the error of a short payload
  refine h.bind (h.look fun _ pos => pos) fun _ =>
    h.bind (h.look fun message _ => message.size) fun _ => h.bind (h.takeOr rfl) fun _ => ?_
  exact h.bind (h.ofExcept fun _ => RData.ofOctets_error) fun _ => h.pure _

theorem message (h : Stepwise P) : P Message.decode := by
  unfold Message.decode
  exact h.bind h.header fun _ => h.bind (h.times h.question _) fun _ =>
    h.bind (h.times h.record _) fun _ => h.bind (h.times h.record _) fun _ =>
    h.bind (h.times h.record _) fun _ => h.pure _

end Stepwise

end StubResolver
