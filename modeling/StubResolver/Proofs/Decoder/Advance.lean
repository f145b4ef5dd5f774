import StubResolver.Proofs.Decoder.Spans

/-!
# Where readings leave the position

Failed or not, a reading leaves the position where it was or further on, and within the message
(`Advances`). Steps in a row keep to that if each does. The plain reads do, since they take all
octets they ask for or none (`Takes`).
-/

namespace StubResolver.Decoder

variable {α β : Type} {d : Decoder α} {f : α → Decoder β} {message : Array UInt8}
  {pos next n : Nat} {a : α} {e : ProtocolError}

/-- The position behind a reading, whether it has failed or not. -/
def endsAt (d : Decoder α) (message : Array UInt8) (pos : Nat) : Nat :=
  match d message pos with
  | .ok _ next => next
  | .error _ next => next

theorem endsAt_of_ok (h : d message pos = .ok a next) : d.endsAt message pos = next := by
  unfold endsAt
  rw [h]

theorem endsAt_of_error (h : d message pos = .error e next) : d.endsAt message pos = next := by
  unfold endsAt
  rw [h]

/-- The position does not go back, and not beyond the end of the message. -/
def Advances (d : Decoder α) : Prop :=
  ∀ message pos, pos ≤ message.size →
    pos ≤ d.endsAt message pos ∧ d.endsAt message pos ≤ message.size

/-! ## Plain reads -/

/-- The next `n` octets are read, all of them, as a value that shows them; or they are not there,
the failure names where they would end, and nothing is consumed. -/
structure Takes (d : Decoder α) (n : Nat) (shows : α → Octets → Prop) : Prop where
  ok : ∀ message pos, pos + n ≤ message.size →
    ∃ a, d message pos = .ok a (pos + n) ∧ shows a (message.extract pos (pos + n)).toList
  error : ∀ message pos, message.size < pos + n → d message pos = .error (short pos n) pos

namespace Takes

theorem octet : Takes octet 1 fun b w => w = [b] where
  ok message pos h := by
    have hstands : Stands message pos [message[pos]] :=
      Stands.cons_iff.2 ⟨Array.getElem?_eq_getElem h, Stands.nil_iff.2 h⟩
    exact ⟨message[pos], dif_pos h, hstands.extract_eq⟩
  error message pos h := dif_neg (Nat.not_lt.2 (Nat.le_of_lt_succ h))

theorem word16 : Takes word16 2 fun x w => w = Octets.ofWord16 x where
  ok message pos h := by
    obtain ⟨x, hread⟩ : ∃ x, Decoder.word16 message pos = .ok x (pos + 2) := ⟨_, dif_pos h⟩
    exact ⟨x, hread, (word16_eq_ok_iff.1 hread).stands.extract_eq⟩
  error message pos h := dif_neg (Nat.not_le.2 h)

theorem word32 : Takes word32 4 fun x w => w = Octets.ofWord32 x where
  ok message pos h := by
    obtain ⟨x, hread⟩ : ∃ x, Decoder.word32 message pos = .ok x (pos + 4) := ⟨_, dif_pos h⟩
    exact ⟨x, hread, (word32_eq_ok_iff.1 hread).stands.extract_eq⟩
  error message pos h := dif_neg (Nat.not_le.2 h)

theorem take (n : Nat) : Takes (take n) n fun v w => w = v where
  ok _ _ h := ⟨_, if_pos h, rfl⟩
  error _ _ h := if_neg (Nat.not_le.2 h)

/-- Octets that are passed over are not shown. -/
theorem skip (n : Nat) : Takes (skip n) n fun _ _ => True where
  ok message pos h := by
    obtain ⟨w, hread, -⟩ := (take n).ok message pos h
    refine ⟨(), ?_, trivial⟩
    show EStateM.map _ (Decoder.take n message) pos = _
    unfold EStateM.map
    rw [hread]
  error message pos h := by
    show EStateM.map _ (Decoder.take n message) pos = _
    unfold EStateM.map
    rw [(take n).error message pos h]

theorem advances {shows : α → Octets → Prop} (h : Takes d n shows) : d.Advances := by
  intro message pos hpos
  by_cases hn : pos + n ≤ message.size
  · obtain ⟨a, hread, -⟩ := h.ok message pos hn
    rw [endsAt_of_ok hread]
    exact ⟨Nat.le_add_right pos n, hn⟩
  · rw [endsAt_of_error (h.error message pos (Nat.not_le.1 hn))]
    exact ⟨Nat.le_refl pos, hpos⟩

end Takes

/-! ## Steps in a row -/

namespace Advances

theorem of_endsAt_eq (h : ∀ message pos, d.endsAt message pos = pos) : d.Advances := by
  intro message pos hpos
  rw [h]
  exact ⟨Nat.le_refl pos, hpos⟩

theorem takeOr : (takeOr n e).Advances := by
  intro message pos hpos
  by_cases hn : pos + n ≤ message.size
  · rw [endsAt_of_ok (if_pos hn)]
    exact ⟨Nat.le_add_right pos n, hn⟩
  · rw [endsAt_of_error (if_neg hn)]
    exact ⟨Nat.le_refl pos, hpos⟩

/-- The second step starts where the first has ended, if it is reached at all. -/
theorem bind (hd : d.Advances) (hf : ∀ a, (f a).Advances) : (d >>= f).Advances := by
  intro message pos hpos
  obtain ⟨hle, hsize⟩ := hd message pos hpos
  cases hread : d message pos with
  | ok a mid =>
    rw [endsAt_of_ok hread] at hle hsize
    obtain ⟨hle', hsize'⟩ := hf a message mid hsize
    have hends : (d >>= f).endsAt message pos = (f a).endsAt message mid := by
      unfold endsAt
      rw [bind_apply, hread]
    rw [hends]
    exact ⟨Nat.le_trans hle hle', hsize'⟩
  | error e mid =>
    rw [endsAt_of_error hread] at hle hsize
    rw [endsAt_of_error (by rw [bind_apply, hread])]
    exact ⟨hle, hsize⟩

end Advances

end StubResolver.Decoder
