import StubResolver.Decoder

/-!
# Reading back what was written

`Stands` says that octets stand at a place of a message, whatever is before and behind them.
`Restores` says of a decoder that it reads a value wherever certain octets stand, and stops right
behind them, and `Refuses` that it fails there. They follow the shape of what is written: octets in
a row are read by decoders in a row (`Restores.bind`), and lists by repetition (`Restores.times`).
-/

namespace StubResolver

/-! ## Octets at a place -/

/-- The message has some octets from `pos` on. -/
structure Stands (message : Array UInt8) (pos : Nat) (w : Octets) : Prop where
  le_size : pos + w.length ≤ message.size
  octet : ∀ i (h : i < w.length), message[pos + i]? = some w[i]

namespace Stands

variable {message : Array UInt8} {pos : Nat} {a b w : Octets}

theorem append_iff :
    Stands message pos (a ++ b) ↔ Stands message pos a ∧ Stands message (pos + a.length) b := by
  constructor
  · rintro ⟨hle, h⟩
    rw [List.length_append] at hle
    refine ⟨⟨by omega, fun i hi => ?_⟩, ⟨by omega, fun i hi => ?_⟩⟩
    · rw [h i (by rw [List.length_append]; omega), List.getElem_append_left hi]
    · have hget := h (a.length + i) (by rw [List.length_append]; omega)
      rw [List.getElem_append_right (by omega), ← Nat.add_assoc] at hget
      simpa using hget
  · rintro ⟨ha, hb⟩
    refine ⟨by rw [List.length_append, ← Nat.add_assoc]; exact hb.le_size, fun i hi => ?_⟩
    rw [List.length_append] at hi
    by_cases hlt : i < a.length
    · rw [List.getElem_append_left hlt, ha.octet i hlt]
    · rw [List.getElem_append_right (by omega), ← hb.octet (i - a.length) (by omega)]
      congr 1
      omega

theorem cons_iff {x : UInt8} :
    Stands message pos (x :: w) ↔ message[pos]? = some x ∧ Stands message (pos + 1) w := by
  rw [← List.singleton_append, append_iff]
  refine and_congr ⟨fun h => h.octet 0 (by simp), fun h => ⟨?_, fun i hi => ?_⟩⟩ Iff.rfl
  · exact (Array.getElem?_eq_some_iff.1 h).1
  · obtain rfl : i = 0 := by simpa using hi
    exact h

theorem extract_eq (h : Stands message pos w) :
    (message.extract pos (pos + w.length)).toList = w := by
  have hle := h.le_size
  refine List.ext_getElem (by simp; omega) fun i hi hi' => ?_
  have hget := h.octet i hi'
  rw [Array.getElem?_eq_getElem (by omega)] at hget
  simpa using hget

/-- Octets stand at the front of a message that begins with them. -/
theorem front (w rest : Octets) : Stands (w ++ rest).toArray 0 w := by
  refine ⟨by simp, fun i hi => ?_⟩
  rw [Nat.zero_add, List.getElem?_toArray, List.getElem?_append_left hi,
    List.getElem?_eq_getElem hi]

end Stands

/-! ## Decoders that read them -/

namespace Decoder

variable {α β : Type} {a : α} {b : β} {w v : Octets}

/-- Where the octets stand, the decoder reads the value and stops behind them. -/
def Restores (d : Decoder α) (w : Octets) (a : α) : Prop :=
  ∀ message pos, Stands message pos w → d message pos = .ok a (pos + w.length)

/-- One decoder after another, as a function of message and position. -/
theorem bind_apply (d : Decoder α) (f : α → Decoder β) (message : Array UInt8) (pos : Nat) :
    (d >>= f) message pos =
      match d message pos with
      | .ok a next => f a message next
      | .error e next => .error e next := by
  show EStateM.bind (d message) (fun a => f a message) pos = _
  unfold EStateM.bind
  cases d message pos <;> rfl

namespace Restores

variable {d : Decoder α} {f : α → Decoder β}

theorem pure : Restores (Pure.pure a) [] a :=
  fun _ _ _ => rfl

theorem bind (hd : Restores d w a) (hf : Restores (f a) v b) : Restores (d >>= f) (w ++ v) b := by
  intro message pos h
  obtain ⟨hw, hv⟩ := Stands.append_iff.1 h
  rw [bind_apply, hd message pos hw]
  show f a message (pos + w.length) = _
  rw [hf message _ hv, List.length_append, Nat.add_assoc]

/-- What follows the last octets consumes nothing. -/
theorem bind_end (hd : Restores d w a) (hf : Restores (f a) [] b) : Restores (d >>= f) w b := by
  have := hd.bind hf
  rwa [List.append_nil] at this

/-- A step that consumes nothing leaves the octets to what follows it. -/
theorem bind_silent (hd : ∀ message pos, w.length ≤ message.size - pos →
      ∃ a, d message pos = .ok a pos ∧ Restores (f a) w b) : Restores (d >>= f) w b := by
  intro message pos h
  have hle := h.le_size
  obtain ⟨a, ha, hf⟩ := hd message pos (by omega)
  rw [bind_apply, ha]
  exact hf message pos h

theorem ofExcept {x : Except ProtocolError α} (hx : x = .ok a) :
    Restores (Decoder.ofExcept x) [] a := by
  subst hx
  exact pure

theorem takeOr {e : ProtocolError} : Restores (takeOr w.length e) w w := by
  intro message pos h
  rw [Decoder.takeOr, if_pos h.le_size, h.extract_eq]

theorem word16 (x : UInt16) : Restores word16 (Octets.ofWord16 x) x := by
  intro message pos h
  have hle : pos + 2 ≤ message.size := h.le_size
  have h0 := h.octet 0 (by simp)
  have h1 := h.octet 1 (by simp)
  rw [Array.getElem?_eq_getElem (by omega), Option.some_inj] at h0 h1
  simp only [Nat.add_zero] at h0
  rw [Decoder.word16, dif_pos hle, h0, h1]
  exact congrArg (EStateM.Result.ok · (pos + 2)) (Octets.word16_octets x)

theorem word32 (x : UInt32) : Restores word32 (Octets.ofWord32 x) x := by
  intro message pos h
  have hle : pos + 4 ≤ message.size := h.le_size
  have h0 := h.octet 0 (by simp)
  have h1 := h.octet 1 (by simp)
  have h2 := h.octet 2 (by simp)
  have h3 := h.octet 3 (by simp)
  rw [Array.getElem?_eq_getElem (by omega), Option.some_inj] at h0 h1 h2 h3
  simp only [Nat.add_zero] at h0
  rw [Decoder.word32, dif_pos hle, h0, h1, h2, h3]
  exact congrArg (EStateM.Result.ok · (pos + 4)) (Octets.word32_octets x)

/-- Values written in a row are read by repetition. -/
theorem timesOnto {γ : Type} {write : γ → Octets} {back : γ → α} {xs : List γ} (done : List α)
    (h : ∀ x ∈ xs, Restores d (write x) (back x)) :
    Restores (d.timesOnto xs.length done) (xs.flatMap write)
      (done.reverse ++ xs.map back) := by
  induction xs generalizing done with
  | nil =>
    rw [List.map_nil, List.append_nil]
    exact pure
  | cons x xs ih =>
    rw [List.flatMap_cons, List.map_cons]
    refine bind (h x (List.mem_cons_self ..)) ?_
    have := ih (back x :: done) fun y hy => h y (List.mem_cons_of_mem _ hy)
    simpa using this

theorem times {γ : Type} {write : γ → Octets} {back : γ → α} {xs : List γ} {n : Nat}
    (hn : n = xs.length) (h : ∀ x ∈ xs, Restores d (write x) (back x)) :
    Restores (d.times n) (xs.flatMap write) (xs.map back) := by
  subst hn
  exact timesOnto [] h

end Restores

/-- Where the octets stand, the decoder fails behind them. -/
def Refuses (d : Decoder α) (w : Octets) (e : ProtocolError) : Prop :=
  ∀ message pos, Stands message pos w → d message pos = .error e (pos + w.length)

namespace Refuses

variable {d : Decoder α} {f : α → Decoder β} {e : ProtocolError}

theorem bind (hd : Restores d w a) (hf : Refuses (f a) v e) : Refuses (d >>= f) (w ++ v) e := by
  intro message pos h
  obtain ⟨hw, hv⟩ := Stands.append_iff.1 h
  rw [bind_apply, hd message pos hw]
  show f a message (pos + w.length) = _
  rw [hf message _ hv, List.length_append, Nat.add_assoc]

theorem bind_end (hd : Restores d w a) (hf : Refuses (f a) [] e) : Refuses (d >>= f) w e := by
  have := bind hd hf
  rwa [List.append_nil] at this

theorem bind_silent (hd : ∀ message pos, w.length ≤ message.size - pos →
      ∃ a, d message pos = .ok a pos ∧ Refuses (f a) w e) : Refuses (d >>= f) w e := by
  intro message pos h
  have hle := h.le_size
  obtain ⟨a, ha, hf⟩ := hd message pos (by omega)
  rw [bind_apply, ha]
  exact hf message pos h

/-- What would follow a failure is not reached. -/
theorem bind_left (hd : Refuses d w e) : Refuses (d >>= f) w e := by
  intro message pos h
  rw [bind_apply, hd message pos h]

theorem ofExcept {x : Except ProtocolError α} (hx : x = .error e) :
    Refuses (Decoder.ofExcept x) [] e := by
  subst hx
  exact fun _ _ _ => rfl

end Refuses

end Decoder

end StubResolver
