import StubResolver.Proofs.Decoder

/-!
# What a successful reading has read

`Spans` says that the octets of a message from one place to another are some given ones. Words and
runs of octets are read exactly where their octets span (`word16_eq_ok_iff`, `takeOr_eq_ok_iff`),
steps in a row succeed exactly if each does (`bind_eq_ok_iff`), and a repetition reads one value
behind the other (`times_eq_ok_iff`). None of this can be undone by octets put behind the message
(`Spans.extend`).
-/

namespace StubResolver

/-- The octets of the message from `pos` to `next` are `w`. -/
structure Spans (message : Array UInt8) (pos : Nat) (w : Octets) (next : Nat) : Prop where
  stands : Stands message pos w
  next_eq : next = pos + w.length

variable {message : Array UInt8} {pos mid next : Nat} {a b w : Octets}

namespace Stands

theorem nil_iff : Stands message pos [] ↔ pos ≤ message.size :=
  ⟨fun h => h.le_size, fun h => ⟨h, fun _ hi => (Nat.not_lt_zero _ hi).elim⟩⟩

theorem length_extract {n : Nat} (h : pos + n ≤ message.size) :
    (message.extract pos (pos + n)).toList.length = n := by
  simp
  omega

theorem extract {n : Nat} (h : pos + n ≤ message.size) :
    Stands message pos (message.extract pos (pos + n)).toList := by
  refine ⟨by rw [length_extract h]; exact h, fun i hi => ?_⟩
  rw [length_extract h] at hi
  simp [show pos + i < message.size by omega]

theorem extend (h : Stands message pos w) (rest : Array UInt8) :
    Stands (message ++ rest) pos w := by
  have hle := h.le_size
  refine ⟨by rw [Array.size_append]; omega, fun i hi => ?_⟩
  rw [Array.getElem?_append_left (by omega), h.octet i hi]

end Stands

namespace Spans

theorem le_size (h : Spans message pos w next) : next ≤ message.size :=
  h.next_eq ▸ h.stands.le_size

theorem append_iff :
    Spans message pos (a ++ b) next ↔
      ∃ mid, Spans message pos a mid ∧ Spans message mid b next := by
  constructor
  · rintro ⟨h, rfl⟩
    obtain ⟨ha, hb⟩ := Stands.append_iff.1 h
    exact ⟨_, ⟨ha, rfl⟩, hb, by rw [List.length_append, Nat.add_assoc]⟩
  · rintro ⟨_, ⟨ha, rfl⟩, hb, rfl⟩
    exact ⟨Stands.append_iff.2 ⟨ha, hb⟩, by rw [List.length_append, Nat.add_assoc]⟩

theorem extend (h : Spans message pos w next) (rest : Array UInt8) :
    Spans (message ++ rest) pos w next :=
  ⟨h.stands.extend rest, h.next_eq⟩

/-- What spans from the start of a message is its front. -/
theorem take_eq {octets : Octets} (h : Spans octets.toArray 0 w next) : octets.take next = w := by
  have hextract := h.stands.extract_eq
  rw [Nat.zero_add] at hextract
  rw [h.next_eq, Nat.zero_add, ← hextract]
  simp

end Spans

namespace Decoder

variable {α β : Type} {d : Decoder α} {x : α}

theorem bind_eq_ok_iff {f : α → Decoder β} {y : β} :
    (d >>= f) message pos = .ok y next ↔
      ∃ x mid, d message pos = .ok x mid ∧ f x message mid = .ok y next := by
  rw [bind_apply]
  cases d message pos with
  | ok x mid =>
    constructor
    · exact fun h => ⟨x, mid, rfl, h⟩
    · rintro ⟨_, _, hx, h⟩
      cases hx
      exact h
  | error e mid => exact iff_of_false (fun h => nomatch h) fun ⟨_, _, h, _⟩ => nomatch h

theorem pure_eq_ok_iff {y : α} :
    (pure x : Decoder α) message pos = .ok y next ↔ x = y ∧ pos = next :=
  EStateM.Result.ok.injEq .. ▸ Iff.rfl

theorem ofExcept_eq_ok_iff {e : Except ProtocolError α} :
    ofExcept e message pos = .ok x next ↔ e = .ok x ∧ next = pos := by
  cases e with
  | error e => exact iff_of_false (fun h => nomatch h) fun h => nomatch h.1
  | ok y =>
    rw [ofExcept, pure_eq_ok_iff, Except.ok.injEq]
    exact and_congr_right' eq_comm

/-- A word is read where its octets span. -/
theorem word16_eq_ok_iff {x : UInt16} :
    word16 message pos = .ok x next ↔ Spans message pos (Octets.ofWord16 x) next := by
  constructor
  · intro h
    unfold word16 at h
    split at h
    · next hle =>
      cases h
      rw [Octets.ofWord16_word16]
      refine ⟨Stands.cons_iff.2 ⟨Array.getElem?_eq_getElem (by omega), Stands.cons_iff.2
        ⟨Array.getElem?_eq_getElem (by omega), Stands.nil_iff.2 (by omega)⟩⟩, rfl⟩
    · cases h
  · rintro ⟨h, rfl⟩
    exact Restores.word16 x message pos h

theorem word32_eq_ok_iff {x : UInt32} :
    word32 message pos = .ok x next ↔ Spans message pos (Octets.ofWord32 x) next := by
  constructor
  · intro h
    unfold word32 at h
    split at h
    · next hle =>
      cases h
      rw [Octets.ofWord32_word32]
      refine ⟨Stands.cons_iff.2 ⟨Array.getElem?_eq_getElem (by omega), Stands.cons_iff.2
        ⟨Array.getElem?_eq_getElem (by omega), Stands.cons_iff.2
        ⟨Array.getElem?_eq_getElem (by omega), Stands.cons_iff.2
        ⟨Array.getElem?_eq_getElem (by omega), Stands.nil_iff.2 (by omega)⟩⟩⟩⟩, rfl⟩
    · cases h
  · rintro ⟨h, rfl⟩
    exact Restores.word32 x message pos h

theorem takeOr_eq_ok_iff {n : Nat} {e : ProtocolError} :
    takeOr n e message pos = .ok w next ↔ w.length = n ∧ Spans message pos w next := by
  constructor
  · intro h
    unfold takeOr at h
    split at h
    · next hle =>
      cases h
      have hlen := Stands.length_extract hle
      exact ⟨hlen, Stands.extract hle, by rw [hlen]⟩
    · cases h
  · rintro ⟨rfl, h, rfl⟩
    exact Restores.takeOr message pos h

/-! ## Repetition -/

/-- One value after another is read, from `pos` to `next`. -/
inductive Reads (d : Decoder α) (message : Array UInt8) : Nat → List α → Nat → Prop
  | nil (pos : Nat) : Reads d message pos [] pos
  | cons {pos mid next : Nat} {x : α} {xs : List α} (head : d message pos = .ok x mid)
      (tail : Reads d message mid xs next) : Reads d message pos (x :: xs) next

theorem timesOnto_eq_ok_iff {n : Nat} {done xs : List α} :
    d.timesOnto n done message pos = .ok xs next ↔
      ∃ ys, xs = done.reverse ++ ys ∧ ys.length = n ∧ Reads d message pos ys next := by
  induction n generalizing done pos with
  | zero =>
    rw [timesOnto, pure_eq_ok_iff]
    constructor
    · rintro ⟨rfl, rfl⟩
      exact ⟨[], (List.append_nil _).symm, rfl, .nil _⟩
    · rintro ⟨ys, rfl, hlen, hreads⟩
      obtain rfl := List.length_eq_zero_iff.1 hlen
      cases hreads
      exact ⟨(List.append_nil _).symm, rfl⟩
  | succ n ih =>
    rw [timesOnto, bind_eq_ok_iff]
    constructor
    · rintro ⟨x, mid, hx, h⟩
      obtain ⟨ys, rfl, hlen, hreads⟩ := ih.1 h
      exact ⟨x :: ys, by simp, congrArg (· + 1) hlen, .cons hx hreads⟩
    · rintro ⟨ys, rfl, hlen, hreads⟩
      cases hreads with
      | nil => cases hlen
      | cons hx hreads =>
        exact ⟨_, _, hx, ih.2 ⟨_, by simp, Nat.succ.inj hlen, hreads⟩⟩

/-- A repetition reads so many values in a row. -/
theorem times_eq_ok_iff {n : Nat} {xs : List α} :
    d.times n message pos = .ok xs next ↔ xs.length = n ∧ Reads d message pos xs next := by
  rw [times, timesOnto_eq_ok_iff]
  simp

namespace Reads

variable {xs : List α}

/-- What is read in a row is also read by a decoder, or from a message, that keeps every success. -/
theorem mono {d' : Decoder α} {message' : Array UInt8} (h : Reads d message pos xs next)
    (hkeep : ∀ pos x next, d message pos = .ok x next → d' message' pos = .ok x next) :
    Reads d' message' pos xs next := by
  induction h with
  | nil pos => exact .nil pos
  | cons head _ ih => exact .cons (hkeep _ _ _ head) ih

theorem append {ys : List α} (h : Reads d message pos xs mid) (h' : Reads d message mid ys next) :
    Reads d message pos (xs ++ ys) next := by
  induction h with
  | nil => exact h'
  | cons head _ ih => exact .cons head (ih h')

theorem forall_mem {P : α → Prop} (h : Reads d message pos xs next)
    (hd : ∀ pos x next, d message pos = .ok x next → P x) : ∀ x ∈ xs, P x := by
  induction h with
  | nil => exact List.forall_mem_nil _
  | cons head _ ih => exact List.forall_mem_cons.2 ⟨hd _ _ _ head, ih⟩

theorem le_size (h : Reads d message pos xs next) (hpos : pos ≤ message.size)
    (hd : ∀ pos x next, d message pos = .ok x next → next ≤ message.size) :
    next ≤ message.size := by
  induction h with
  | nil => exact hpos
  | cons head _ ih => exact ih (hd _ _ _ head)

/-- Values that span their written forms do so in a row. -/
theorem spans {write : α → Octets} (h : Reads d message pos xs next) (hpos : pos ≤ message.size)
    (hd : ∀ pos x next, x ∈ xs → d message pos = .ok x next → Spans message pos (write x) next) :
    Spans message pos (xs.flatMap write) next := by
  induction h with
  | nil pos => exact ⟨Stands.nil_iff.2 hpos, rfl⟩
  | cons head _ ih =>
    have hhead := hd _ _ _ (List.mem_cons_self ..) head
    refine Spans.append_iff.2 ⟨_, hhead, ih hhead.le_size fun pos x next hx => ?_⟩
    exact hd pos x next (List.mem_cons_of_mem _ hx)

end Reads

end Decoder

end StubResolver
