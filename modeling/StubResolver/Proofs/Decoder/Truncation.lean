import StubResolver.Proofs.Decoder

/-!
# Octets that are cut short

`Cut` says that a message ends within some octets. A decoder `Breaks` on octets if it fails on every
message that ends within them, and counts the message as malformed. Like `Restores`, this follows
the shape of what is written: the cut falls into the first octets, or into those behind them.
-/

namespace StubResolver

/-- The message has the first `n` of some octets from `pos` on, and ends before the rest. -/
structure Cut (message : Array UInt8) (pos : Nat) (w : Octets) (n : Nat) : Prop where
  short : n < w.length
  stands : Stands message pos (w.take n)
  size_eq : message.size = pos + n

namespace Cut

variable {message : Array UInt8} {pos n : Nat} {a b w : Octets}

/-- The cut is within the first octets, or these stand and the cut is within the others. -/
theorem append_cases (h : Cut message pos (a ++ b) n) :
    Cut message pos a n ∨
      Stands message pos a ∧ ∃ k, Cut message (pos + a.length) b k := by
  obtain ⟨hshort, hstands, hsize⟩ := h
  rw [List.length_append] at hshort
  rw [List.take_append] at hstands
  by_cases hn : n < a.length
  · rw [Nat.sub_eq_zero_of_le (Nat.le_of_lt hn), List.take_zero, List.append_nil] at hstands
    exact .inl ⟨hn, hstands, hsize⟩
  · rw [List.take_of_length_le (by omega)] at hstands
    obtain ⟨ha, hb⟩ := Stands.append_iff.1 hstands
    exact .inr ⟨ha, n - a.length, by omega, hb, by omega⟩

theorem size_lt (h : Cut message pos w n) : message.size < pos + w.length := by
  have hshort := h.short
  have hsize := h.size_eq
  omega

/-- A strict prefix is a message that is cut. -/
theorem of_isPrefix {p : Octets} (h : p <+: w) (hne : p ≠ w) : Cut p.toArray 0 w p.length where
  short := Nat.lt_of_le_of_ne h.length_le fun hlen => hne (h.eq_of_length hlen)
  stands := by
    rw [← List.prefix_iff_eq_take.1 h]
    simpa using Stands.front p []
  size_eq := by simp

end Cut

namespace Decoder

variable {α β : Type} {d : Decoder α} {f : α → Decoder β} {message : Array UInt8} {pos : Nat}
  {a : α} {w v : Octets}

/-- The reading fails for the message's sake. -/
def Fails (d : Decoder α) (message : Array UInt8) (pos : Nat) : Prop :=
  ∃ e next, d message pos = .error e next ∧ e.isMalformed = true

theorem Fails.bind (h : d.Fails message pos) : (d >>= f).Fails message pos := by
  obtain ⟨e, next, hd, he⟩ := h
  exact ⟨e, next, by rw [bind_apply, hd], he⟩

theorem Fails.of_bind {next : Nat} (hd : d message pos = .ok a next)
    (h : (f a).Fails message next) : (d >>= f).Fails message pos := by
  obtain ⟨e, next', hf, he⟩ := h
  exact ⟨e, next', by rw [bind_apply, hd]; exact hf, he⟩

/-- The decoder fails on every message that ends within the octets. -/
def Breaks (d : Decoder α) (w : Octets) : Prop :=
  ∀ message pos n, Cut message pos w n → d.Fails message pos

namespace Breaks

/-- The first decoder breaks, or it reads its octets and the second one breaks. -/
theorem bind (hread : d.Restores w a) (hd : d.Breaks w) (hf : (f a).Breaks v) :
    (d >>= f).Breaks (w ++ v) := by
  intro message pos n h
  rcases h.append_cases with h | ⟨hstands, k, h⟩
  · exact (hd message pos n h).bind
  · exact .of_bind (hread message pos hstands) (hf message _ k h)

/-- What follows the last octets is not reached. -/
theorem bind_end (hd : d.Breaks w) : (d >>= f).Breaks w :=
  fun message pos n h => (hd message pos n h).bind

/-- A step that consumes nothing leaves the octets to what follows it. -/
theorem bind_silent (hd : ∀ message pos, ∃ a, d message pos = .ok a pos ∧ (f a).Breaks w) :
    (d >>= f).Breaks w := by
  intro message pos n h
  obtain ⟨a, ha, hf⟩ := hd message pos
  exact .of_bind ha (hf message pos n h)

theorem nil : d.Breaks [] :=
  fun _ _ _ h => (Nat.not_lt_zero _ h.short).elim

theorem word16 (x : UInt16) : Decoder.word16.Breaks (Octets.ofWord16 x) := by
  intro message pos n h
  have hsize : ¬ pos + 2 ≤ message.size := Nat.not_le.2 h.size_lt
  exact ⟨_, pos, dif_neg hsize, rfl⟩

theorem word32 (x : UInt32) : Decoder.word32.Breaks (Octets.ofWord32 x) := by
  intro message pos n h
  have hsize : ¬ pos + 4 ≤ message.size := Nat.not_le.2 h.size_lt
  exact ⟨_, pos, dif_neg hsize, rfl⟩

theorem takeOr {e : ProtocolError} (he : e.isMalformed = true) :
    (takeOr w.length e).Breaks w := by
  intro message pos n h
  exact ⟨e, pos, if_neg (Nat.not_le.2 h.size_lt), he⟩

/-- A repetition breaks on values written in a row: those before the cut are read. -/
theorem timesOnto {γ : Type} {write : γ → Octets} {back : γ → α} {xs : List γ} (done : List α)
    (hread : ∀ x ∈ xs, d.Restores (write x) (back x)) (hd : ∀ x ∈ xs, d.Breaks (write x)) :
    (d.timesOnto xs.length done).Breaks (xs.flatMap write) := by
  induction xs generalizing done with
  | nil => exact nil
  | cons x xs ih =>
    rw [List.flatMap_cons]
    refine bind (hread x (List.mem_cons_self ..)) (hd x (List.mem_cons_self ..)) ?_
    exact ih _ (fun y hy => hread y (List.mem_cons_of_mem _ hy))
      fun y hy => hd y (List.mem_cons_of_mem _ hy)

theorem times {γ : Type} {write : γ → Octets} {back : γ → α} {xs : List γ} {n : Nat}
    (hn : n = xs.length) (hread : ∀ x ∈ xs, d.Restores (write x) (back x))
    (hd : ∀ x ∈ xs, d.Breaks (write x)) : (d.times n).Breaks (xs.flatMap write) := by
  subst hn
  exact timesOnto [] hread hd

end Breaks

end Decoder

end StubResolver
