import StubResolver.Proofs.Decoder.Advance
import StubResolver.Proofs.Message.RoundTrip
import StubResolver.Proofs.Message.Stepwise

/-!
# Why a message cannot be read

A message that cannot be read is malformed, with one exception: a name of too many labels is refused
with the error that callers get for such a name of their own, and that one does not count as
malformed.

1. Names fail in one of these two ways (`FaultOf`), by induction along the reader
   (`Name.readFrom_error`).
2. So does every other step of the reading, and steps in a row do, hence all of it
   (`FailsByFault.stepwise`).
3. Any label beyond the 128th leads to the exception (`ofWire_of_crowded`).
-/

namespace StubResolver

open Decoder

variable {α β : Type} {message : Array UInt8} {pos next : Nat} {e : ProtocolError}

/-- The error counts as one of the message, or some name in the message has too many labels. -/
def FaultOf (message : Array UInt8) (e : ProtocolError) : Prop :=
  e.isMalformed = true ∨
    e = .tooManyLabels 129 ∧ ∃ pos, Name.readAt message pos = .error e

namespace Decoder

variable {d : Decoder α} {f : α → Decoder β}

/-- Steps in a row fail exactly if the first does, or the second behind it. -/
theorem bind_eq_error_iff :
    (d >>= f) message pos = .error e next ↔
      d message pos = .error e next ∨
        ∃ a mid, d message pos = .ok a mid ∧ f a message mid = .error e next := by
  rw [bind_apply]
  cases d message pos with
  | ok a mid =>
    constructor
    · intro h
      exact .inr ⟨a, mid, rfl, h⟩
    · rintro (h | ⟨_, _, ha, h⟩)
      · cases h
      · cases ha
        exact h
  | error e' mid =>
    constructor
    · intro h
      cases h
      exact .inl rfl
    · rintro (h | ⟨_, _, ha, _⟩)
      · cases h
        rfl
      · cases ha

/-- Whatever fails in the decoder is the fault of the message. -/
def FailsByFault (d : Decoder α) : Prop :=
  ∀ message pos e next, d message pos = .error e next → FaultOf message e

theorem Takes.failsByFault {n : Nat} {shows : α → Octets → Prop} (h : Takes d n shows) :
    d.FailsByFault := by
  intro message pos e next herror
  by_cases hn : pos + n ≤ message.size
  · obtain ⟨a, hread, -⟩ := h.ok message pos hn
    rw [hread] at herror
    cases herror
  · rw [h.error message pos (Nat.not_le.1 hn)] at herror
    cases herror
    exact .inl rfl

end Decoder

/-! ## Names -/

namespace Name

theorem readFrom_error {read : List Label} {visited : Targets} {resume : Option Nat}
    (h : readFrom message pos read visited resume = .error e) :
    e.isMalformed = true ∨ e = .tooManyLabels 129 := by
  fun_induction readFrom message pos read visited resume
  case case1 => cases h
  case case2 =>
    -- the 129th label
    cases h
    exact .inr rfl
  case case3 ih => exact ih h
  case case7 ih => exact ih h
  case case4 | case5 | case6 | case8 | case9 =>
    cases h
    exact .inl rfl

theorem failsByFault_decode : decode.FailsByFault := by
  intro message pos e next h
  unfold decode at h
  cases hread : readAt message pos with
  | ok reading =>
    rw [hread] at h
    dsimp only at h
    split at h
    · cases h
    · cases h
      exact .inl rfl
  | error e' =>
    rw [hread] at h
    cases h
    rcases readFrom_error (readAt_eq_error_iff.1 hread) with he | rfl
    · exact .inl he
    · exact .inr ⟨rfl, pos, hread⟩

end Name

/-! ## Steps in a row -/

theorem Decoder.FailsByFault.stepwise : Stepwise FailsByFault where
  look _ _ _ _ _ h := by cases h
  raise he _ _ _ _ h := by
    cases h
    exact .inl he
  takeOr he _ _ _ _ h := by
    unfold Decoder.takeOr at h
    split at h
    · cases h
    · cases h
      exact .inl he
  word16 := Takes.word16.failsByFault
  word32 := Takes.word32.failsByFault
  name := Name.failsByFault_decode
  bind hd hf message pos e next h := by
    rcases bind_eq_error_iff.1 h with h | ⟨a, mid, _, h⟩
    · exact hd message pos e next h
    · exact hf a message mid e next h

/-! ## Messages -/

namespace Message

theorem ofWire_eq_error_iff {w : Octets} {time : Int64} :
    ofWire w time = .error e ↔ ∃ next, decode w.toArray 0 = .error e next := by
  unfold ofWire ofArray valueAt
  cases decode w.toArray 0 with
  | ok m next => exact iff_of_false (fun h => nomatch h) fun ⟨_, h⟩ => nomatch h
  | error e' next =>
    constructor
    · intro h
      cases h
      exact ⟨next, rfl⟩
    · rintro ⟨_, h⟩
      cases h
      rfl

/-- A first question whose name is spelt out in too many labels makes a message unreadable, and that
is the error. -/
theorem ofWire_of_crowded {hd : Header} (hflags : hd.FlagsDefined) (hcount : hd.questionCount ≠ 0)
    {ls : List Label} (hne : ∀ l ∈ ls, l.octets ≠ []) (hlen : 128 < ls.length) (rest : Octets)
    (time : Int64) :
    ofWire (hd.toWire ++ (ls.flatMap Label.toWire ++ [0] ++ rest)) time =
      .error (.tooManyLabels 129) := by
  have hfront := Stands.front (hd.toWire ++ (ls.flatMap Label.toWire ++ [0])) rest
  rw [List.append_assoc] at hfront
  generalize hmessage : (hd.toWire ++ (ls.flatMap Label.toWire ++ [0] ++ rest)).toArray = message
    at hfront
  obtain ⟨hheader, hlabels⟩ := Stands.append_iff.1 hfront
  have hread := Header.restores_toWire hflags _ _ hheader
  have hspells := Name.spells_of_stands hne hlabels
  have hname : Name.readAt message (0 + hd.toWire.length) = .error (.tooManyLabels 129) :=
    Name.readAt_of_spells_long hspells (by rwa [List.length_map])
  have hquestion : Question.decode message (0 + hd.toWire.length) =
      .error (.tooManyLabels 129) (0 + hd.toWire.length) := by
    refine bind_eq_error_iff.2 (.inl ?_)
    unfold Name.decode
    rw [hname]
  obtain ⟨n, hn⟩ : ∃ n, hd.questionCount.toNat = n + 1 := by
    refine Nat.exists_eq_succ_of_ne_zero fun h => hcount ?_
    exact UInt16.toNat_inj.1 h
  have hquestions : Question.decode.times (n + 1) message (0 + hd.toWire.length) =
      .error (.tooManyLabels 129) (0 + hd.toWire.length) :=
    bind_eq_error_iff.2 (.inl hquestion)
  refine ofWire_eq_error_iff.2 ⟨0 + hd.toWire.length, ?_⟩
  rw [hmessage]
  unfold decode
  refine bind_eq_error_iff.2 (.inr ⟨_, _, hread, bind_eq_error_iff.2 (.inl ?_)⟩)
  show Question.decode.times hd.questionCount.toNat message _ = _
  rw [hn]
  exact hquestions

/-- A query for a name of 129 labels, one letter each. -/
def crowdedQuery : Octets :=
  { Header.ofId 0 with questionCount := 1 }.toWire ++
    ((List.replicate 129 (Label.mk [97] (by decide))).flatMap Label.toWire ++ [0] ++ [0, 1, 0, 1])

theorem ofWire_crowdedQuery (time : Int64) :
    ofWire crowdedQuery time = .error (.tooManyLabels 129) := by
  refine ofWire_of_crowded (by decide) (by decide) ?_ ?_ [0, 1, 0, 1] time
  · intro l hl
    rw [List.eq_of_mem_replicate hl]
    exact List.cons_ne_nil _ _
  · rw [List.length_replicate]
    decide

/-- Not all that is unreadable counts as malformed. -/
theorem crowdedQuery_not_malformed :
    ∃ e, ofWire crowdedQuery 0 = .error e ∧ e.isMalformed = false :=
  ⟨_, ofWire_crowdedQuery 0, rfl⟩

/-- **Failures.** A message that cannot be read counts as malformed, unless the error is that a name
has too many labels; and then some name in the message has. -/
theorem isMalformed_iff_of_ofWire_error {w : Octets} {time : Int64}
    (h : ofWire w time = .error e) :
    (e.isMalformed = true ↔ e ≠ .tooManyLabels 129) ∧
      (e = .tooManyLabels 129 → ∃ pos, Name.readAt w.toArray pos = .error e) := by
  obtain ⟨next, hread⟩ := ofWire_eq_error_iff.1 h
  rcases FailsByFault.stepwise.message _ _ _ _ hread with he | ⟨rfl, hname⟩
  · have hne : e ≠ .tooManyLabels 129 := by
      rintro rfl
      cases he
    exact ⟨iff_of_true he hne, fun h => absurd h hne⟩
  · exact ⟨iff_of_false (fun he => nomatch he) fun hne => hne rfl, fun _ => hname⟩

/-- A message of no octets, and one with a name of too many labels. -/
theorem isMalformed_iff_empty_and_crowdedQuery :
    ofWire [] 0 = .error (.bufferTooShort 12 0) ∧
      (ProtocolError.bufferTooShort 12 0).isMalformed = true ∧
      ofWire crowdedQuery 0 = .error (.tooManyLabels 129) ∧
      ∃ pos, Name.readAt crowdedQuery.toArray pos = .error (.tooManyLabels 129) := by
  have hempty : ofWire [] 0 = .error (.bufferTooShort 12 0) := rfl
  have hcrowded := ofWire_crowdedQuery 0
  refine ⟨hempty, (isMalformed_iff_of_ofWire_error hempty).1.2 (by decide), hcrowded, ?_⟩
  exact (isMalformed_iff_of_ofWire_error hcrowded).2 rfl

end Message

end StubResolver
