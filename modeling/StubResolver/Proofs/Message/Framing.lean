import Mathlib.Algebra.Group.Action.Defs
import Mathlib.Algebra.Order.BigOperators.Group.List
import StubResolver.Proofs.Cache.Key
import StubResolver.Proofs.Message.Sizes

/-!
# Framed messages

A frame is a message behind its length in two octets (`Framed`), and what is too long for that is
refused. Names are not kept to 255 octets, but they have at most 128 labels of at most 63 octets
each. What else a query carries takes 27 octets, so every query can be framed, and is found in its
frame.
-/

namespace StubResolver

/-! ## Frames -/

/-- The frame is the octets behind their length, which has its high octet first. -/
def Framed (w f : Octets) : Prop :=
  ∃ high low : UInt8, f = high :: low :: w ∧ 0x100 * high.toNat + low.toNat = w.length

variable {w f : Octets} {e : ProtocolError}

theorem frame_of_fits (h : w.length ≤ 65535) :
    frame w = .ok (Octets.ofWord16 (UInt16.ofNat w.length) ++ w) :=
  if_pos (Nat.lt_succ_of_le h)

theorem frame_of_exceeds (h : 65535 < w.length) : frame w = .error (.frameTooLong w.length) :=
  if_neg (Nat.not_lt.2 h)

theorem framed_ofWord16 (h : w.length ≤ 65535) :
    Framed w (Octets.ofWord16 (UInt16.ofNat w.length) ++ w) := by
  refine ⟨_, _, rfl, ?_⟩
  simp only [UInt8.toNat_ofNat', UInt16.toNat_ofNat']
  omega

theorem Framed.drop_eq (h : Framed w f) : f.drop 2 = w := by
  obtain ⟨high, low, rfl, -⟩ := h
  rfl

theorem exists_frame_error_iff : (∃ e, frame w = .error e) ↔ 65535 < w.length := by
  constructor
  · rintro ⟨e, h⟩
    by_contra hfits
    rw [frame_of_fits (Nat.not_lt.1 hfits)] at h
    cases h
  · intro h
    exact ⟨_, frame_of_exceeds h⟩

theorem eq_of_frame_error (h : frame w = .error e) : e = .frameTooLong w.length := by
  rw [frame_of_exceeds (exists_frame_error_iff.1 ⟨e, h⟩)] at h
  cases h
  rfl

/-! ## Lengths of names and queries -/

/-- No name is longer than 128 labels of 63 octets behind their lengths, and the root. -/
theorem Name.length_toWire_le (n : Name) : n.toWire.length ≤ 8193 := by
  have hlabel : ∀ x ∈ n.labels.map fun l => l.octets.length + 1, x ≤ 64 := by
    intro x hx
    obtain ⟨l, -, rfl⟩ := List.mem_map.1 hx
    exact Nat.succ_le_succ l.length_le
  have hsum := List.sum_le_card_nsmul _ 64 hlabel
  have hcount : n.labels.length ≤ 128 := n.length_labels ▸ n.count_le
  rw [List.length_map, smul_eq_mul] at hsum
  rw [length_toWire]
  omega

namespace Message

/-- Header, type, class and OPT record of a query take 27 octets. -/
theorem length_toWire_query (id : UInt16) (q : Question) (size : UInt16) :
    (query id q size).toWire.length = q.name.toWire.length + 27 := by
  have hquestion : q.toWire.length = q.name.toWire.length + 4 := by
    simp only [Question.toWire, List.length_append, Octets.length_ofWord16]
  have hopt : (Edns.ofSize size).toRecord.toWire.length = 11 := rfl
  have hquestions : (query id q size).questions = [q] := rfl
  have hheader : Header.size = 12 := rfl
  simp only [length_toWire, hquestions, records_query, List.map_cons, List.map_nil, List.sum_cons,
    List.sum_nil, hquestion, hopt, hheader]
  omega

theorem length_toWire_query_le (id : UInt16) (q : Question) (size : UInt16) :
    (query id q size).toWire.length ≤ 8220 := by
  have hname := q.name.length_toWire_le
  rw [length_toWire_query]
  omega

/-- **Framing.** No query is longer than 8220 octets, so every query has a frame, of which what is
behind the length is read back as the query. Any message has a frame unless it is longer than the
length can say. -/
theorem framed_query :
    (∀ (id : UInt16) (q : Question) (size : UInt16),
      (query id q size).toWire.length ≤ 8220 ∧
        ∃ f, frame (query id q size).toWire = .ok f ∧ (query id q size).toFrame = .ok f ∧
          Framed (query id q size).toWire f ∧
          ∀ time, ∃ back, ofWire (f.drop 2) time = .ok back ∧
            Restored (query id q size) time back) ∧
      ∀ m : Message, ((∃ e, m.toFrame = .error e) ↔ 65535 < m.toWire.length) ∧
        ∀ e, m.toFrame = .error e → e = .frameTooLong m.toWire.length := by
  refine ⟨fun id q size => ?_, fun m => ⟨exists_frame_error_iff, fun e => eq_of_frame_error⟩⟩
  have hlen := length_toWire_query_le id q size
  have hfits : (query id q size).toWire.length ≤ 65535 := Nat.le_trans hlen (by decide)
  have hframed := framed_ofWord16 hfits
  have hwritable := writable_query id q size
  refine ⟨hlen, _, frame_of_fits hfits, frame_of_fits hfits, hframed, fun time => ?_⟩
  rw [hframed.drop_eq]
  exact ⟨_, hwritable.ofWire_toWire time, hwritable.restored rfl time⟩

end Message

end StubResolver
