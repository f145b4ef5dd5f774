import StubResolver.Proofs.Decoder.Spans
import StubResolver.Proofs.Name.Wire

/-!
# Names that were read

A name is read exactly where it is spelled, and octets put behind the message change nothing in
that. A name that is spelled without a pointer stands there label by label; if it has no upper-case
letters either, these octets are its wire form. Questions and records are names with other octets
behind them (`Followed`).
-/

namespace StubResolver.Name

open Relation

variable {message : Array UInt8} {pos next : Nat} {labels : List Octets} {n : Name}

/-- A name is read where a derivation of its labels stands. -/
theorem decode_eq_ok_iff :
    decode message pos = .ok n next ↔
      Spells message pos (n.rawLabels.reverse.map Label.octets) next := by
  refine ⟨fun h => ?_, decode_of_spells⟩
  unfold decode at h
  cases hread : readAt message pos with
  | error e => simp only [hread] at h; cases h
  | ok reading =>
    simp only [hread] at h
    obtain ⟨labels, hspells, hlabels⟩ := spells_of_readAt hread
    split at h
    · cases h
      rw [List.map_reverse, hlabels, List.reverse_reverse]
      exact hspells
    · cases h

/-- Octets behind the message are none of the name. -/
theorem Spells.extend (h : Spells message pos labels next) (rest : Array UInt8) :
    Spells (message ++ rest) pos labels next := by
  have keep : ∀ {i : Nat} {octet : UInt8}, message[i]? = some octet →
      (message ++ rest)[i]? = some octet := by
    intro i octet hi
    rw [Array.getElem?_append_left (Array.getElem?_eq_some_iff.1 hi).1, hi]
  -- the labels are cut out of the message, and are the same in the longer one
  induction h with
  | root hzero => exact .root (keep hzero)
  | @label pos next length labels hlength hpos hle hstop _ ih =>
    have hstands : Stands message (pos + 1)
        (message.extract (pos + 1) (pos + 1 + length.toNat)).toList := Stands.extract hstop
    have hlen := Stands.length_extract hstop
    have hsame := (hstands.extend rest).extract_eq
    rw [hlen] at hsame
    have hstop' : pos + 1 + length.toNat ≤ (message ++ rest).size := by
      rw [Array.size_append]
      omega
    have := Spells.label (keep hlength) hpos hle hstop' ih
    rwa [hsame] at this
  | pointer hhigh hge hlow _ ih => exact .pointer (keep hhigh) hge (keep hlow) ih

theorem decode_extend (h : decode message pos = .ok n next) (rest : Array UInt8) :
    decode (message ++ rest) pos = .ok n next :=
  decode_eq_ok_iff.2 ((decode_eq_ok_iff.1 h).extend rest)

/-- The name at a place does without pointers: no octet that it leads to begins one. -/
def Unpointed (message : Array UInt8) (pos : Nat) : Prop :=
  ∀ q, ReflTransGen (Leads message) pos q → ∀ octet, message[q]? = some octet → octet.toNat < 192

/-- No upper-case ASCII letter is in the name. -/
def IsLower (n : Name) : Prop :=
  ∀ l ∈ n.rawLabels, ∀ b ∈ l.octets, ¬ (65 ≤ b ∧ b ≤ 90)

/-- Without pointers the labels stand one behind the other. -/
theorem Spells.spans (h : Spells message pos labels next) (hplain : Unpointed message pos) :
    Spans message pos (labels.flatMap (fun l => UInt8.ofNat l.length :: l) ++ [0]) next := by
  induction h with
  | root hzero =>
    have hle := (Array.getElem?_eq_some_iff.1 hzero).1
    exact ⟨Stands.cons_iff.2 ⟨hzero, Stands.nil_iff.2 hle⟩, rfl⟩
  | @label pos next length labels hlength hpos hle hstop _ ih =>
    have hlen := Stands.length_extract hstop
    have hrest := ih fun q hq => hplain q (.head (.label hlength hpos hle) hq)
    rw [List.flatMap_cons, List.append_assoc, hlen, UInt8.ofNat_toNat]
    refine Spans.append_iff.2 ⟨_, ⟨Stands.cons_iff.2 ⟨hlength, Stands.extract hstop⟩, ?_⟩, hrest⟩
    rw [List.length_cons, hlen]
    omega
  | pointer hhigh hge => exact absurd (hplain _ .refl _ hhigh) (Nat.not_lt.2 hge)

theorem IsLower.labels_eq (h : n.IsLower) : n.labels = n.rawLabels := by
  have hlower : ∀ l ∈ n.rawLabels, l.lower = l := by
    intro l hl
    have hoctets : l.octets.map Octets.lowerOctet = l.octets :=
      (List.map_congr_left fun b hb => if_neg (h l hl b hb)).trans (List.map_id _)
    obtain ⟨octets, hle⟩ := l
    simpa [Label.lower] using hoctets
  exact n.labels_eq.trans ((List.map_congr_left hlower).trans (List.map_id _))

theorem IsLower.toWire_eq (h : n.IsLower) :
    n.toWire = (n.rawLabels.reverse.map Label.octets).flatMap
      (fun l => UInt8.ofNat l.length :: l) ++ [0] := by
  rw [toWire, h.labels_eq, List.flatMap_map]
  rfl

/-- **Names without pointers and upper-case letters** are written as they were read. -/
theorem spans_toWire (h : decode message pos = .ok n next) (hplain : Unpointed message pos)
    (hlower : n.IsLower) : Spans message pos n.toWire next := by
  rw [hlower.toWire_eq]
  exact (decode_eq_ok_iff.1 h).spans hplain

/-! ## What stands behind a name -/

/-- The name is read at `pos`, and behind it some octets stand, up to `next`. -/
def Followed (message : Array UInt8) (pos : Nat) (n : Name) (w : Octets) (next : Nat) : Prop :=
  ∃ mid, decode message pos = .ok n mid ∧ Spans message mid w next

namespace Followed

variable {w : Octets}

theorem le_size (h : Followed message pos n w next) : next ≤ message.size := by
  obtain ⟨_, _, hspans⟩ := h
  exact hspans.le_size

theorem extend (h : Followed message pos n w next) (rest : Array UInt8) :
    Followed (message ++ rest) pos n w next := by
  obtain ⟨mid, hname, hspans⟩ := h
  exact ⟨mid, decode_extend hname rest, hspans.extend rest⟩

theorem spans (h : Followed message pos n w next) (hplain : Unpointed message pos)
    (hlower : n.IsLower) : Spans message pos (n.toWire ++ w) next := by
  obtain ⟨mid, hname, hspans⟩ := h
  exact Spans.append_iff.2 ⟨mid, spans_toWire hname hplain hlower, hspans⟩

end Followed

end StubResolver.Name
