import StubResolver.Proofs.Decoder
import StubResolver.Proofs.Name.Grammar

/-!
# Written names

A name is written without pointers, and in lower case. What is read back is `folded`: the name
with its letters in lower case, which is the same name.
-/

namespace StubResolver

theorem Octets.lowerOctet_lowerOctet (b : UInt8) : lowerOctet (lowerOctet b) = lowerOctet b := by
  apply UInt8.toNat_inj.1
  have h := toNat_lowerOctet b
  rw [toNat_lowerOctet (lowerOctet b), if_neg]
  split at h <;> omega

namespace Label

theorem lower_lower (l : Label) : l.lower.lower = l.lower := by
  simp only [lower, List.map_map]
  congr 2
  funext b
  exact Octets.lowerOctet_lowerOctet b

theorem toNat_length (l : Label) : (UInt8.ofNat l.octets.length).toNat = l.octets.length :=
  Octets.toNat_length (Nat.le_trans l.length_le (by decide))

theorem lower_octets_ne_nil {l : Label} (h : l.octets ≠ []) : l.lower.octets ≠ [] := by
  simpa [lower] using h

end Label

namespace Name

theorem length_labels (n : Name) : n.labels.length = n.rawLabels.length := by
  rw [labels_eq, List.length_map]

theorem labels_ne_nil {n : Name} : ∀ l ∈ n.labels, l.octets ≠ [] := by
  rw [labels_eq]
  exact List.forall_mem_map.2 fun l hl => Label.lower_octets_ne_nil (n.nonempty l hl)

/-- The name with its letters in lower case. -/
def folded (n : Name) : Name :=
  ofLabels n.labels (n.length_labels ▸ n.count_le) labels_ne_nil

@[simp] theorem rawLabels_folded (n : Name) : n.folded.rawLabels = n.labels :=
  rawLabels_ofLabels _ _

@[simp] theorem labels_folded (n : Name) : n.folded.labels = n.labels := by
  rw [labels_eq, rawLabels_folded, labels_eq]
  simp [Function.comp_def, Label.lower_lower]

@[simp] theorem toWire_folded (n : Name) : n.folded.toWire = n.toWire := by
  unfold toWire
  rw [labels_folded]

theorem same_iff {a b : Name} : a.same b = true ↔ a.labels = b.labels := by
  unfold same
  exact beq_iff_eq

theorem same_folded (n : Name) : n.folded.same n = true :=
  same_iff.2 n.labels_folded

/-- The same names are written alike. -/
theorem toWire_eq_of_same {a b : Name} (h : a.same b = true) : a.toWire = b.toWire := by
  unfold toWire
  rw [same_iff.1 h]

/-- Labels behind their lengths and a zero octet are a derivation: no length is that of a pointer,
and none is zero. -/
theorem spells_of_stands {message : Array UInt8} {pos : Nat} {ls : List Label}
    (hne : ∀ l ∈ ls, l.octets ≠ []) (h : Stands message pos (ls.flatMap Label.toWire ++ [0])) :
    Spells message pos (ls.map Label.octets) (pos + (ls.flatMap Label.toWire ++ [0]).length) := by
  induction ls generalizing pos with
  | nil => exact .root (Stands.cons_iff.1 h).1
  | cons l ls ih =>
    rw [List.flatMap_cons, List.append_assoc, Label.toWire] at h ⊢
    obtain ⟨hlength, h⟩ := Stands.cons_iff.1 h
    obtain ⟨hoctets, hrest⟩ := Stands.append_iff.1 h
    have hle := l.length_le
    have hpos := List.length_pos_iff.2 (hne l (List.mem_cons_self ..))
    have hnat := l.toNat_length
    have hstop := hoctets.le_size
    have hextract := hoctets.extract_eq
    have htail := ih (fun x hx => hne x (List.mem_cons_of_mem _ hx)) hrest
    rw [← hnat] at hpos hle hstop hextract htail
    have := Spells.label hlength hpos hle hstop htail
    rw [hextract, hnat] at this
    rw [List.cons_append, List.length_cons, List.length_append, Nat.add_comm _ 1, ← Nat.add_assoc,
      ← Nat.add_assoc]
    exact this

theorem spells_toWire {message : Array UInt8} {pos : Nat} {n : Name}
    (h : Stands message pos n.toWire) :
    Spells message pos (n.labels.reverse.map Label.octets) (pos + n.toWire.length) :=
  spells_of_stands (fun l hl => labels_ne_nil l (List.mem_reverse.1 hl)) h

/-- The reader finds the name of a derivation, and goes on behind it. -/
theorem decode_of_spells {message : Array UInt8} {pos next : Nat} {n : Name}
    (h : Spells message pos (n.rawLabels.reverse.map Label.octets) next) :
    decode message pos = .ok n next := by
  unfold decode
  rw [readAt_of_spells h (by rw [← List.map_reverse, List.reverse_reverse])]
  exact if_pos h.next_bounds.2

/-- **Names.** A written name is read back in lower case. -/
theorem restores_toWire (n : Name) : decode.Restores n.toWire n.folded := by
  intro message pos h
  refine decode_of_spells ?_
  rw [rawLabels_folded]
  exact spells_toWire h

end Name

end StubResolver
