import Mathlib.Algebra.GroupWithZero.Nat
import Mathlib.Data.String.Basic
import StubResolver.Message.Wire
import StubResolver.Proofs.Header
import StubResolver.Proofs.Name.ReadBack
import StubResolver.Proofs.RData

/-!
# Size estimates

The estimate for a name is taken from its text, while the octets of its labels are written. A
graphic octet takes one octet in the text, and a substitute takes at least two. So no estimate is
too small (`Estimates`), and one is too large exactly if some label has an octet that is not
graphic. What else is in a record or message is counted exactly.
-/

namespace StubResolver

open String (utf8Len utf8Len_append utf8Len_cons)

/-- An estimate is not below the size, and agrees with it exactly under a condition. -/
structure Estimates (estimate size : Nat) (exact : Prop) : Prop where
  le : size ≤ estimate
  eq_iff : size = estimate ↔ exact

namespace Estimates

variable {a b x y : Nat} {P Q : Prop}

theorem refl (n : Nat) : Estimates n n True :=
  ⟨Nat.le_refl n, iff_of_true rfl trivial⟩

theorem add (h : Estimates a x P) (k : Estimates b y Q) : Estimates (a + b) (x + y) (P ∧ Q) := by
  refine ⟨Nat.add_le_add h.le k.le, ?_⟩
  rw [← h.eq_iff, ← k.eq_iff]
  have := h.le
  have := k.le
  omega

theorem add_right (h : Estimates a x P) (n : Nat) : Estimates (a + n) (x + n) P := by
  simpa using h.add (refl n)

/-- Estimates of the members of a list add up. -/
theorem sum {α : Type} {f g : α → Nat} {P : α → Prop} {xs : List α}
    (h : ∀ x ∈ xs, Estimates (f x) (g x) (P x)) :
    Estimates (xs.map f).sum (xs.map g).sum (∀ x ∈ xs, P x) := by
  induction xs with
  | nil => simpa using refl 0
  | cons x xs ih =>
    rw [List.forall_mem_cons] at h ⊢
    simpa using h.1.add (ih h.2)

end Estimates

/-! ## Labels and names -/

theorem utf8Len_flatMap {α : Type} (f : α → List Char) (xs : List α) :
    utf8Len (xs.flatMap f) = (xs.map fun x => utf8Len (f x)).sum := by
  induction xs with
  | nil => rfl
  | cons x xs ih => rw [List.flatMap_cons, utf8Len_append, ih, List.map_cons, List.sum_cons]

/-- Parts and the dots between them take one octet less than parts with a dot each. -/
theorem utf8Len_intercalate_dot {parts : List (List Char)} (h : parts ≠ []) :
    utf8Len (['.'].intercalate parts) + 1 = (parts.map fun p => utf8Len p + 1).sum := by
  induction parts with
  | nil => exact absurd rfl h
  | cons p parts ih =>
    cases parts with
    | nil => simp
    | cons q parts =>
      have hdot : utf8Len ['.'] = 1 := rfl
      rw [List.intercalate_cons_cons, utf8Len_append, utf8Len_append, hdot, Nat.add_assoc,
        ih (List.cons_ne_nil _ _)]
      simp only [List.map_cons, List.sum_cons]

namespace Label

theorem Shown.estimates {b : UInt8} {cs : List Char} (h : Shown b cs) :
    Estimates (utf8Len cs) 1 (Graphic b) := by
  by_cases hb : Graphic b
  · have hone : utf8Len cs = 1 := by
      have hlt := graphic_iff.1 hb
      rw [h.eq_of_graphic hb, utf8Len_cons, String.utf8Len_nil, Nat.zero_add,
        Char.utf8Size_eq_one_iff, UInt32.le_iff_toNat_le]
      show (Char.ofNat b.toNat).toNat ≤ 127
      rw [toNat_charOfNat_octet]
      omega
    exact ⟨hone.ge, iff_of_true hone.symm hb⟩
  · obtain ⟨c, rest, rfl, hwide⟩ := h.head hb
    have hle : c.utf8Size ≤ utf8Len (c :: rest) := by
      rw [utf8Len_cons]
      omega
    have hsize : c.utf8Size ≠ 1 := by
      rw [Ne, Char.utf8Size_eq_one_iff, UInt32.le_iff_toNat_le]
      show ¬ c.toNat ≤ 127
      omega
    have := c.utf8Size_pos
    exact ⟨by omega, iff_of_false (by omega) hb⟩

theorem estimates (l : Label) : Estimates (utf8Len l.safeChars) l.octets.length l.IsGraphic := by
  have hlength : l.octets.length = (l.octets.map fun _ => 1).sum := by simp
  rw [safeChars_eq_flatMap, utf8Len_flatMap, hlength]
  exact Estimates.sum fun b _ => (shown_safeOctet b).estimates

end Label

namespace Name

/-- A name that is not the root has one octet more than its labels with a length octet each. -/
theorem sizeEstimate_eq {n : Name} (h : n.labels ≠ []) :
    n.sizeEstimate = (n.labels.map fun l => utf8Len l.safeChars + 1).sum + 1 := by
  have hroot : ¬ n.isRoot = true := fun hroot => h (List.isEmpty_iff.1 hroot)
  have hparts : n.labels.reverse.map Label.safeChars ≠ [] := by simpa using h
  rw [sizeEstimate, if_neg hroot, ace_eq, String.utf8ByteSize_ofList, dotted_eq_intercalate h,
    ← Nat.add_assoc _ 1 1, utf8Len_intercalate_dot hparts, List.map_map]
  exact congrArg (· + 1) ((n.labels.reverse_perm.map _).sum_nat)

theorem length_toWire (n : Name) :
    n.toWire.length = (n.labels.map fun l => l.octets.length + 1).sum + 1 := by
  rw [toWire, List.length_append, List.length_flatMap]
  exact congrArg (· + 1) ((n.labels.reverse_perm.map _).sum_nat)

theorem estimates (n : Name) :
    Estimates n.sizeEstimate n.toWire.length (AllGraphic n.rawLabels) := by
  rw [← graphic_labels_iff]
  by_cases h : n.labels = []
  · have hn : n = root := rawLabels_eq_nil_iff.1 (List.map_eq_nil_iff.1 (n.labels_eq ▸ h))
    rw [hn]
    exact ⟨Nat.le_refl 1, iff_of_true rfl (by decide)⟩
  · rw [sizeEstimate_eq h, length_toWire]
    exact (Estimates.sum fun l _ => l.estimates.add_right 1).add_right 1

/-- A dot in a label takes three octets in the text and one on the wire. -/
example : (Name.ofLabels [⟨[46], by decide⟩] (by decide) (by decide)).sizeEstimate = 5 ∧
    (Name.ofLabels [⟨[46], by decide⟩] (by decide) (by decide)).toWire = [1, 46, 0] := by
  decide

end Name

/-! ## Questions, records and messages -/

theorem Question.estimates (q : Question) :
    Estimates (q.name.sizeEstimate + 4) q.toWire.length (Name.AllGraphic q.name.rawLabels) := by
  have hlength : q.toWire.length = q.name.toWire.length + 4 := by
    simp only [toWire, List.length_append, Octets.length_ofWord16]
  rw [hlength]
  exact q.name.estimates.add_right 4

theorem Record.estimates (r : Record) :
    Estimates r.sizeEstimate r.toWire.length (Name.AllGraphic r.name.rawLabels) := by
  have hlength : r.toWire.length = r.name.toWire.length + 10 + r.rdata.wireLength := by
    simp only [toWire, List.length_append, Octets.length_ofWord16, Octets.length_ofWord32,
      RData.length_toWire]
  rw [hlength]
  exact (r.name.estimates.add_right 10).add_right _

namespace Message

theorem sizeEstimate_eq (m : Message) :
    m.sizeEstimate = (m.questions.map fun q => q.name.sizeEstimate + 4).sum +
      (m.records.map Record.sizeEstimate).sum + Header.size := by
  rw [sizeEstimate, List.sum_eq_foldr, List.sum_eq_foldr, List.foldr_map, List.foldr_map,
    Nat.add_assoc, Nat.add_comm]

theorem length_toWire (m : Message) :
    m.toWire.length = (m.questions.map fun q => q.toWire.length).sum +
      (m.records.map fun r => r.toWire.length).sum + Header.size := by
  rw [toWire, List.length_append, List.length_append, Header.length_toWire, List.length_flatMap,
    List.length_flatMap, Nat.add_assoc, Nat.add_comm]

/-- **No estimate is too small.** A message is at most as long on the wire as is estimated, and just
as long exactly if all octets in the labels of its questions and records are graphic. The same holds
for a record by itself, whose payload is always as long as is said. -/
theorem sizes_estimated :
    (∀ m : Message, m.toWire.length ≤ m.sizeEstimate ∧
      (m.toWire.length = m.sizeEstimate ↔
        (∀ q ∈ m.questions, ∀ l ∈ q.name.rawLabels, ∀ b ∈ l.octets, Label.Graphic b) ∧
          ∀ r ∈ m.records, ∀ l ∈ r.name.rawLabels, ∀ b ∈ l.octets, Label.Graphic b)) ∧
      ∀ r : Record, r.toWire.length ≤ r.sizeEstimate ∧
        (r.toWire.length = r.sizeEstimate ↔
          ∀ l ∈ r.name.rawLabels, ∀ b ∈ l.octets, Label.Graphic b) ∧
        r.rdata.toWire.length = r.rdata.wireLength := by
  refine ⟨fun m => ?_, fun r => ⟨r.estimates.le, r.estimates.eq_iff, r.rdata.length_toWire⟩⟩
  have hquestions := Estimates.sum fun q (_ : q ∈ m.questions) => q.estimates
  have hrecords := Estimates.sum fun r (_ : r ∈ m.records) => r.estimates
  have h := (hquestions.add hrecords).add_right Header.size
  rw [sizeEstimate_eq, length_toWire]
  exact ⟨h.le, h.eq_iff⟩

end Message

end StubResolver
