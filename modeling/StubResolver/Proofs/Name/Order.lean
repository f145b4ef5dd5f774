import Mathlib.Data.List.Dedup
import Mathlib.Data.List.Destutter
import Mathlib.Data.List.Forall2
import StubResolver.Proofs.Name.Dotted

/-!
# The order of names

Names are compared by their lower-case texts and are the same by their lower-case labels. The text
determines the labels, so the order is one of names up to case: names are equal in it exactly if
they are the same, which is also when a hash function is fed alike for both. A sorted list therefore
has the same names side by side, and it makes no difference which of the two tells them apart.
-/

namespace StubResolver

theorem forall₂_eq_iff {α β : Type} {f : α → β} {xs ys : List α} :
    List.Forall₂ (fun x y => f x = f y) xs ys ↔ xs.map f = ys.map f := by
  rw [← List.forall₂_eq_eq_eq, List.forall₂_map_left_iff, List.forall₂_map_right_iff]

/-- The octets are the same one by one, up to the case of ASCII letters. -/
def Label.Alike (l m : Label) : Prop :=
  List.Forall₂ (fun x y => Octets.lowerOctet x = Octets.lowerOctet y) l.octets m.octets

theorem Label.alike_iff {l m : Label} : l.Alike m ↔ l.lower = m.lower := by
  rw [Alike, forall₂_eq_iff, ← octets_injective.eq_iff]
  rfl

theorem Label.flatMap_hashInput_inj {ls ms : List Label} :
    ls.flatMap hashInput = ms.flatMap hashInput ↔ ls = ms := by
  induction ls generalizing ms with
  | nil => cases ms <;> simp [hashInput]
  | cons l ls ih =>
    cases ms with
    | nil => simp [hashInput]
    | cons m ms =>
      simp only [List.flatMap_cons, hashInput, List.cons_append, List.nil_append, List.cons.injEq,
        HashInput.length.injEq, HashInput.octets.injEq, octets_injective.eq_iff]
      rw [ih]
      exact ⟨fun h => h.2, fun h => ⟨by rw [h.1], h⟩⟩

namespace Name

variable {a b c : Name} {names : List Name}

theorem same_iff_alike : a.same b = true ↔ List.Forall₂ Label.Alike a.rawLabels b.rawLabels := by
  have halike : Label.Alike = fun l m => l.lower = m.lower := by
    funext l m
    exact propext Label.alike_iff
  rw [same_iff, labels_eq, labels_eq, halike, forall₂_eq_iff]

/-- The pieces fed to a hash function say where each label ends. -/
theorem hashInput_eq_iff_same : a.hashInput = b.hashInput ↔ a.same b = true := by
  rw [same_iff, hashInput, hashInput, List.cons.injEq, Label.flatMap_hashInput_inj]
  exact ⟨fun h => h.2, fun h => ⟨by rw [h], h⟩⟩

/-! ## Comparing -/

instance : Std.TransCmp compare :=
  inferInstanceAs (Std.TransCmp (compareOn ace))

theorem compare_eq_iff_ace : a.compare b = .eq ↔ a.ace = b.ace := by
  show Ord.compare a.ace b.ace = .eq ↔ a.ace = b.ace
  exact Std.LawfulEqOrd.compare_eq_iff_eq

theorem compare_eq_iff_same : a.compare b = .eq ↔ a.same b = true := by
  rw [same_iff, ← ace_inj, compare_eq_iff_ace]

theorem compare_swap (a b : Name) : b.compare a = (a.compare b).swap :=
  Std.OrientedCmp.eq_swap

theorem isLE_total (a b : Name) : (a.compare b).isLE = true ∨ (b.compare a).isLE = true := by
  rw [compare_swap a b]
  cases a.compare b <;> simp

theorem lt_of_isLE (h : (a.compare b).isLE = true) (hne : ¬ a.same b = true) :
    a.compare b = .lt := by
  rw [← compare_eq_iff_same] at hne
  cases hcmp : a.compare b with
  | lt => rfl
  | eq => exact absurd hcmp hne
  | gt => rw [hcmp] at h; cases h

/-! ## Sorting -/

/-- The names in order. -/
def sorted (names : List Name) : List Name :=
  names.mergeSort fun a b => (a.compare b).isLE

/-- The names in order, and of the same ones in a row only the first. -/
def distinct (names : List Name) : List Name :=
  (sorted names).destutter fun a b => ¬ a.same b = true

theorem distinct_sublist (names : List Name) : (distinct names).Sublist (sorted names) :=
  List.destutter_sublist (fun a b : Name => ¬ a.same b = true) (sorted names)

theorem pairwise_sorted (names : List Name) :
    (sorted names).Pairwise fun a b => (a.compare b).isLE = true := by
  refine List.pairwise_mergeSort (fun a b c => Std.TransCmp.isLE_trans) (fun a b => ?_) names
  rw [Bool.or_eq_true]
  exact isLE_total a b

/-- Texts in order that are the same stand side by side. -/
theorem map_ace_distinct (names : List Name) :
    (distinct names).map ace = ((sorted names).map ace).dedup := by
  have hantisymm : Std.Antisymm fun s t : String => (Ord.compare s t).isLE = true :=
    ⟨fun _ _ h h' => Std.LawfulEqOrd.eq_of_compare (Std.OrientedCmp.isLE_antisymm h h')⟩
  have hordered : ((sorted names).map ace).Pairwise fun s t => (Ord.compare s t).isLE = true :=
    List.pairwise_map.2 (pairwise_sorted names)
  rw [← hordered.destutter_eq_dedup]
  refine List.map_destutter fun a _ b _ => ?_
  rw [same_iff, ← ace_inj]

theorem pairwise_distinct (names : List Name) :
    (distinct names).Pairwise fun a b => a.compare b = .lt := by
  have hordered : (distinct names).Pairwise fun a b => (a.compare b).isLE = true :=
    (pairwise_sorted names).sublist (distinct_sublist names)
  have hnodup : ((distinct names).map ace).Nodup := map_ace_distinct names ▸ List.nodup_dedup _
  refine hordered.imp₂ (fun a b hle hne => lt_of_isLE hle ?_) (List.pairwise_map.1 hnodup)
  rwa [same_iff, ← ace_inj]

theorem map_labels_subset {xs ys : List Name} (h : xs.map ace ⊆ ys.map ace) :
    xs.map labels ⊆ ys.map labels := by
  intro ls hls
  obtain ⟨x, hx, rfl⟩ := List.mem_map.1 hls
  obtain ⟨y, hy, hace⟩ := List.mem_map.1 (h (List.mem_map_of_mem hx))
  exact List.mem_map.2 ⟨y, hy, ace_inj.1 hace⟩

/-- Sorting leaves one of each of the names that are the same. -/
theorem map_labels_distinct (names : List Name) :
    ((distinct names).map labels).Perm (names.map labels).dedup := by
  have hmem : ∀ x, x ∈ (distinct names).map ace ↔ x ∈ names.map ace := by
    intro x
    rw [map_ace_distinct, List.mem_dedup]
    exact ((List.mergeSort_perm names _).map ace).mem_iff
  have hnodup : ((distinct names).map labels).Nodup := by
    refine List.pairwise_map.2 ((pairwise_distinct names).imp ?_)
    intro a b hlt hlabels
    rw [compare_eq_iff_same.2 (same_iff.2 hlabels)] at hlt
    cases hlt
  refine (List.perm_ext_iff_of_nodup hnodup (List.nodup_dedup _)).2 fun ls => ?_
  rw [List.mem_dedup]
  exact ⟨fun h => map_labels_subset (fun x => (hmem x).1) h,
    fun h => map_labels_subset (fun x => (hmem x).2) h⟩

theorem distinct_eq_compare (names : List Name) :
    distinct names = (sorted names).destutter fun a b => a.compare b ≠ .eq := by
  unfold distinct
  simp only [ne_eq, compare_eq_iff_same]

/-- **The order of names.** Names compare as equal exactly if they are the same, that is if their
labels have the same octets up to the case of ASCII letters, and then a hash function is fed alike
for both, and only then. Comparing is a total order up to that. A list that is sorted and cleared of
names that equal their neighbour is strictly ordered, has one of each of the names that are the
same, and comes out alike whether the comparison or the equality tells neighbours apart. -/
theorem compare_orders_names :
    (∀ a b : Name, a.compare b = .eq ↔ a.same b = true) ∧
      (∀ a b : Name, a.same b = true ↔ List.Forall₂ Label.Alike a.rawLabels b.rawLabels) ∧
      (∀ a b : Name, a.hashInput = b.hashInput ↔ a.same b = true) ∧
      (∀ a b : Name, b.compare a = (a.compare b).swap) ∧
      (∀ a b : Name, (a.compare b).isLE = true ∨ (b.compare a).isLE = true) ∧
      (∀ a b : Name, (a.compare b).isLE = true → (b.compare a).isLE = true → a.same b = true) ∧
      (∀ a b c : Name, (a.compare b).isLE = true → (b.compare c).isLE = true →
        (a.compare c).isLE = true) ∧
      ∀ names : List Name,
        distinct names = (sorted names).destutter (fun a b => a.compare b ≠ .eq) ∧
        (distinct names).Pairwise (fun a b => a.compare b = .lt) ∧
        ((distinct names).map labels).Perm (names.map labels).dedup := by
  refine ⟨fun a b => compare_eq_iff_same, fun a b => same_iff_alike,
    fun a b => hashInput_eq_iff_same, compare_swap, isLE_total,
    fun a b hab hba => ?_, fun a b c => Std.TransCmp.isLE_trans, fun names => ?_⟩
  · exact compare_eq_iff_same.1 (Std.OrientedCmp.isLE_antisymm hab hba)
  · exact ⟨distinct_eq_compare names, pairwise_distinct names, map_labels_distinct names⟩

/-- Two spellings of one name, and a name from the wire whose label is a dot. -/
theorem compare_orders_names_spelled_twice :
    let a := ofLabels [⟨[65], by decide⟩] (by decide) (by decide)
    let b := ofLabels [⟨[97], by decide⟩] (by decide) (by decide)
    let c := ofLabels [⟨[46], by decide⟩] (by decide) (by decide)
    ((a.compare b).isLE = true ∧ (b.compare a).isLE = true ∧ (b.compare c).isLE = true) ∧
      a.same b = true ∧ (a.compare c).isLE = true := by
  intro a b c
  obtain ⟨_, _, _, _, _, hantisymm, htrans, _⟩ := compare_orders_names
  have hab : (a.compare b).isLE = true := by decide
  have hba : (b.compare a).isLE = true := by decide
  have hbc : (b.compare c).isLE = true := by decide
  exact ⟨⟨hab, hba, hbc⟩, hantisymm a b hab hba, htrans a b c hab hbc⟩

end Name

end StubResolver
