import StubResolver.Name.Text
import StubResolver.Proofs.Label
import StubResolver.Proofs.Name.Wire

/-!
# The text of names

No safe text of a label has a separator in it, and none is empty if the label is not. The text of a
name can therefore be cut into its labels at the dots (`splitOn_dotted`), and only the root is `.`.
Names with the same text are the same (`rawAce_inj`), and the lower-case text says which names are
the same up to case (`ace_inj`).
-/

namespace StubResolver.Name

variable {c : Char} {ls ms : List Label} {a b n : Name}

theorem isSeparator_of_isSafe (h : Label.IsSafe c) : isSeparator c = false := by
  have hne : ∀ d : Char, ¬ Label.IsSafe d → c ≠ d := by
    rintro d hd rfl
    exact hd h
  simp only [isSeparator, Bool.or_eq_false_iff, beq_eq_false_iff_ne, Label.IsSafe] at hne ⊢
  exact ⟨⟨⟨hne _ (by decide), hne _ (by decide)⟩, hne _ (by decide)⟩, hne _ (by decide)⟩

theorem isSeparator_of_mem_safeChars {l : Label} (hc : c ∈ l.safeChars) : isSeparator c = false :=
  isSeparator_of_isSafe (Label.isSafe_of_mem_safeChars hc)

theorem dot_not_mem_safeChars (l : Label) : '.' ∉ l.safeChars :=
  fun hdot => absurd (isSeparator_of_mem_safeChars hdot) (by decide)

theorem dotted_eq_intercalate (h : ls ≠ []) :
    dotted ls = ['.'].intercalate (ls.reverse.map Label.safeChars) := by
  cases ls with
  | nil => exact absurd rfl h
  | cons => rfl

theorem splitOn_dotted (h : ls ≠ []) :
    (dotted ls).splitOn '.' = ls.reverse.map Label.safeChars := by
  rw [dotted_eq_intercalate h]
  refine List.splitOn_intercalate '.' ?_ (by simpa using h)
  intro part hpart
  obtain ⟨l, _, rfl⟩ := List.mem_map.1 hpart
  exact dot_not_mem_safeChars l

/-- The text of no labels is the only one that is a dot, which is two empty parts with the dot
between. -/
theorem dotted_eq_dot_iff (hne : ∀ l ∈ ls, l.octets ≠ []) : dotted ls = ['.'] ↔ ls = [] := by
  refine ⟨fun h => ?_, fun h => h ▸ rfl⟩
  by_contra hls
  have hparts := splitOn_dotted hls
  have hempty : [] ∈ ls.reverse.map Label.safeChars := by
    rw [← hparts, h]
    exact List.mem_cons_self
  obtain ⟨l, hl, hnil⟩ := List.mem_map.1 hempty
  exact Label.safeChars_ne_nil (hne l (List.mem_reverse.1 hl)) hnil

theorem dotted_inj (hls : ∀ l ∈ ls, l.octets ≠ []) (hms : ∀ l ∈ ms, l.octets ≠ []) :
    dotted ls = dotted ms ↔ ls = ms := by
  refine ⟨fun h => ?_, fun h => h ▸ rfl⟩
  by_cases hnil : ls = []
  · rw [hnil] at h ⊢
    exact ((dotted_eq_dot_iff hms).1 h.symm).symm
  · have hnil' : ms ≠ [] := by
      rintro rfl
      exact hnil ((dotted_eq_dot_iff hls).1 h)
    have hparts := splitOn_dotted hnil
    rw [h, splitOn_dotted hnil'] at hparts
    exact (List.reverse_injective (Label.safeChars_injective.list_map hparts)).symm

theorem rawAce_inj : a.rawAce = b.rawAce ↔ a.rawLabels = b.rawLabels := by
  rw [rawAce_eq, rawAce_eq, String.ofList_inj, dotted_inj a.nonempty b.nonempty]

/-- The lower-case text is the text of the name in lower case. -/
theorem rawAce_folded (n : Name) : n.folded.rawAce = n.ace := by
  rw [rawAce_eq, rawLabels_folded, ace_eq]

theorem ace_inj : a.ace = b.ace ↔ a.labels = b.labels := by
  rw [← rawAce_folded, ← rawAce_folded, rawAce_inj, rawLabels_folded, rawLabels_folded]

theorem rawLabels_eq_nil_iff : n.rawLabels = [] ↔ n = root :=
  rawLabels_injective.eq_iff' rfl

theorem ace_eq_dot_iff : n.ace = "." ↔ n = root := by
  rw [← rawLabels_eq_nil_iff, ← List.map_eq_nil_iff (f := Label.lower), ← labels_eq, ace_eq]
  refine Iff.trans ?_ (dotted_eq_dot_iff n.labels_ne_nil)
  exact String.ofList_inj

end StubResolver.Name
