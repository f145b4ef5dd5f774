import StubResolver.Interchange.Record
import StubResolver.Proofs.Name.Dotted
import StubResolver.Proofs.Name.Text

/-!
# Reading the text of a name back

The text of a name is its labels' safe texts joined by dots (`joined_dotted`). A label of graphic
octets stands in it as it is, and is read back as it was. Any other label has a substitute in its
safe text that begins beyond ASCII, which the reader refuses, so that no text is read as another
name.
-/

namespace StubResolver

namespace Label

variable {b : UInt8} {l : Label}

theorem graphic_lowerOctet_iff : Graphic (Octets.lowerOctet b) ↔ Graphic b := by
  rw [graphic_iff, graphic_iff, Octets.toNat_lowerOctet]
  split_ifs <;> omega

theorem isGraphic_lower_iff : l.lower.IsGraphic ↔ l.IsGraphic := by
  show (∀ b ∈ l.octets.map Octets.lowerOctet, Graphic b) ↔ ∀ b ∈ l.octets, Graphic b
  rw [List.forall_mem_map]
  exact forall₂_congr fun b _ => graphic_lowerOctet_iff

end Label

namespace Name

variable {cs : List Char} {parts : List (List Char)} {ls : List Label} {n : Name}

/-- The labels are of graphic octets only. -/
def AllGraphic (ls : List Label) : Prop :=
  ∀ l ∈ ls, l.IsGraphic

instance : DecidablePred AllGraphic := fun ls => inferInstanceAs (Decidable (∀ l ∈ ls, _))

theorem graphic_labels_iff : AllGraphic n.labels ↔ AllGraphic n.rawLabels := by
  rw [AllGraphic, labels_eq, List.forall_mem_map]
  exact forall₂_congr fun l _ => Label.isGraphic_lower_iff

/-! ## The text as joined parts -/

theorem joined_intercalate (hparts : parts ≠ [])
    (hpart : ∀ part ∈ parts, part ≠ [] ∧ ∀ c ∈ part, ¬ FullStop c) :
    Joined (['.'].intercalate parts) parts := by
  induction parts with
  | nil => exact absurd rfl hparts
  | cons part parts ih =>
    obtain ⟨⟨hne, hletters⟩, hrest⟩ := List.forall_mem_cons.1 hpart
    cases parts with
    | nil =>
      rw [List.intercalate_singleton]
      exact .last hne hletters
    | cons next parts =>
      rw [List.intercalate_cons_cons, List.append_assoc]
      exact .next hne hletters (.inl rfl) (ih (List.cons_ne_nil _ _) hrest)

theorem Joined.foldSeparators_eq (h : Joined cs parts) :
    foldSeparators cs = ['.'].intercalate parts := by
  rw [← h.splitOnP_eq, ← splitOn_foldSeparators, List.intercalate_splitOn]

theorem joined_dotted (hls : ls ≠ []) (hne : ∀ l ∈ ls, l.octets ≠ []) :
    Joined (dotted ls) (ls.reverse.map Label.safeChars) := by
  rw [dotted_eq_intercalate hls]
  refine joined_intercalate (by simpa using hls) (List.forall_mem_map.2 fun l hl => ?_)
  refine ⟨Label.safeChars_ne_nil (hne l (List.mem_reverse.1 hl)), fun c hc => ?_⟩
  exact isSeparator_eq_false_iff.1 (isSeparator_of_mem_safeChars hc)

theorem foldSeparators_dotted (hls : ls ≠ []) (hne : ∀ l ∈ ls, l.octets ≠ []) :
    foldSeparators (dotted ls) = dotted ls := by
  rw [(joined_dotted hls hne).foldSeparators_eq, dotted_eq_intercalate hls]

/-! ## Reading back -/

theorem accepted_dotted (hls : n.rawLabels ≠ []) (h : AllGraphic n.rawLabels) :
    Accepted (dotted n.rawLabels) (n.rawLabels.reverse.map Label.safeChars) where
  spelled := .plain (joined_dotted hls n.nonempty)
  count_le := by
    rw [List.length_map, List.length_reverse]
    exact n.count_le
  length_le := List.forall_mem_map.2 fun l hl => by
    rw [(h l (List.mem_reverse.1 hl)).length_safeChars]
    exact l.length_le
  ascii := List.forall_mem_map.2 fun l hl _ hc => (h l (List.mem_reverse.1 hl)).ascii hc

theorem ofText_rawAce_of_graphic (h : AllGraphic n.rawLabels) : ofText n.rawAce = .ok n := by
  by_cases hls : n.rawLabels = []
  · rw [rawLabels_eq_nil_iff.1 hls, ofText_eq_root_iff, rawAce_eq, String.toList_ofList]
    exact ⟨by decide, List.forall_mem_singleton.2 (.inl rfl)⟩
  · refine (ofText_ne_root_iff.2 ⟨n.rawLabels.reverse.map Label.safeChars, ?_, ?_⟩).1
    · rw [rawAce_eq, String.toList_ofList]
      exact accepted_dotted hls h
    · rw [← List.map_reverse, List.reverse_reverse, List.map_map]
      exact List.map_congr_left fun l hl => (h l hl).map_octetOf.symm

theorem ofText_rawAce_of_not_graphic (h : ¬ AllGraphic n.rawLabels) :
    ofText n.rawAce = .error (.noAsciiForm n.rawAce) := by
  simp only [AllGraphic, Classical.not_forall] at h
  obtain ⟨l, hl, hnot⟩ := h
  have hls := List.ne_nil_of_mem hl
  have hjoined := joined_dotted hls n.nonempty
  obtain ⟨c, hc, hascii⟩ := Label.exists_not_ascii hnot
  obtain ⟨hmem, hletter⟩ := hjoined.mem_iff.2
    ⟨l.safeChars, List.mem_map_of_mem (List.mem_reverse.2 hl), hc⟩
  have htext : dropFinalSeparator n.rawAce.toList = dotted n.rawLabels := by
    rw [rawAce_eq, String.toList_ofList, hjoined.dropFinalSeparator_eq]
  rw [ofText_of_not_ascii (htext ▸ hmem) hletter hascii, htext,
    foldSeparators_dotted hls n.nonempty, rawAce_eq]

theorem ofText_rawAce (n : Name) :
    ofText n.rawAce =
      if AllGraphic n.rawLabels then .ok n else .error (.noAsciiForm n.rawAce) := by
  split_ifs with h
  · exact ofText_rawAce_of_graphic h
  · exact ofText_rawAce_of_not_graphic h

/-- A name in JSON is read as its text is. -/
theorem ofJson?_text (s : String) : ofJson? (.text s) = (ofText s).toOption :=
  toOption_pmapExcept.symm

/-- A label that is a dot. -/
example : ofText (ofLabels [⟨[46], by decide⟩] (by decide) (by decide)).rawAce =
    .error (.noAsciiForm "●") := rfl

/-- **No name is read back as another.** The text of a name, as given or in lower case, and its JSON
are read back as the same labels if all their octets are graphic. Otherwise they are refused because
the text has no ASCII form. -/
theorem text_reads_back (n : Name) :
    (ofText n.rawAce =
      if AllGraphic n.rawLabels then .ok n else .error (.noAsciiForm n.rawAce)) ∧
    (ofText n.ace =
      if AllGraphic n.labels then .ok n.folded else .error (.noAsciiForm n.ace)) ∧
    n.folded.rawLabels = n.labels ∧
    (AllGraphic n.labels ↔ AllGraphic n.rawLabels) ∧
    ofJson? n.toJson = if AllGraphic n.rawLabels then some n else none := by
  refine ⟨ofText_rawAce n, ?_, rawLabels_folded n, graphic_labels_iff, ?_⟩
  · rw [← rawAce_folded, ofText_rawAce, rawLabels_folded]
  · rw [toJson, ofJson?_text, ofText_rawAce]
    split_ifs <;> rfl

end Name

end StubResolver
