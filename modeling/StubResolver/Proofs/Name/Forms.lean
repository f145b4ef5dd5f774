import Mathlib.Data.List.Forall2
import StubResolver.Interchange.Record
import StubResolver.Proofs.Name.Dotted

/-!
# The forms of a name

However the forms of a name come about (`Forms.Obtained`), they belong together and the labels are
within the limits: each way of making forms keeps them valid (`Obtained.valid`), and what is valid
is what it should be, octet by octet and character by character (`Represented`). Nothing else is
asked of the labels: whatever is within the limits is read from the wire (`obtained_forms`).
-/

namespace StubResolver

open Label (Shown)

/-- The safe text of a label: that of its octets in a row. -/
def Label.HasText (l : Label) (text : List Char) : Prop :=
  ∃ pieces, List.Forall₂ Shown l.octets pieces ∧ text = pieces.flatten

theorem Label.hasText_safeChars (l : Label) : l.HasText l.safeChars := by
  refine ⟨l.octets.map safeOctet, ?_, by rw [safeChars_eq_flatMap, List.flatMap_def]⟩
  rw [List.forall₂_map_right_iff, List.forall₂_same]
  exact fun b _ => shown_safeOctet b

namespace Name

variable {f : Forms} {n : Name}

/-- The text of labels given root first: their safe texts, leaf first, with dots between them, or a
lone dot if there are none. -/
def HasText (ls : List Label) (text : List Char) : Prop :=
  (ls = [] ∧ text = ['.']) ∨
    ls ≠ [] ∧ ∃ parts, List.Forall₂ Label.HasText ls.reverse parts ∧ text = ['.'].intercalate parts

theorem hasText_dotted (ls : List Label) : HasText ls (dotted ls) := by
  by_cases hls : ls = []
  · exact .inl ⟨hls, hls ▸ rfl⟩
  · refine .inr ⟨hls, ls.reverse.map Label.safeChars, ?_, dotted_eq_intercalate hls⟩
    rw [List.forall₂_map_right_iff, List.forall₂_same]
    exact fun l _ => l.hasText_safeChars

namespace Forms

/-- The labels are within the limits, and each other form is what the labels as given make of it. -/
structure Represented (f : Forms) : Prop where
  count_le : f.rawLabels.length ≤ 128
  length_bounds : ∀ l ∈ f.rawLabels, 1 ≤ l.octets.length ∧ l.octets.length ≤ 63
  lower : f.labels.map Label.octets = f.rawLabels.map fun l => l.octets.map Octets.lowerOctet
  rawText : HasText f.rawLabels f.rawAce.toList
  text : HasText f.labels f.ace.toList
  text_root : f.ace = "." ↔ f = root

/-- How forms come about. -/
inductive Obtained : Forms → Prop
  | root : Obtained root
  | text {convert : Converter} {text : String} {f : Forms} (h : ofTextWith convert text = .ok f) :
      Obtained f
  | read {message : Array UInt8} {pos next : Nat} {f : Forms}
      (h : readAt message pos = .ok (f, next)) : Obtained f
  | joined {child parent f : Forms} (hchild : Obtained child) (hparent : Obtained parent)
      (h : join child parent = .ok f) : Obtained f
  | closest {f : Forms} (h : Obtained f) (k : Nat) : Obtained (f.closest k)
  | parent {f p : Forms} (h : Obtained f) (hp : f.parent? = some p) : Obtained p
  | json {j : Json} {f : Forms} (h : ofJson? j = some f) : Obtained f

theorem Obtained.valid (h : Obtained f) : f.Valid := by
  induction h with
  | root => exact valid_root
  | text h => exact valid_of_ofTextWith h
  | read h => exact valid_of_readAt h
  | joined _ _ h hchild hparent => exact hchild.join hparent h
  | closest _ k ih => exact ih.closest k
  | parent _ hp ih => exact ih.parent? hp
  | json h => exact valid_of_ofJson? h

theorem Valid.represented (h : f.Valid) : f.Represented where
  count_le := h.count_le
  length_bounds l hl := ⟨List.length_pos_iff.2 (h.nonempty l hl), l.length_le⟩
  lower := by simp only [h.labels_eq, List.map_map, Function.comp_def, Label.lower]
  rawText := by
    rw [h.rawAce_eq, String.toList_ofList]
    exact hasText_dotted _
  text := by
    rw [h.ace_eq, String.toList_ofList]
    exact hasText_dotted _
  text_root := (ace_eq_dot_iff (n := ⟨f, h⟩)).trans (Name.mk.injEq .. ▸ Iff.rfl)

end Forms

/-- Labels within the limits stand on the wire as they are. -/
theorem obtained_forms (n : Name) : n.forms.Obtained := by
  have hstands := Stands.front (n.rawLabels.reverse.flatMap Label.toWire ++ [0]) []
  have hspells := spells_of_stands (fun l hl => n.nonempty l (List.mem_reverse.1 hl)) hstands
  refine .read (readAt_eq_ok_iff_forms.1 (readAt_of_spells hspells ?_))
  rw [← List.map_reverse, List.reverse_reverse]

/-- **Names are represented.** However the forms of a name were obtained, the labels are within the
limits and the other forms are what these make of them; the names are all that can be obtained, and
their labels are exactly those within the limits. -/
theorem obtained_represented :
    (∀ f, Forms.Obtained f → f.Represented) ∧
      (∀ f, Forms.Obtained f ↔ ∃ n : Name, n.forms = f) ∧
      ∀ ls : List Octets, (∃ f, Forms.Obtained f ∧ f.rawLabels.map Label.octets = ls) ↔
        ls.length ≤ 128 ∧ ∀ l ∈ ls, 1 ≤ l.length ∧ l.length ≤ 63 := by
  refine ⟨fun f h => h.valid.represented, fun f => ⟨fun h => ⟨⟨f, h.valid⟩, rfl⟩, ?_⟩,
    fun ls => ⟨?_, ?_⟩⟩
  · rintro ⟨n, rfl⟩
    exact n.obtained_forms
  · rintro ⟨f, h, rfl⟩
    rw [List.length_map, List.forall_mem_map]
    exact ⟨h.valid.represented.count_le, h.valid.represented.length_bounds⟩
  · rintro ⟨hcount, hbounds⟩
    obtain ⟨n, hn⟩ := exists_rawLabels hcount hbounds
    exact ⟨n.forms, n.obtained_forms, hn⟩

/-- Below a name from the wire whose label is a dot: the last label of a name in JSON, and below
that a converted text without its leaf. -/
theorem obtained_represented_below_dot :
    let f : Forms := {
      rawLabels := [⟨[46], by decide⟩, ⟨[89], by decide⟩, ⟨[67], by decide⟩]
      labels := [⟨[46], by decide⟩, ⟨[121], by decide⟩, ⟨[99], by decide⟩]
      rawAce := "C.Y.●"
      ace := "c.y.●" }
    f.Obtained ∧ f.Represented ∧ ∃ n : Name, n.forms = f := by
  intro f
  have hchild : Forms.Obtained (.ofRawLabels [⟨[67], by decide⟩, ⟨[233], by decide⟩]) :=
    .text (show Forms.ofTextWith (fun _ => .ok "é.C") "any" = _ from rfl)
  have hjson : Forms.Obtained (.ofRawLabels [⟨[89], by decide⟩, ⟨[120], by decide⟩]) :=
    .json (show Forms.ofJson? (.text "x.Y.") = _ from rfl)
  have hlength : (#[1, 46, 0] : Array UInt8)[0]? = some 1 := rfl
  have hspells : Spells #[1, 46, 0] 0 [[46]] 3 :=
    .label hlength (by decide) (by decide) (by decide) (.root rfl)
  let dot : Name := ofLabels [⟨[46], by decide⟩] (by decide) (by decide)
  have hdot : dot.forms.Obtained :=
    .read (readAt_eq_ok_iff_forms.1 (readAt_of_spells hspells rfl))
  have hparent : Forms.Obtained (.ofRawLabels [⟨[46], by decide⟩, ⟨[89], by decide⟩]) :=
    (hjson.closest 1).joined hdot rfl
  have hf : f.Obtained := (hchild.joined hparent rfl).parent rfl
  exact ⟨hf, obtained_represented.1 f hf, (obtained_represented.2.1 f).1 hf⟩

end Name

end StubResolver
