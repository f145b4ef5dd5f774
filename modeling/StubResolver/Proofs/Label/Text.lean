import StubResolver.Proofs.Label
import StubResolver.Proofs.Utf8

/-!
# Labels made of text

The characters of a text up to U+00FF are the octets of a label, one each (`ofText_eq_ok_iff`), and
the first one beyond is refused (`ofText_of_wide`). Safe text of graphic octets is therefore read
back as it was. Of any other label the reader gets as far as its first substitute, since whatever is
before that stands for itself.
-/

namespace StubResolver.Label

variable {b : UInt8} {c : Char} {l : Label}

/-! ## Characters as octets -/

/-- The octet of a character of a label. -/
def octetOf (c : Char) : UInt8 :=
  UInt8.ofNat c.toNat

theorem octetOf_charOfNat (b : UInt8) : octetOf (Char.ofNat b.toNat) = b := by
  rw [octetOf, toNat_charOfNat_octet, UInt8.ofNat_toNat]

theorem octetsOfText_eq_ok_iff {position : Nat} {cs : List Char} {octets : Octets} :
    octetsOfText position cs = .ok octets ↔
      (∀ c ∈ cs, c.toNat < 256) ∧ octets = cs.map octetOf := by
  induction cs generalizing position octets with
  | nil => simp [octetsOfText, eq_comm]
  | cons c cs ih =>
    rw [octetsOfText, List.forall_mem_cons]
    by_cases hc : c.toNat < 256
    · rw [if_pos hc, bind_eq_ok_iff]
      constructor
      · rintro ⟨rest, hrest, h⟩
        obtain ⟨hcs, rfl⟩ := ih.1 hrest
        cases h
        exact ⟨⟨hc, hcs⟩, rfl⟩
      · rintro ⟨⟨_, hcs⟩, rfl⟩
        exact ⟨_, ih.2 ⟨hcs, rfl⟩, rfl⟩
    · rw [if_neg hc]
      exact iff_of_false (fun h => by cases h) (fun h => hc h.1.1)

theorem ofText_eq_ok_iff {cs : List Char} {l : Label} :
    ofText cs = .ok l ↔
      (∀ c ∈ cs, c.toNat < 256) ∧ cs.length ≤ 63 ∧ l.octets = cs.map octetOf := by
  rw [ofText, bind_eq_ok_iff]
  constructor
  · rintro ⟨octets, hoctets, h⟩
    have hl := octets_of_ofOctets h
    obtain ⟨hcs, rfl⟩ := octetsOfText_eq_ok_iff.1 hoctets
    refine ⟨hcs, ?_, hl⟩
    rw [← List.length_map octetOf, ← hl]
    exact l.length_le
  · rintro ⟨hcs, hlen, hl⟩
    refine ⟨_, octetsOfText_eq_ok_iff.2 ⟨hcs, rfl⟩, ?_⟩
    rw [ofOctets, dif_pos (by rwa [List.length_map])]
    cases l
    cases hl
    rfl

/-- The first character that is no octet is refused where it stands. -/
theorem octetsOfText_of_wide {narrow rest : List Char} (hnarrow : ∀ d ∈ narrow, d.toNat < 256)
    (hc : 256 ≤ c.toNat) (position : Nat) :
    octetsOfText position (narrow ++ c :: rest) =
      .error (.invalidLabelCharacter c (position + narrow.length)) := by
  induction narrow generalizing position with
  | nil =>
    rw [List.nil_append, octetsOfText, if_neg (Nat.not_lt.2 hc), List.length_nil, Nat.add_zero]
  | cons d narrow ih =>
    obtain ⟨hd, hnarrow⟩ := List.forall_mem_cons.1 hnarrow
    have hposition : position + 1 + narrow.length = position + (narrow.length + 1) := by omega
    rw [List.cons_append, octetsOfText, if_pos hd, ih hnarrow, List.length_cons, hposition]
    rfl

/-- The refusal comes before the number of characters is looked at. -/
theorem ofText_of_wide {narrow rest : List Char} (hnarrow : ∀ d ∈ narrow, d.toNat < 256)
    (hc : 256 ≤ c.toNat) :
    ofText (narrow ++ c :: rest) = .error (.invalidLabelCharacter c narrow.length) := by
  rw [ofText, octetsOfText_of_wide hnarrow hc, Nat.zero_add]
  rfl

/-! ## Safe text read back -/

theorem IsGraphic.map_octetOf (h : l.IsGraphic) : l.safeChars.map octetOf = l.octets := by
  rw [h.safeChars_eq, List.map_map]
  exact (List.map_congr_left fun b _ => octetOf_charOfNat b).trans (List.map_id _)

theorem IsGraphic.length_safeChars (h : l.IsGraphic) : l.safeChars.length = l.octets.length := by
  rw [h.safeChars_eq, List.length_map]

theorem IsGraphic.ascii (h : l.IsGraphic) (hc : c ∈ l.safeChars) : c.toNat < 128 := by
  rw [h.safeChars_eq] at hc
  obtain ⟨b, hb, rfl⟩ := List.mem_map.1 hc
  have := graphic_iff.1 (h b hb)
  rw [toNat_charOfNat_octet]
  omega

theorem IsGraphic.ofText_safeChars (h : l.IsGraphic) : ofText l.safeChars = .ok l := by
  refine ofText_eq_ok_iff.2 ⟨fun c hc => Nat.lt_trans (h.ascii hc) (by decide), ?_, ?_⟩
  · rw [h.length_safeChars]
    exact l.length_le
  · exact h.map_octetOf.symm

/-- A label has a first octet that is not graphic, if it has any. -/
theorem exists_first_of_not_isGraphic (h : ¬ l.IsGraphic) :
    ∃ clean b rest, l.octets = clean ++ b :: rest ∧ (∀ a ∈ clean, Graphic a) ∧ ¬ Graphic b := by
  cases hfind : l.octets.find? fun b => ¬ Graphic b with
  | none =>
    refine absurd (fun b hb => ?_) h
    simpa using List.find?_eq_none.1 hfind b hb
  | some b =>
    obtain ⟨hb, clean, rest, hoctets, hclean⟩ := List.find?_eq_some_iff_append.1 hfind
    exact ⟨clean, b, rest, hoctets, fun a ha => by simpa using hclean a ha, by simpa using hb⟩

/-- Graphic octets take one character each, so the position of the first substitute is that of its
octet. -/
theorem ofText_safeChars_of_first {clean rest : Octets} (hoctets : l.octets = clean ++ b :: rest)
    (hclean : ∀ a ∈ clean, Graphic a) (hb : ¬ Graphic b) :
    ∃ c, (safeOctet b).head? = some c ∧
      ofText l.safeChars = .error (.invalidLabelCharacter c clean.length) := by
  obtain ⟨c, shown, hshown, hwide⟩ := (shown_safeOctet b).head hb
  have hfront : clean.flatMap safeOctet = clean.map fun a => Char.ofNat a.toNat := by
    rw [List.map_eq_flatMap]
    exact List.flatMap_congr fun a ha => (shown_safeOctet a).eq_of_graphic (hclean a ha)
  have hnarrow : ∀ d ∈ clean.map fun a => Char.ofNat a.toNat, d.toNat < 256 := by
    refine List.forall_mem_map.2 fun a _ => ?_
    rw [toNat_charOfNat_octet]
    exact a.toNat_lt
  refine ⟨c, by rw [hshown, List.head?_cons], ?_⟩
  rw [safeChars_eq_flatMap, hoctets, List.flatMap_append, List.flatMap_cons, hfront, hshown,
    List.cons_append, ofText_of_wide hnarrow hwide, List.length_map]

theorem ofText_safeChars_of_not_isGraphic (h : ¬ l.IsGraphic) :
    ∃ clean b rest c, l.octets = clean ++ b :: rest ∧ (∀ a ∈ clean, Graphic a) ∧ ¬ Graphic b ∧
      (safeOctet b).head? = some c ∧
      ofText l.safeChars = .error (.invalidLabelCharacter c clean.length) := by
  obtain ⟨clean, b, rest, hoctets, hclean, hb⟩ := exists_first_of_not_isGraphic h
  obtain ⟨c, hc, herror⟩ := ofText_safeChars_of_first hoctets hclean hb
  exact ⟨clean, b, rest, c, hoctets, hclean, hb, hc, herror⟩

/-! ## What safe text does -/

/-- A control character. -/
def Control (c : Char) : Prop :=
  c.toNat < 32 ∨ (127 ≤ c.toNat ∧ c.toNat < 160)

theorem IsSafe.harmless (h : IsSafe c) : ¬ Control c ∧ c ≠ ' ' ∧ c ≠ '.' ∧ c ≠ '\\' := by
  unfold Control
  rcases h with h | h | rfl | rfl | rfl | rfl
  · refine ⟨by omega, ?_, ?_, ?_⟩ <;> rintro rfl <;> simp at h
  · refine ⟨by omega, ?_, ?_, ?_⟩ <;> rintro rfl <;> simp at h
  all_goals decide

/-- The octets that need no substitute are the graphic ones. -/
theorem safeOctet_eq_singleton_iff : safeOctet b = [Char.ofNat b.toNat] ↔ Graphic b := by
  refine ⟨fun h => ?_, fun h => (shown_safeOctet b).eq_of_graphic h⟩
  by_contra hb
  obtain ⟨c, rest, hshown, hwide⟩ := (shown_safeOctet b).head hb
  rw [h] at hshown
  cases hshown
  rw [toNat_charOfNat_octet] at hwide
  have := b.toNat_lt
  omega

theorem lt_of_isPlain (h : isPlain b = true) : b < 0x80 := by
  have := graphic_iff.1 (graphic_of_isPlain h)
  rw [UInt8.lt_iff_toNat_lt]
  show b.toNat < 128
  omega

/-- What the safe text of a label shows, and what becomes of it as the text of a label. -/
structure ShownSafely (l : Label) : Prop where
  harmless : ∀ c ∈ l.safe.toList, ¬ Control c ∧ c ≠ ' ' ∧ c ≠ '.' ∧ c ≠ '\\'
  unique : ∀ m : Label, m.safe = l.safe → m = l
  /-- Whichever way it is found, the text is that of the table. -/
  table : l.safe = String.ofList (l.octets.flatMap safeOctet)
  /-- Plain octets are their own text. -/
  plain : l.octets.all isPlain = true → Utf8.lossy l.octets = l.safe
  graphic : ∀ b ∈ l.octets, safeOctet b = [Char.ofNat b.toNat] ↔ Graphic b
  accepted : (∃ m, ofText l.safe.toList = .ok m) ↔ l.IsGraphic
  fixed : l.IsGraphic → ofText l.safe.toList = .ok l
  refused : ¬ l.IsGraphic → ∃ clean b rest c, l.octets = clean ++ b :: rest ∧
    (∀ a ∈ clean, Graphic a) ∧ ¬ Graphic b ∧ (safeOctet b).head? = some c ∧
    ofText l.safe.toList = .error (.invalidLabelCharacter c clean.length)

/-- **Safe text.** It has nothing in it that could mislead, shows every octet, and is read back as
the label exactly if all octets are graphic; else the first that is not is refused. -/
theorem shownSafely (l : Label) : l.ShownSafely := by
  have htext : l.safe.toList = l.safeChars := String.toList_ofList
  constructor
  case harmless =>
    rw [htext]
    exact fun c hc => (isSafe_of_mem_safeChars hc).harmless
  case unique =>
    intro m h
    exact safeChars_injective (String.ofList_injective h)
  case table => rw [safe, safeChars_eq_flatMap]
  case plain =>
    intro h
    have hascii := Utf8.lossy_of_ascii fun b hb => lt_of_isPlain (List.all_eq_true.1 h b hb)
    rw [hascii, safe, safeChars, if_pos h]
  case graphic => exact fun b _ => safeOctet_eq_singleton_iff
  case accepted =>
    rw [htext]
    refine ⟨fun ⟨m, hm⟩ => ?_, fun h => ⟨l, h.ofText_safeChars⟩⟩
    by_contra h
    obtain ⟨_, _, _, _, _, _, _, _, herror⟩ := ofText_safeChars_of_not_isGraphic h
    rw [herror] at hm
    cases hm
  case fixed =>
    rw [htext]
    exact IsGraphic.ofText_safeChars
  case refused =>
    rw [htext]
    exact ofText_safeChars_of_not_isGraphic

/-- The second octet of `a b` is refused as the picture of a space. -/
example : (Label.mk [97, 32, 98] (by decide)).safe.toList = ['a', '␣', 'b'] ∧
    ofText ['a', '␣', 'b'] = .error (.invalidLabelCharacter '␣' 1) := by
  decide

end StubResolver.Label
