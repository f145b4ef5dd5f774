import Mathlib.Data.List.Basic
import StubResolver.Label

/-!
# Safe text of labels

Printable ASCII stands for itself in safe text, but for the dot and the backslash (`Graphic`). Every
other octet becomes a substitute that begins beyond U+00FF (`Shown` is the table). The octets can be
read back from the text (`octetsOfSafe`), so labels with the same safe text are the same.
-/

namespace StubResolver

theorem Octets.hexValue?_hexDigitUpper : ∀ n < 16, hexValue? (hexDigitUpper n) = some n := by
  decide

namespace Label

variable {b : UInt8} {c : Char} {cs : List Char} {l m : Label}

/-! ## The table of substitutes -/

/-- A printable ASCII character other than space, dot and backslash. -/
def Graphic (b : UInt8) : Prop :=
  33 ≤ b ∧ b ≤ 126 ∧ b ≠ 46 ∧ b ≠ 92

instance : DecidablePred Graphic := fun _ => inferInstanceAs (Decidable (_ ∧ _))

theorem graphic_iff :
    Graphic b ↔ 33 ≤ b.toNat ∧ b.toNat ≤ 126 ∧ b.toNat ≠ 46 ∧ b.toNat ≠ 92 := by
  unfold Graphic
  rw [UInt8.le_iff_toNat_le, UInt8.le_iff_toNat_le, ne_eq, ne_eq, ← UInt8.toNat_inj,
    ← UInt8.toNat_inj]
  rfl

theorem graphic_of_isPlain (h : isPlain b = true) : Graphic b := by
  simp only [isPlain, isLdhOctet, Bool.or_eq_true, Bool.and_eq_true, decide_eq_true_eq,
    beq_iff_eq, UInt8.le_iff_toNat_le, ← UInt8.toNat_inj] at h
  simp only [UInt8.reduceToNat] at h
  rw [graphic_iff]
  omega

/-- How an octet is shown in safe text. -/
inductive Shown : UInt8 → List Char → Prop
  | graphic {b : UInt8} (h : Graphic b) : Shown b [Char.ofNat b.toNat]
  | dot : Shown 46 ['●']
  | backslash : Shown 92 ['⧷']
  | delete : Shown 127 ['␡']
  | space : Shown 32 ['␣']
  /-- A control character is shown by its picture, from U+2400 on. -/
  | control {b : UInt8} (h : b.toNat < 32) : Shown b [Char.ofNat (0x2400 + b.toNat)]
  /-- An octet beyond ASCII is shown by its two digits in brackets. -/
  | high {b : UInt8} (h : 128 ≤ b.toNat) : Shown b ('〚' :: Octets.hexPairUpper b ++ ['〛'])

theorem shown_safeOctet (b : UInt8) : Shown b (safeOctet b) := by
  unfold safeOctet
  split_ifs with hplain hdot hbackslash hdelete hspace hcontrol hbelow
  · exact .graphic (graphic_of_isPlain hplain)
  · exact hdot ▸ .dot
  · exact hbackslash ▸ .backslash
  · exact hdelete ▸ .delete
  · exact hspace ▸ .space
  · exact .control (UInt8.lt_iff_toNat_lt.1 hcontrol)
  -- what is left has none of the values above, and 127 was one of them
  · refine .graphic (graphic_iff.2 ?_)
    simp only [UInt8.lt_iff_toNat_lt, ← UInt8.toNat_inj, UInt8.reduceToNat] at *
    omega
  · refine .high ?_
    simp only [UInt8.lt_iff_toNat_lt, ← UInt8.toNat_inj, UInt8.reduceToNat] at *
    omega

theorem toNat_charOfNat {n : Nat} (h : n < 0xD800) : (Char.ofNat n).toNat = n := by
  rw [Char.ofNat, dif_pos (Or.inl h)]
  rfl

theorem toNat_charOfNat_octet (b : UInt8) : (Char.ofNat b.toNat).toNat = b.toNat :=
  toNat_charOfNat (by have := b.toNat_lt; omega)

/-- An octet that does not stand for itself is shown by text whose first character is no octet. -/
theorem Shown.head (h : Shown b cs) (hnot : ¬ Graphic b) :
    ∃ c rest, cs = c :: rest ∧ 256 ≤ c.toNat := by
  cases h with
  | graphic h => exact absurd h hnot
  | dot => exact ⟨'●', [], rfl, by decide⟩
  | backslash => exact ⟨'⧷', [], rfl, by decide⟩
  | delete => exact ⟨'␡', [], rfl, by decide⟩
  | space => exact ⟨'␣', [], rfl, by decide⟩
  | control h =>
    refine ⟨_, [], rfl, ?_⟩
    rw [toNat_charOfNat (by omega)]
    omega
  | high h => exact ⟨'〚', _, rfl, by decide⟩

/-- A graphic octet is shown by itself. -/
theorem Shown.eq_of_graphic (h : Shown b cs) (hb : Graphic b) : cs = [Char.ofNat b.toNat] := by
  cases h with
  | graphic => rfl
  | dot | backslash | delete | space => exact absurd hb (by decide)
  | control h | high h =>
    have := graphic_iff.1 hb
    omega

/-- What safe text is made of: graphic ASCII characters and the characters of substitutes. -/
def IsSafe (c : Char) : Prop :=
  (33 ≤ c.toNat ∧ c.toNat ≤ 126 ∧ c.toNat ≠ 46 ∧ c.toNat ≠ 92) ∨
    (0x2400 ≤ c.toNat ∧ c.toNat ≤ 0x2423) ∨ c = '●' ∨ c = '⧷' ∨ c = '〚' ∨ c = '〛'

theorem isSafe_hexDigitUpper : ∀ n < 16, IsSafe (Octets.hexDigitUpper n) := by
  unfold IsSafe
  decide

theorem Shown.isSafe (h : Shown b cs) (hc : c ∈ cs) : IsSafe c := by
  have hlt := b.toNat_lt
  cases h with
  | graphic h =>
    obtain rfl := List.mem_singleton.1 hc
    exact .inl ((toNat_charOfNat_octet b).symm ▸ graphic_iff.1 h)
  | dot => exact List.mem_singleton.1 hc ▸ .inr (.inr (.inl rfl))
  | backslash => exact List.mem_singleton.1 hc ▸ .inr (.inr (.inr (.inl rfl)))
  | delete | space => exact List.mem_singleton.1 hc ▸ .inr (.inl (by decide))
  | control h =>
    obtain rfl := List.mem_singleton.1 hc
    have := toNat_charOfNat (n := 0x2400 + b.toNat) (by omega)
    exact .inr (.inl (by omega))
  | high h =>
    simp only [Octets.hexPairUpper, List.cons_append, List.nil_append, List.mem_cons,
      List.not_mem_nil, or_false] at hc
    rcases hc with rfl | rfl | rfl | rfl
    · exact .inr (.inr (.inr (.inr (.inl rfl))))
    · exact isSafe_hexDigitUpper _ (by omega)
    · exact isSafe_hexDigitUpper _ (by omega)
    · exact .inr (.inr (.inr (.inr (.inr rfl))))

/-! ## Reading safe text back -/

/-- The octet shown by a lone character. The pictures of control characters begin at a multiple of
256. -/
def octetOfSymbol (c : Char) : UInt8 :=
  if c = '●' then 46 else if c = '⧷' then 92 else if c = '␡' then 127 else if c = '␣' then 32
  else UInt8.ofNat c.toNat

/-- The octets that a safe text shows. -/
def octetsOfSafe : List Char → Octets
  | '〚' :: high :: low :: '〛' :: rest =>
    UInt8.ofNat (16 * (Octets.hexValue? high).getD 0 + (Octets.hexValue? low).getD 0) ::
      octetsOfSafe rest
  | c :: rest => octetOfSymbol c :: octetsOfSafe rest
  | [] => []

theorem octetsOfSafe_cons (h : c ≠ '〚') (rest : List Char) :
    octetsOfSafe (c :: rest) = octetOfSymbol c :: octetsOfSafe rest := by
  rw [octetsOfSafe]
  rintro high low rest rfl
  exact absurd rfl h

/-- The characters below the substitutes of delete and space show what they are numbered. -/
theorem octetOfSymbol_of_lt (h : c.toNat < 0x2421) : octetOfSymbol c = UInt8.ofNat c.toNat := by
  have hne : ∀ d : Char, 0x2421 ≤ d.toNat → c ≠ d := by
    rintro d hd rfl
    omega
  unfold octetOfSymbol
  rw [if_neg (hne '●' (by decide)), if_neg (hne '⧷' (by decide)), if_neg (hne '␡' (by decide)),
    if_neg (hne '␣' (by decide))]

theorem Shown.octetsOfSafe_append (h : Shown b cs) (rest : List Char) :
    octetsOfSafe (cs ++ rest) = b :: octetsOfSafe rest := by
  have hlt := b.toNat_lt
  have hne : ∀ {n : Nat}, n < 0x3000 → Char.ofNat n ≠ '〚' := by
    intro n hn heq
    have := congrArg Char.toNat heq
    rw [toNat_charOfNat (by omega)] at this
    exact absurd this (Nat.ne_of_lt (Nat.lt_trans hn (by decide)))
  cases h with
  | graphic h =>
    have hb := toNat_charOfNat_octet b
    rw [List.singleton_append, octetsOfSafe_cons (hne (by omega)),
      octetOfSymbol_of_lt (by omega), hb, UInt8.ofNat_toNat]
  | dot | backslash | delete | space => exact octetsOfSafe_cons (by decide) rest
  | control h =>
    have hb := toNat_charOfNat (n := 0x2400 + b.toNat) (by omega)
    rw [List.singleton_append, octetsOfSafe_cons (hne (by omega)),
      octetOfSymbol_of_lt (by omega), hb,
      Octets.ofNat_eq_of_mod_eq (x := b) (by omega)]
  | high h =>
    show octetsOfSafe ('〚' :: _ :: _ :: '〛' :: rest) = _
    rw [octetsOfSafe, Octets.hexValue?_hexDigitUpper _ (by omega),
      Octets.hexValue?_hexDigitUpper _ (by omega), Option.getD_some, Option.getD_some,
      Octets.ofNat_eq_of_mod_eq (x := b) (by omega)]

theorem octetsOfSafe_flatMap (octets : Octets) :
    octetsOfSafe (octets.flatMap safeOctet) = octets := by
  induction octets with
  | nil => rfl
  | cons b octets ih => rw [List.flatMap_cons, (shown_safeOctet b).octetsOfSafe_append, ih]

/-! ## The safe text of a label -/

/-- The short way for labels of plain octets gives what the table gives. -/
theorem safeChars_eq_flatMap (l : Label) : l.safeChars = l.octets.flatMap safeOctet := by
  unfold safeChars
  split_ifs with hplain
  · rw [List.map_eq_flatMap]
    refine List.flatMap_congr fun b hb => ?_
    rw [safeOctet, if_pos (List.all_eq_true.1 hplain b hb)]
  · rfl

theorem octetsOfSafe_safeChars (l : Label) : octetsOfSafe l.safeChars = l.octets := by
  rw [safeChars_eq_flatMap, octetsOfSafe_flatMap]

theorem octets_injective : Function.Injective octets := by
  rintro ⟨x, hx⟩ ⟨y, hy⟩ rfl
  rfl

/-- Labels with the same safe text are the same. -/
theorem safeChars_injective : Function.Injective safeChars := by
  intro l m h
  apply octets_injective
  rw [← octetsOfSafe_safeChars l, h, octetsOfSafe_safeChars]

theorem isSafe_of_mem_safeChars (hc : c ∈ l.safeChars) : IsSafe c := by
  rw [safeChars_eq_flatMap] at hc
  obtain ⟨b, _, hc⟩ := List.mem_flatMap.1 hc
  exact (shown_safeOctet b).isSafe hc

theorem safeChars_ne_nil (h : l.octets ≠ []) : l.safeChars ≠ [] := by
  intro hnil
  refine h ?_
  rw [← octetsOfSafe_safeChars, hnil]
  rfl

/-- A label of graphic octets only. -/
def IsGraphic (l : Label) : Prop :=
  ∀ b ∈ l.octets, Graphic b

instance : DecidablePred IsGraphic := fun l => inferInstanceAs (Decidable (∀ b ∈ l.octets, _))

theorem IsGraphic.safeChars_eq (h : l.IsGraphic) :
    l.safeChars = l.octets.map fun b => Char.ofNat b.toNat := by
  rw [safeChars_eq_flatMap, List.map_eq_flatMap]
  exact List.flatMap_congr fun b hb => (shown_safeOctet b).eq_of_graphic (h b hb)

theorem exists_not_ascii (h : ¬ l.IsGraphic) : ∃ c ∈ l.safeChars, 128 ≤ c.toNat := by
  simp only [IsGraphic, Classical.not_forall] at h
  obtain ⟨b, hb, hnot⟩ := h
  obtain ⟨c, rest, hshown, hwide⟩ := (shown_safeOctet b).head hnot
  have hc : c ∈ safeOctet b := hshown ▸ List.mem_cons_self
  rw [safeChars_eq_flatMap]
  exact ⟨c, List.mem_flatMap_of_mem hb hc, Nat.le_trans (by decide) hwide⟩

end Label

end StubResolver
