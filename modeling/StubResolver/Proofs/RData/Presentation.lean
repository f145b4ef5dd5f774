import StubResolver.Proofs.Label
import StubResolver.Proofs.RData.Segments

/-!
# The presentation of a text

A text is shown as its character strings in quotes, with a space between each two (`Quoted`).
Between quotes, printable ASCII stands for itself, but for the quote and the backslash, which get a
backslash in front, and every other octet is a backslash and its number in three digits (`Shown` is
the table). No octet is shown by a quote alone, so a string can be read up to the quote at its end
(`readString_present`), and texts that are shown alike have the same strings.
-/

namespace StubResolver.TextStrings

variable {b : UInt8} {c : Char} {cs : List Char} {s : Octets} {strings : List Octets}
  {t x y : TextStrings}

/-! ## The table of escapes -/

/-- How an octet is shown between quotes. -/
inductive Shown : UInt8 → List Char → Prop
  | quote : Shown 34 ['\\', '"']
  | backslash : Shown 92 ['\\', '\\']
  | printable {b : UInt8} (h : 32 ≤ b.toNat ∧ b.toNat ≤ 126) (hquote : b ≠ 34)
      (hbackslash : b ≠ 92) : Shown b [Char.ofNat b.toNat]
  | decimal {b : UInt8} {x y z : Nat} (h : b.toNat < 32 ∨ 126 < b.toNat) (hx : x < 10) (hy : y < 10)
      (hz : z < 10) (hvalue : b.toNat = 100 * x + 10 * y + z) :
      Shown b ['\\', x.digitChar, y.digitChar, z.digitChar]

theorem shown_presentOctet (b : UInt8) : Shown b (presentOctet b) := by
  unfold presentOctet
  split_ifs with hescaped hprintable
  · rcases hescaped with rfl | rfl
    · exact .quote
    · exact .backslash
  · rw [not_or] at hescaped
    rw [UInt8.le_iff_toNat_le, UInt8.le_iff_toNat_le] at hprintable
    exact .printable hprintable hescaped.1 hescaped.2
  · rw [UInt8.le_iff_toNat_le, UInt8.le_iff_toNat_le] at hprintable
    have hrange : ¬ (32 ≤ b.toNat ∧ b.toNat ≤ 126) := hprintable
    have := b.toNat_lt
    exact .decimal (by omega) (by omega) (by omega) (by omega) (by omega)

theorem Shown.printable_of_mem (h : Shown b cs) (hc : c ∈ cs) : 32 ≤ c.toNat ∧ c.toNat ≤ 126 := by
  have hdigit : ∀ {n : Nat}, n < 10 → 32 ≤ n.digitChar.toNat ∧ n.digitChar.toNat ≤ 126 := by
    intro n hn
    rw [Nat.toNat_digitChar_of_lt_ten hn]
    omega
  cases h with
  | quote | backslash =>
    simp only [List.mem_cons, List.not_mem_nil, or_false] at hc
    rcases hc with rfl | rfl <;> decide
  | printable h =>
    rw [List.mem_singleton.1 hc, Label.toNat_charOfNat_octet]
    exact h
  | decimal h hx hy hz =>
    simp only [List.mem_cons, List.not_mem_nil, or_false] at hc
    rcases hc with rfl | rfl | rfl | rfl
    · decide
    · exact hdigit hx
    · exact hdigit hy
    · exact hdigit hz

/-! ## Reading a string back -/

/-- The value of a decimal digit. -/
def digitValue (c : Char) : Nat :=
  c.toNat - 48

/-- The octets up to the first quote that is not escaped, and what is behind it. -/
def readString : List Char → Option (Octets × List Char)
  | [] => none
  | '"' :: rest => some ([], rest)
  | '\\' :: '"' :: rest => (readString rest).map (Prod.map (34 :: ·) id)
  | '\\' :: '\\' :: rest => (readString rest).map (Prod.map (92 :: ·) id)
  | '\\' :: x :: y :: z :: rest =>
    let value := 100 * digitValue x + 10 * digitValue y + digitValue z
    (readString rest).map (Prod.map (UInt8.ofNat value :: ·) id)
  | c :: rest => (readString rest).map (Prod.map (UInt8.ofNat c.toNat :: ·) id)

theorem readString_cons (hquote : c ≠ '"') (hbackslash : c ≠ '\\') (rest : List Char) :
    readString (c :: rest) =
      (readString rest).map (Prod.map (UInt8.ofNat c.toNat :: ·) id) := by
  rw [readString]
  · exact hquote
  · rintro rest rfl
    exact absurd rfl hbackslash
  · rintro rest rfl
    exact absurd rfl hbackslash
  · rintro x y z rest rfl
    exact absurd rfl hbackslash

theorem Shown.readString_append (h : Shown b cs) (rest : List Char) :
    readString (cs ++ rest) = (readString rest).map (Prod.map (b :: ·) id) := by
  cases h with
  | quote => rw [List.cons_append, List.singleton_append, readString]
  | backslash => rw [List.cons_append, List.singleton_append, readString]
  | printable h hquote hbackslash =>
    have hne : ∀ n : UInt8, b ≠ n → Char.ofNat b.toNat ≠ Char.ofNat n.toNat := by
      intro n hn heq
      refine hn (UInt8.toNat_inj.1 ?_)
      rw [← Label.toNat_charOfNat_octet b, heq, Label.toNat_charOfNat_octet]
    rw [List.singleton_append, readString_cons (hne 34 hquote) (hne 92 hbackslash),
      Label.toNat_charOfNat_octet, UInt8.ofNat_toNat]
  | @decimal b x y z h hx hy hz hvalue =>
    have hne : ∀ d : Char, 58 ≤ d.toNat ∨ d.toNat < 48 → x.digitChar ≠ d := by
      rintro d hd rfl
      rw [Nat.toNat_digitChar_of_lt_ten hx] at hd
      omega
    show readString ('\\' :: x.digitChar :: y.digitChar :: z.digitChar :: rest) = _
    rw [readString, digitValue, digitValue, digitValue, Nat.toNat_digitChar_sub_48_of_lt_ten hx,
      Nat.toNat_digitChar_sub_48_of_lt_ten hy, Nat.toNat_digitChar_sub_48_of_lt_ten hz, ← hvalue,
      UInt8.ofNat_toNat]
    · exact hne '"' (.inr (by decide))
    · exact hne '\\' (.inl (by decide))

/-- A string is read up to its closing quote. -/
theorem readString_present (s : Octets) (rest : List Char) :
    readString (s.flatMap presentOctet ++ '"' :: rest) = some (s, rest) := by
  induction s with
  | nil => rfl
  | cons b s ih =>
    rw [List.flatMap_cons, List.append_assoc, (shown_presentOctet b).readString_append, ih]
    rfl

/-! ## Rows of strings -/

/-- A string in quotes, octet by octet. -/
def Quoted (s : Octets) (text : List Char) : Prop :=
  ∃ pieces, List.Forall₂ Shown s pieces ∧ text = '"' :: pieces.flatten ++ ['"']

theorem quoted_presentString (s : Octets) : Quoted s (presentString s) := by
  refine ⟨s.map presentOctet, ?_, by rw [presentString, List.flatMap_def]⟩
  rw [List.forall₂_map_right_iff, List.forall₂_same]
  exact fun b _ => shown_presentOctet b

/-- A quote, a backslash, and an octet beyond ASCII with a digit behind it. -/
example : presentString [34, 92, 255, 55] = "\"\\\"\\\\\\2557\"".toList := by decide

theorem printable_of_mem_presentString (hc : c ∈ presentString s) :
    32 ≤ c.toNat ∧ c.toNat ≤ 126 := by
  have hquote : 32 ≤ '"'.toNat ∧ '"'.toNat ≤ 126 := by decide
  simp only [presentString, List.mem_append, List.mem_cons, List.not_mem_nil, or_false,
    List.mem_flatMap] at hc
  rcases hc with (rfl | ⟨b, _, hb⟩) | rfl
  · exact hquote
  · exact (shown_presentOctet b).printable_of_mem hb
  · exact hquote

/-- A row is its strings with a space in front of each, less the first space. -/
theorem cons_presentStrings (h : strings ≠ []) :
    ' ' :: presentStrings strings = strings.flatMap fun s => ' ' :: presentString s := by
  induction strings with
  | nil => exact absurd rfl h
  | cons s ss ih =>
    cases ss with
    | nil => rw [presentStrings, List.map_singleton, List.intercalate_singleton,
        List.flatMap_singleton]
    | cons next ss =>
      have hnext := ih (List.cons_ne_nil next ss)
      rw [List.flatMap_cons, ← hnext, presentStrings, List.map_cons, List.map_cons,
        List.intercalate_cons_cons, List.append_assoc]
      rfl

theorem printable_of_mem_presentStrings (hc : c ∈ presentStrings strings) :
    32 ≤ c.toNat ∧ c.toNat ≤ 126 := by
  by_cases h : strings = []
  · rw [h] at hc
    cases hc
  · have hmem := List.mem_cons_of_mem ' ' hc
    rw [cons_presentStrings h] at hmem
    obtain ⟨s, _, hmem⟩ := List.mem_flatMap.1 hmem
    rcases List.mem_cons.1 hmem with rfl | hmem
    · decide
    · exact printable_of_mem_presentString hmem

/-- Where one string ends says where the next begins. -/
theorem flatMap_presentString_injective :
    Function.Injective fun strings : List Octets =>
      strings.flatMap fun s => ' ' :: presentString s := by
  intro xs
  induction xs with
  | nil =>
    rintro (_ | ⟨y, ys⟩) h
    · rfl
    · cases h
  | cons x xs ih =>
    rintro (_ | ⟨y, ys⟩) h
    · cases h
    · simp only [List.flatMap_cons, presentString, List.cons_append, List.append_assoc,
        List.cons.injEq, true_and] at h
      have hread := congrArg readString h
      rw [List.nil_append, List.nil_append, readString_present, readString_present] at hread
      obtain ⟨rfl, hrest⟩ := Prod.mk.inj (Option.some.inj hread)
      rw [ih hrest]

theorem presentStrings_injective : Function.Injective presentStrings := by
  have hnil : ∀ {strings : List Octets}, strings ≠ [] → presentStrings strings ≠ [] := by
    intro strings h hempty
    have hrow := cons_presentStrings h
    obtain ⟨s, ss, rfl⟩ := List.exists_cons_of_ne_nil h
    rw [hempty, List.flatMap_cons, presentString] at hrow
    cases hrow
  intro xs ys h
  by_cases hxs : xs = []
  · subst hxs
    by_contra hys
    exact hnil (Ne.symm hys) h.symm
  · have hys : ys ≠ [] := by
      rintro rfl
      exact hnil hxs h
    apply flatMap_presentString_injective
    show xs.flatMap _ = ys.flatMap _
    rw [← cons_presentStrings hxs, ← cons_presentStrings hys, h]

/-! ## Shown texts -/

theorem toText_inj {x y : TextStrings} : x.toText = y.toText ↔ x.segments = y.segments := by
  rw [toText, toText, String.ofList_inj, presentStrings_injective.eq_iff]

/-- **A text is known from its presentation.** A text is shown as its character strings in quotes
with spaces between, in printable ASCII. Texts that are shown alike have the same character strings,
and the same blob if they were made of strings or received. -/
theorem toText_determines :
    (∀ t : TextStrings,
      (∃ quoted, List.Forall₂ Quoted t.segments quoted ∧
        t.toText.toList = [' '].intercalate quoted) ∧
      ∀ c ∈ t.toText.toList, 32 ≤ c.toNat ∧ c.toNat ≤ 126) ∧
    ∀ x y : TextStrings, x.Genuine → y.Genuine → x.toText = y.toText →
      x.segments = y.segments ∧ x.blob = y.blob := by
  refine ⟨fun t => ⟨⟨t.segments.map presentString, ?_, ?_⟩, fun c hc => ?_⟩, fun x y hx hy h => ?_⟩
  · rw [List.forall₂_map_right_iff, List.forall₂_same]
    exact fun s _ => quoted_presentString s
  · rw [toText, String.toList_ofList]
    rfl
  · rw [toText, String.toList_ofList] at hc
    exact printable_of_mem_presentStrings hc
  · have hsegments := toText_inj.1 h
    exact ⟨hsegments, congrArg blob (hx.eq_of_segments hy hsegments)⟩

/-- A text and its blob: a quote, a backslash and an octet beyond ASCII with a digit behind it, and
an empty string. -/
theorem toText_determines_escapes :
    let x := ofStrings [[34, 92, 255, 55], []]
    let y : TextStrings := ⟨[4, 34, 92, 255, 55, 0]⟩
    (x.Genuine ∧ y.Genuine ∧ x.toText = y.toText) ∧ x.segments = y.segments ∧ x.blob = y.blob := by
  intro x y
  have hxy : x = y := by
    show ofStrings [[34, 92, 255, 55], []] = ⟨[4, 34, 92, 255, 55, 0]⟩
    cbv
  have hx : x.Genuine := .inl ⟨_, rfl⟩
  have hy : y.Genuine := hxy ▸ hx
  have htext : x.toText = y.toText := congrArg toText hxy
  exact ⟨⟨hx, hy, htext⟩, toText_determines.2 x y hx hy htext⟩

end StubResolver.TextStrings
