import Mathlib.Data.List.Nodup
import StubResolver.Proofs.Text
import StubResolver.RecordType.Text

/-!
# Types from text

A trimmed text names a type by its mnemonic, or by `TYPE` and the digits of its code (`Names`), in
any case. Texts of types are read back. Besides, a plus sign is let through before the digits, since
it belongs to the numerals that the code is read with.
-/

namespace StubResolver

open Text (Trimmed Digits equalIgnoringCase lowerAscii)

namespace RecordType

variable {t u : RecordType} {text : List Char}

/-- The mnemonic in lower case. -/
def lowerMnemonic (t : RecordType) : List Char :=
  t.mnemonic.toList.map lowerAscii

theorem nodup_lowerMnemonic : (all.map lowerMnemonic).Nodup := by
  decide

/-- No two types have mnemonics that differ in case only. -/
theorem lowerMnemonic_inj (h : t.lowerMnemonic = u.lowerMnemonic) : t = u :=
  List.inj_on_of_nodup_map nodup_lowerMnemonic (mem_all t) (mem_all u) h

theorem lowerMnemonic_of_ofMnemonic? (h : ofMnemonic? text = some t) :
    t.lowerMnemonic = text.map lowerAscii := by
  have := List.find?_some (show all.find? _ = some t from h)
  exact beq_iff_eq.1 this

/-- A mnemonic in any case is found. -/
theorem ofMnemonic?_eq_some_iff :
    ofMnemonic? text = some t ↔ t.lowerMnemonic = text.map lowerAscii := by
  refine ⟨lowerMnemonic_of_ofMnemonic?, fun h => ?_⟩
  obtain ⟨u, hu⟩ : ∃ u, ofMnemonic? text = some u :=
    Option.isSome_iff_exists.1 (List.find?_isSome.2 ⟨t, mem_all t, beq_iff_eq.2 h⟩)
  rw [hu, lowerMnemonic_inj ((lowerMnemonic_of_ofMnemonic? hu).trans h.symm)]

theorem any_isBlank_mnemonic : ∀ t ∈ all, t.mnemonic.toList.any Text.isBlank = false := by
  decide

theorem take_lowerMnemonic_ne : ∀ t ∈ all, t.lowerMnemonic.take 4 ≠ "type".toList := by
  decide

end RecordType

namespace TypeCode

variable {sign cs core : List Char} {t : TypeCode} {text : String}

/-- The type that trimmed text names. It may have `sign` before the digits of a code. -/
inductive Names (sign : List Char) : List Char → TypeCode → Prop
  | mnemonic (t : RecordType) {cs : List Char}
      (h : t.mnemonic.toList.map lowerAscii = cs.map lowerAscii) : Names sign cs (.known t)
  | number {word digits : List Char} {n : Nat} (hword : word.map lowerAscii = "type".toList)
      (hdigits : Digits digits n) (hn : n ≤ 65535) :
      Names sign (word ++ (sign ++ digits)) (.ofCode (UInt16.ofNat n))

/-- What is behind the word `TYPE` in any case. -/
theorem ofTrimmed?_of_word {word rest : List Char} (h : word.map lowerAscii = "type".toList) :
    ofTrimmed? (word ++ rest) =
      (Text.numeralUpTo? 10 65535 rest).map fun n => ofCode (UInt16.ofNat n) := by
  have hlength : word.length = 4 := by
    rw [← List.length_map lowerAscii, h]
    rfl
  have hnone : RecordType.ofMnemonic? (word ++ rest) = none := by
    refine Option.eq_none_iff_forall_ne_some.2 fun t ht => ?_
    refine RecordType.take_lowerMnemonic_ne t (RecordType.mem_all t) ?_
    rw [RecordType.lowerMnemonic_of_ofMnemonic? ht, List.map_append, h]
    rfl
  have hword : equalIgnoringCase ((word ++ rest).take 4) "TYPE".toList = true := by
    rw [← hlength, List.take_left]
    exact beq_iff_eq.2 h
  unfold ofTrimmed?
  rw [hnone]
  dsimp only
  rw [if_pos hword, ← hlength, List.drop_left]

theorem Names.ofTrimmed? (h : Names sign cs t) (hsign : sign = [] ∨ sign = ['+']) :
    ofTrimmed? cs = some t := by
  cases h with
  | mnemonic t h =>
    unfold TypeCode.ofTrimmed?
    rw [RecordType.ofMnemonic?_eq_some_iff.2 h]
  | number hword hdigits hn =>
    rw [ofTrimmed?_of_word hword, Text.numeralUpTo?_eq_some_iff.2 ⟨?_, hn⟩]
    · rfl
    · rcases hsign with rfl | rfl
      · exact .inl hdigits
      · exact .inr ⟨_, rfl, hdigits⟩

theorem names_of_ofTrimmed? (h : ofTrimmed? cs = some t) : Names [] cs t ∨ Names ['+'] cs t := by
  unfold ofTrimmed? at h
  split at h
  · rename_i t hmnemonic
    cases h
    exact .inl (.mnemonic t (RecordType.lowerMnemonic_of_ofMnemonic? hmnemonic))
  · split at h
    · rename_i hword
      obtain ⟨n, hnumeral, rfl⟩ := Option.map_eq_some_iff.1 h
      have hword : (cs.take 4).map lowerAscii = "type".toList := beq_iff_eq.1 hword
      obtain ⟨hdigits | ⟨digits, hrest, hdigits⟩, hn⟩ := Text.numeralUpTo?_eq_some_iff.1 hnumeral
      · have hnames : Names [] (cs.take 4 ++ cs.drop 4) _ := .number hword hdigits hn
        rw [List.take_append_drop] at hnames
        exact .inl hnames
      · have hnames : Names ['+'] (cs.take 4 ++ '+' :: digits) _ := .number hword hdigits hn
        rw [← hrest, List.take_append_drop] at hnames
        exact .inr hnames
    · cases h

theorem ofTrimmed?_eq_some_iff : ofTrimmed? cs = some t ↔ Names [] cs t ∨ Names ['+'] cs t :=
  ⟨names_of_ofTrimmed?, fun h => h.elim (·.ofTrimmed? (.inl rfl)) (·.ofTrimmed? (.inr rfl))⟩

theorem ofText_eq_ok_iff_ofTrimmed? :
    ofText text = .ok t ↔ ofTrimmed? (Text.trimBlanks text.toList) = some t := by
  unfold ofText
  cases ofTrimmed? (Text.trimBlanks text.toList) with
  | some u => simp
  | none => exact iff_of_false nofun nofun

theorem isBlank_of_mem_toText {c : Char} (h : c ∈ t.toText.toList) : Text.isBlank c = false := by
  cases t with
  | known t =>
    have hnone := RecordType.any_isBlank_mnemonic t (RecordType.mem_all t)
    exact Bool.eq_false_iff.2 (List.any_eq_false.1 hnone c h)
  | unknown n =>
    rw [toText, String.toList_append, List.mem_append] at h
    rcases h with h | h
    · have hnone : "TYPE".toList.any Text.isBlank = false := by decide
      exact Bool.eq_false_iff.2 (List.any_eq_false.1 hnone c h)
    · rw [Text.toList_toString] at h
      exact Text.isBlank_of_isDigit ((Text.digits_toDigits n.toNat).isDigit c h)

/-- The text of a type names the type that its code stands for. -/
theorem names_toText (t : TypeCode) : Names [] t.toText.toList (ofCode t.code) := by
  cases t with
  | known t =>
    have hcode : ofCode (known t).code = known t := ofCode_known t
    rw [hcode]
    exact .mnemonic t rfl
  | unknown n =>
    have hn := n.toNat_lt
    have hnames : Names [] ("TYPE".toList ++ ([] ++ Nat.toDigits 10 n.toNat)) _ :=
      .number (by decide) (Text.digits_toDigits n.toNat) (by omega)
    rw [UInt16.ofNat_toNat, List.nil_append] at hnames
    rw [toText, String.toList_append, Text.toList_toString]
    exact hnames

theorem ofText_toText (t : TypeCode) : ofText t.toText = .ok (ofCode t.code) := by
  rw [ofText_eq_ok_iff_ofTrimmed?, Text.trimBlanks_eq_self fun _ => isBlank_of_mem_toText]
  exact (names_toText t).ofTrimmed? (.inl rfl)

/-- **Types are read from their texts.** What trimming leaves of a text has to name a type, by its
mnemonic or by digits that may have a plus sign before them. Otherwise the error is the text as it
was given. So the sign is the only thing that sets apart what is read from what names a type by
rights. The text of a type is read as the type that its code stands for. -/
theorem ofText_reads_types (text : String) :
    (∀ t : TypeCode, ofText text = .ok t ↔
      ∃ core, Trimmed text.toList core ∧ (Names [] core t ∨ Names ['+'] core t)) ∧
      (∀ e : ProtocolError, ofText text = .error e ↔
        e = .unknownRecordType text ∧
          ∀ core, Trimmed text.toList core → ∀ t, ¬ Names [] core t ∧ ¬ Names ['+'] core t) ∧
      ((∀ t : TypeCode, ofText text = .ok t ↔ ∃ core, Trimmed text.toList core ∧ Names [] core t) ↔
        ∀ core, Trimmed text.toList core → ∀ t, Names ['+'] core t → Names [] core t) ∧
      ∀ t : TypeCode, ofText t.toText = .ok (ofCode t.code) := by
  simp only [Text.trimmed_iff, exists_eq_left, forall_eq]
  have hok : ∀ t, ofText text = .ok t ↔ Names [] (Text.trimBlanks text.toList) t ∨
      Names ['+'] (Text.trimBlanks text.toList) t := by
    intro t
    rw [ofText_eq_ok_iff_ofTrimmed?, ofTrimmed?_eq_some_iff]
  refine ⟨hok, fun e => ?_, ?_, ofText_toText⟩
  · simp only [← not_or, ← ofTrimmed?_eq_some_iff]
    unfold ofText
    cases ofTrimmed? (Text.trimBlanks text.toList) with
    | some t => exact iff_of_false nofun fun ⟨_, h⟩ => h t rfl
    | none => exact ⟨fun h => by cases h; exact ⟨rfl, nofun⟩, fun ⟨h, _⟩ => h ▸ rfl⟩
  · simp only [hok, or_iff_left_iff_imp]

example : ofText "\tType0016 " = .ok (.known .txt) := by decide

/-- A plus sign is no digit, and yet is let through before the digits of a code. -/
theorem ofText_signed_code :
    ofText "TYPE+16" = .ok (.known .txt) ∧
      ∀ core, Trimmed "TYPE+16".toList core → ∀ t, ¬ Names [] core t := by
  refine ⟨by decide, fun core hcore t hnames => ?_⟩
  obtain rfl : core = "TYPE+16".toList := Text.trimmed_iff.1 hcore
  generalize htext : "TYPE+16".toList = core at hnames
  cases hnames with
  | mnemonic t h =>
    have hnone : ∀ t ∈ RecordType.all, t.lowerMnemonic ≠ "type+16".toList := by decide
    exact hnone t (RecordType.mem_all t) (h.trans (by rw [← htext]; decide))
  | @number word digits n hword hdigits hn =>
    have hlength : word.length = 4 := by
      rw [← List.length_map lowerAscii, hword]
      rfl
    have hdrop : digits = "TYPE+16".toList.drop 4 := by
      rw [htext, ← hlength, List.drop_left, List.nil_append]
    have hplus := hdigits.isDigit '+' (by rw [hdrop]; decide)
    cases hplus

end TypeCode

end StubResolver
