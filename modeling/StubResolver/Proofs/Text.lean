import Mathlib.Data.List.DropRight
import StubResolver.Text.Blank
import StubResolver.Text.Numeral

/-!
# Trimmed texts and numerals

What trimming leaves is said by the text it came from: only the characters in question stood around
it (`EndTrimmed`, `Trimmed`). A numeral is read if it consists of decimal digits, and its value is
within the limit; a plus sign may stand before it (`numeralUpTo?_eq_some_iff`).
-/

namespace StubResolver.Text

/-! ## Trimming -/

/-- `core` is what is left of `cs` without the characters of `p` at its end. -/
structure EndTrimmed (p : Char → Bool) (cs core : List Char) : Prop where
  exists_back : ∃ back, cs = core ++ back ∧ ∀ c ∈ back, p c = true
  last : ∀ c ∈ core.getLast?, p c = false

/-- `core` is what is left of `cs` without white space at either end. -/
structure Trimmed (cs core : List Char) : Prop where
  exists_ends : ∃ front back, cs = front ++ core ++ back ∧ (∀ c ∈ front, isBlank c = true) ∧
    ∀ c ∈ back, isBlank c = true
  head : ∀ c ∈ core.head?, isBlank c = false
  last : ∀ c ∈ core.getLast?, isBlank c = false

variable {p : Char → Bool} {cs core : List Char}

theorem trimRight_of_last (h : ∀ c ∈ cs.getLast?, p c = false) : trimRight p cs = cs := by
  refine List.rdropWhile_eq_self_iff.2 fun hne => ?_
  rw [h _ (List.getLast?_eq_some_getLast hne)]
  exact Bool.false_ne_true

theorem trimRight_append {back : List Char} (h : ∀ c ∈ back, p c = true) :
    trimRight p (cs ++ back) = trimRight p cs := by
  unfold trimRight
  rw [List.reverse_append, List.dropWhile_append_of_pos fun c hc => h c (List.mem_reverse.1 hc)]

theorem endTrimmed_trimRight (p : Char → Bool) (cs : List Char) :
    EndTrimmed p cs (trimRight p cs) := by
  refine ⟨⟨cs.rtakeWhile p, List.rdropWhile_append_rtakeWhile.symm,
    fun c => List.mem_rtakeWhile_imp⟩, fun c hc => ?_⟩
  obtain ⟨hne, rfl⟩ := List.mem_getLast?_eq_getLast hc
  exact Bool.eq_false_iff.2 (List.rdropWhile_last_not p cs hne)

theorem endTrimmed_iff : EndTrimmed p cs core ↔ core = trimRight p cs := by
  constructor
  · rintro ⟨⟨back, rfl, hback⟩, hlast⟩
    rw [trimRight_append hback, trimRight_of_last hlast]
  · rintro rfl
    exact endTrimmed_trimRight p cs

theorem trimmed_trimBlanks (cs : List Char) : Trimmed cs (trimBlanks cs) := by
  obtain ⟨⟨back, hcs, hback⟩, hlast⟩ := endTrimmed_trimRight isBlank (cs.dropWhile isBlank)
  refine ⟨⟨cs.takeWhile isBlank, back, ?_, fun c => List.mem_takeWhile_imp, hback⟩,
    fun c hc => ?_, hlast⟩
  · rw [trimBlanks, List.append_assoc, ← hcs, List.takeWhile_append_dropWhile]
  · have hhead := List.head?_dropWhile_not isBlank cs
    have hc : (trimRight isBlank (cs.dropWhile isBlank)).head? = some c := hc
    rw [hcs, List.head?_append, hc] at hhead
    exact hhead

theorem trimmed_iff : Trimmed cs core ↔ core = trimBlanks cs := by
  constructor
  · rintro ⟨⟨front, back, rfl, hfront, hback⟩, hhead, hlast⟩
    rw [trimBlanks, List.append_assoc, List.dropWhile_append_of_pos hfront]
    cases core with
    | nil =>
      -- there is nothing but white space
      rw [List.nil_append, List.dropWhile_eq_nil_iff.2 hback]
      rfl
    | cons c core =>
      have hc : ¬ isBlank c = true := by simp [hhead c rfl]
      rw [List.cons_append, List.dropWhile_cons_of_neg hc, ← List.cons_append,
        trimRight_append hback, trimRight_of_last hlast]
  · rintro rfl
    exact trimmed_trimBlanks cs

theorem trimBlanks_eq_self (h : ∀ c ∈ cs, isBlank c = false) : trimBlanks cs = cs := by
  refine (trimmed_iff.1 ⟨⟨[], [], (List.append_nil cs).symm, nofun, nofun⟩, ?_, ?_⟩).symm
  · exact fun c hc => h c (List.mem_of_mem_head? hc)
  · exact fun c hc => h c (List.mem_of_getLast? hc)

/-! ## Numerals -/

/-- One or more decimal digits, whose value is `n`. -/
structure Digits (cs : List Char) (n : Nat) : Prop where
  ne_nil : cs ≠ []
  isDigit : ∀ c ∈ cs, c.isDigit = true
  value : Nat.ofDigitChars 10 cs 0 = n

variable {limit n acc : Nat} {c : Char}

theorem digitValue?_of_isDigit (h : c.isDigit = true) : digitValue? 10 c = some (c.toNat - 48) := by
  have hc : 48 ≤ c.toNat ∧ c.toNat ≤ 57 := Char.isDigit_iff_toNat.1 h
  unfold digitValue?
  dsimp only
  rw [if_pos hc, Option.filter_some, if_pos (by simp; omega)]

theorem digitValue?_eq_none (h : ¬ c.isDigit = true) : digitValue? 10 c = none := by
  have hc : ¬ (48 ≤ c.toNat ∧ c.toNat ≤ 57) := fun hc => h (Char.isDigit_iff_toNat.2 hc)
  unfold digitValue?
  dsimp only
  rw [if_neg hc]
  -- the letters have values from ten on
  split_ifs
  · rw [Option.filter_some, if_neg (by simp; omega)]
  · rw [Option.filter_some, if_neg (by simp; omega)]
  · rfl

theorem le_ofDigitChars (cs : List Char) (acc : Nat) : acc ≤ Nat.ofDigitChars 10 cs acc := by
  induction cs generalizing acc with
  | nil => exact Nat.le_refl acc
  | cons c cs ih =>
    rw [Nat.ofDigitChars_cons]
    exact Nat.le_trans (by omega) (ih _)

/-- One more digit behind a value, if that keeps to the limit. -/
def pushDigit (limit acc : Nat) (c : Char) : Option Nat := do
  let n := 10 * acc + (← digitValue? 10 c)
  if n ≤ limit then some n else none

theorem pushDigit_eq_some_iff :
    pushDigit limit acc c = some n ↔
      c.isDigit = true ∧ n = 10 * acc + (c.toNat - 48) ∧ n ≤ limit := by
  unfold pushDigit
  by_cases hc : c.isDigit = true
  · rw [digitValue?_of_isDigit hc]
    simp only [Option.bind_eq_bind, Option.bind_some, Option.ite_none_right_eq_some,
      Option.some.injEq, hc, true_and]
    constructor
    · rintro ⟨hle, rfl⟩
      exact ⟨rfl, hle⟩
    · rintro ⟨rfl, hle⟩
      exact ⟨hle, rfl⟩
  · rw [digitValue?_eq_none hc]
    exact iff_of_false nofun fun h => hc h.1

/-- Reading stops at a value beyond the limit, since more digits make no smaller one. -/
theorem foldlM_pushDigit_eq_some_iff (h : acc ≤ limit) :
    cs.foldlM (pushDigit limit) acc = some n ↔
      (∀ c ∈ cs, c.isDigit = true) ∧ Nat.ofDigitChars 10 cs acc = n ∧ n ≤ limit := by
  induction cs generalizing acc with
  | nil =>
    constructor
    · intro hn
      cases hn
      exact ⟨nofun, rfl, h⟩
    · rintro ⟨-, rfl, -⟩
      rfl
  | cons c cs ih =>
    rw [List.foldlM_cons, Option.bind_eq_bind, Option.bind_eq_some_iff, List.forall_mem_cons,
      Nat.ofDigitChars_cons]
    constructor
    · rintro ⟨m, hm, hn⟩
      obtain ⟨hc, rfl, hle⟩ := pushDigit_eq_some_iff.1 hm
      obtain ⟨hcs, hn⟩ := (ih hle).1 hn
      exact ⟨⟨hc, hcs⟩, hn⟩
    · rintro ⟨⟨hc, hcs⟩, hn, hlimit⟩
      have hle := Nat.le_trans (le_ofDigitChars cs _) (hn.trans_le hlimit)
      exact ⟨_, pushDigit_eq_some_iff.2 ⟨hc, rfl, hle⟩, (ih hle).2 ⟨hcs, hn, hlimit⟩⟩

theorem digitsUpTo?_eq_some_iff :
    digitsUpTo? 10 limit cs = some n ↔ Digits cs n ∧ n ≤ limit := by
  unfold digitsUpTo?
  by_cases hcs : cs = []
  · rw [if_pos (List.isEmpty_iff.2 hcs)]
    exact iff_of_false nofun fun ⟨h, _⟩ => h.ne_nil hcs
  · rw [if_neg (mt List.isEmpty_iff.1 hcs)]
    refine (foldlM_pushDigit_eq_some_iff (Nat.zero_le limit)).trans ?_
    exact ⟨fun ⟨hdigits, hvalue, hn⟩ => ⟨⟨hcs, hdigits, hvalue⟩, hn⟩,
      fun ⟨h, hn⟩ => ⟨h.isDigit, h.value, hn⟩⟩

/-- A numeral may have a plus sign before its digits. -/
theorem numeralUpTo?_eq_some_iff :
    numeralUpTo? 10 limit cs = some n ↔
      (Digits cs n ∨ ∃ digits, cs = '+' :: digits ∧ Digits digits n) ∧ n ≤ limit := by
  unfold numeralUpTo?
  split
  · rename_i digits
    have hsign : ¬ Digits ('+' :: digits) n := fun h => by
      have := h.isDigit '+' List.mem_cons_self
      cases this
    rw [digitsUpTo?_eq_some_iff]
    constructor
    · rintro ⟨h, hn⟩
      exact ⟨.inr ⟨digits, rfl, h⟩, hn⟩
    · rintro ⟨h | ⟨_, heq, h⟩, hn⟩
      · exact absurd h hsign
      · cases heq
        exact ⟨h, hn⟩
  · rename_i hplain
    rw [digitsUpTo?_eq_some_iff]
    constructor
    · rintro ⟨h, hn⟩
      exact ⟨.inl h, hn⟩
    · rintro ⟨h | ⟨digits, rfl, _⟩, hn⟩
      · exact ⟨h, hn⟩
      · exact absurd rfl (hplain digits)

theorem isBlank_of_isDigit (h : c.isDigit = true) : isBlank c = false := by
  have hc : 48 ≤ c.toNat ∧ c.toNat ≤ 57 := Char.isDigit_iff_toNat.1 h
  unfold isBlank
  dsimp only
  simp only [Bool.or_eq_false_iff, Bool.and_eq_false_iff, decide_eq_false_iff_not, beq_eq_false_iff_ne]
  omega

theorem toList_toString (n : Nat) : (toString n).toList = Nat.toDigits 10 n := by
  rw [Nat.toString_eq_ofList_toDigits, String.toList_ofList]

/-- The digits of a number are a numeral of it. -/
theorem digits_toDigits (n : Nat) : Digits (Nat.toDigits 10 n) n where
  ne_nil := Nat.toDigits_ne_nil
  isDigit _ := Nat.isDigit_of_mem_toDigits (by decide) (by decide)
  value := Nat.ofDigitChars_ten_toDigits

end StubResolver.Text
