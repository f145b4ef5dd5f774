import Mathlib.Algebra.Group.Nat.Defs
import Mathlib.Tactic.SplitIfs
import StubResolver.Text.Utf8

/-!
# ASCII at the front of a text

What the machine has read does not bear on what it reads next (`read_foldl`), so a text can be taken
character by character from the front. A character of several octets is never an ASCII one, and
neither is the replacement for a broken one (`Pending.Sound`, `exists_charsFrom_some`). A text
therefore begins with ASCII characters exactly if the octets do, whatever octets follow
(`lossy_eq_append_iff`).
-/

namespace StubResolver.Utf8

variable {s t : State} {cs : List Char} {b : UInt8} {bytes : Octets} {p : Pending}

/-! ## What was read before -/

/-- In one state `cs` was read before all that was read in the other, and both are about to read
alike. -/
structure State.After (s : State) (cs : List Char) (t : State) : Prop where
  read : s.read = t.read ++ cs
  pending : s.pending = t.pending

namespace State.After

theorem broken (h : s.After cs t) : s.broken.After cs t.broken :=
  ⟨congrArg (replacement :: ·) h.read, rfl⟩

theorem first (h : s.After cs t) (b : UInt8) : (s.first b).After cs (t.first b) := by
  unfold State.first
  split
  · exact ⟨congrArg (Char.ofNat b.toNat :: ·) h.read, rfl⟩
  · split
    · exact ⟨h.read, rfl⟩
    · exact h.broken

theorem feed (h : s.After cs t) (b : UInt8) : (s.feed b).After cs (t.feed b) := by
  unfold State.feed
  rw [h.pending]
  split
  · exact h.first b
  · split
    · dsimp only
      split
      · exact ⟨congrArg (_ :: ·) h.read, rfl⟩
      · exact ⟨h.read, rfl⟩
    · exact h.broken.first b

theorem foldl (h : s.After cs t) (bytes : Octets) :
    (bytes.foldl State.feed s).After cs (bytes.foldl State.feed t) := by
  induction bytes generalizing s t with
  | nil => exact h
  | cons b bytes ih => exact ih (h.feed b)

theorem finish (h : s.After cs t) : s.finish.After cs t.finish := by
  unfold State.finish
  rw [h.pending]
  split
  · exact h.broken
  · exact h

end State.After

theorem State.after_read (s : State) : s.After s.read ⟨[], s.pending, true⟩ :=
  ⟨rfl, rfl⟩

/-- The characters of octets behind a character that has begun, or behind none. -/
def charsFrom (begun : Option Pending) (bytes : Octets) : List Char :=
  (bytes.foldl State.feed ⟨[], begun, true⟩).finish.read.reverse

theorem toList_lossy (bytes : Octets) : (lossy bytes).toList = charsFrom none bytes :=
  String.toList_ofList

theorem read_foldl (s : State) (bytes : Octets) :
    (bytes.foldl State.feed s).finish.read.reverse = s.read.reverse ++ charsFrom s.pending bytes := by
  rw [((s.after_read.foldl bytes).finish).read, List.reverse_append, charsFrom]

theorem charsFrom_cons (begun : Option Pending) (b : UInt8) (bytes : Octets) :
    charsFrom begun (b :: bytes) =
      (State.feed ⟨[], begun, true⟩ b).read.reverse ++
        charsFrom (State.feed ⟨[], begun, true⟩ b).pending bytes :=
  read_foldl _ bytes

theorem charsFrom_ascii (h : b < 0x80) (bytes : Octets) :
    charsFrom none (b :: bytes) = Char.ofNat b.toNat :: charsFrom none bytes := by
  rw [charsFrom_cons]
  simp only [State.feed, State.first, if_pos h]
  rfl

/-- Octets below `0x80` are their own text. -/
theorem lossy_of_ascii (h : ∀ b ∈ bytes, b < 0x80) :
    lossy bytes = String.ofList (bytes.map fun b => Char.ofNat b.toNat) := by
  rw [← String.toList_inj, toList_lossy, String.toList_ofList]
  induction bytes with
  | nil => rfl
  | cons b bytes ih =>
    obtain ⟨hb, hbytes⟩ := List.forall_mem_cons.1 h
    rw [charsFrom_ascii hb, ih hbytes, List.map_cons]

/-! ## Characters of several octets -/

theorem toNat_charOfNat {n : Nat} (h : n.isValidChar) : (Char.ofNat n).toNat = n := by
  rw [Char.ofNat, dif_pos h]
  rfl

/-- The least number of a character that has begun so. -/
def Pending.least (p : Pending) : Nat :=
  (64 * p.bits + p.low.toNat % 64) * 64 ^ p.owed

/-- What the number of a character that has begun so stays below. -/
def Pending.bound (p : Pending) : Nat :=
  (64 * p.bits + p.high.toNat % 64 + 1) * 64 ^ p.owed

/-- However the character goes on, its number is that of a character beyond ASCII. -/
structure Pending.Sound (p : Pending) : Prop where
  low : 0x80 ≤ p.low.toNat
  high : p.high.toNat ≤ 0xBF
  beyond : ∀ n, p.least ≤ n → n < p.bound → 0x80 ≤ n ∧ n.isValidChar

namespace Pending.Sound

theorem of_begins? (h : begins? b = some p) : p.Sound := by
  unfold begins? at h
  simp only [UInt8.le_iff_toNat_le, ← UInt8.toNat_inj] at h
  -- the table of first octets, row by row
  split_ifs at h <;> cases h <;> constructor <;>
    simp [Pending.least, Pending.bound, Nat.isValidChar] at * <;> omega

/-- One more octet narrows the numbers that are left. -/
theorem narrow (h : p.Sound) (hb : p.low ≤ b ∧ b ≤ p.high) :
    p.least ≤ (64 * p.bits + b.toNat % 64) * 64 ^ p.owed ∧
      (64 * p.bits + b.toNat % 64 + 1) * 64 ^ p.owed ≤ p.bound := by
  have hlow := h.low
  have hhigh := h.high
  simp only [UInt8.le_iff_toNat_le] at hb
  exact ⟨Nat.mul_le_mul_right _ (by omega), Nat.mul_le_mul_right _ (by omega)⟩

/-- Further octets may be any between `0x80` and `0xBF`. -/
theorem next (h : p.Sound) {n : Nat} (howed : p.owed = n + 1) (hb : p.low ≤ b ∧ b ≤ p.high) :
    (Pending.mk n 0x80 0xBF (64 * p.bits + b.toNat % 64)).Sound := by
  obtain ⟨hleast, hbound⟩ := h.narrow hb
  rw [howed, pow_succ', ← Nat.mul_assoc] at hleast hbound
  refine ⟨Nat.le_refl _, Nat.le_refl _, fun m hm hm' => h.beyond m ?_ ?_⟩
  · refine Nat.le_trans hleast (Nat.le_trans (Nat.le_of_eq ?_) hm)
    simp [Pending.least, Nat.mul_comm 64]
  · refine Nat.lt_of_lt_of_le hm' (Nat.le_trans (Nat.le_of_eq ?_) hbound)
    simp [Pending.bound, Nat.add_mul, Nat.add_assoc, Nat.mul_comm 64]

/-- The last octet makes a character. -/
theorem toNat_last (h : p.Sound) (howed : p.owed = 0) (hb : p.low ≤ b ∧ b ≤ p.high) :
    0x80 ≤ (Char.ofNat (64 * p.bits + b.toNat % 64)).toNat := by
  obtain ⟨hleast, hbound⟩ := h.narrow hb
  rw [howed, pow_zero, Nat.mul_one] at hleast hbound
  obtain ⟨hbeyond, hvalid⟩ := h.beyond _ hleast hbound
  rwa [toNat_charOfNat hvalid]

end Pending.Sound

/-- A character that has begun ends as one beyond ASCII, or as a replacement. -/
theorem exists_charsFrom_some (h : p.Sound) (bytes : Octets) :
    ∃ c cs, charsFrom (some p) bytes = c :: cs ∧ 0x80 ≤ c.toNat := by
  induction bytes generalizing p with
  | nil => exact ⟨replacement, [], rfl, by decide⟩
  | cons b bytes ih =>
    rw [charsFrom_cons]
    unfold State.feed
    dsimp only
    split
    · next hb =>
      split
      · next howed => exact ⟨_, _, rfl, h.toNat_last howed hb⟩
      · next n howed => exact ih (h.next howed hb)
    · -- the replacement comes before whatever the octet begins
      have hread := ((State.broken ⟨[], some p, true⟩).after_read.first b).read
      rw [hread, List.reverse_append]
      exact ⟨replacement, _, rfl, by decide⟩

/-- Octets beyond ASCII do not give an ASCII character. -/
theorem exists_charsFrom_of_not_ascii (h : ¬ b < 0x80) (bytes : Octets) :
    ∃ c cs, charsFrom none (b :: bytes) = c :: cs ∧ 0x80 ≤ c.toNat := by
  rw [charsFrom_cons]
  simp only [State.feed, State.first, if_neg h]
  split
  · next p hp => exact exists_charsFrom_some (.of_begins? hp) bytes
  · exact ⟨replacement, _, rfl, by decide⟩

/-! ## ASCII at the front -/

theorem toNat_octetOf {c : Char} (h : c.toNat < 0x80) : (UInt8.ofNat c.toNat).toNat = c.toNat := by
  rw [UInt8.toNat_ofNat', Nat.mod_eq_of_lt (Nat.lt_trans h (by decide))]

theorem charsFrom_eq_cons_iff {c : Char} (hc : c.toNat < 0x80) :
    charsFrom none bytes = c :: cs ↔
      ∃ rest, bytes = UInt8.ofNat c.toNat :: rest ∧ charsFrom none rest = cs := by
  have hascii : UInt8.ofNat c.toNat < 0x80 := by
    rw [UInt8.lt_iff_toNat_lt, toNat_octetOf hc]
    exact hc
  have hchar : Char.ofNat (UInt8.ofNat c.toNat).toNat = c := by
    rw [toNat_octetOf hc, Char.ofNat_toNat]
  constructor
  · intro h
    cases bytes with
    | nil => cases h
    | cons b rest =>
      by_cases hb : b < 0x80
      · rw [charsFrom_ascii hb] at h
        obtain ⟨rfl, rfl⟩ := List.cons.inj h
        have hvalid : b.toNat.isValidChar := .inl (Nat.lt_trans b.toNat_lt (by decide))
        exact ⟨rest, by rw [toNat_charOfNat hvalid, UInt8.ofNat_toNat], rfl⟩
      · obtain ⟨d, ds, hchars, hd⟩ := exists_charsFrom_of_not_ascii hb rest
        obtain ⟨rfl, rfl⟩ := List.cons.inj (hchars.symm.trans h)
        omega
  · rintro ⟨rest, rfl, rfl⟩
    rw [charsFrom_ascii hascii, hchar]

/-- An ASCII character is written as its number. -/
theorem utf8EncodeChar_of_ascii {c : Char} (h : c.toNat < 0x80) :
    String.utf8EncodeChar c = [UInt8.ofNat c.toNat] := by
  unfold String.utf8EncodeChar
  exact if_pos (Nat.le_of_lt_succ h)

theorem charsFrom_eq_append_iff {key value : List Char} (hkey : ∀ c ∈ key, c.toNat < 0x80) :
    charsFrom none bytes = key ++ value ↔
      ∃ rest, bytes = key.flatMap String.utf8EncodeChar ++ rest ∧ charsFrom none rest = value := by
  induction key generalizing bytes with
  | nil => simp
  | cons c key ih =>
    obtain ⟨hc, hkey⟩ := List.forall_mem_cons.1 hkey
    rw [List.cons_append, charsFrom_eq_cons_iff hc, List.flatMap_cons, utf8EncodeChar_of_ascii hc]
    constructor
    · rintro ⟨_, rfl, h⟩
      obtain ⟨rest, rfl, hrest⟩ := (ih hkey).1 h
      exact ⟨rest, rfl, hrest⟩
    · rintro ⟨rest, rfl, h⟩
      exact ⟨_, rfl, (ih hkey).2 ⟨rest, rfl, h⟩⟩

/-- Replacing what is no UTF-8 leaves ASCII at the front as it is, and makes none. -/
theorem lossy_eq_append_iff {key value : String}
    (hkey : (key.toList.all fun c => c.toNat < 0x80) = true) :
    lossy bytes = key ++ value ↔ ∃ rest, bytes = encode key ++ rest ∧ lossy rest = value := by
  simp only [← String.toList_inj, toList_lossy, String.toList_append]
  exact charsFrom_eq_append_iff fun c hc => of_decide_eq_true (List.all_eq_true.1 hkey c hc)

end StubResolver.Utf8
