import Mathlib.Algebra.Group.Int.Defs
import Mathlib.Algebra.Group.Nat.Defs
import StubResolver.Message.Draft
import StubResolver.Proofs.Cache.Entries

/-!
# How long an entry stays fresh

The time left is the difference between expiry and clock. The expiry saturates, so that it is always
a 64-bit number, but the difference is taken as it is. Where it is a 64-bit number itself, the
remaining milliseconds run down to zero at the expiry and stay there (`toInt_of_remaining?`). Where
it is not, the program is aborted (`remaining?_eq_none_iff`), be the entry fresh or stale.
-/

namespace StubResolver.CacheEntry

variable {e : CacheEntry} {now later r : Int64}

/-- A number that 64 bits hold, one of them for the sign. -/
def Representable (n : Int) : Prop :=
  -2 ^ 63 ≤ n ∧ n < 2 ^ 63

instance : DecidablePred Representable := fun _ => inferInstanceAs (Decidable (_ ∧ _))

/-- From the clock to the expiry, in milliseconds; below zero behind the expiry. -/
def timeLeft (e : CacheEntry) (now : Int64) : Int :=
  e.expiresAt.toInt - now.toInt

theorem timeLeft_pos_iff : 0 < e.timeLeft now ↔ now < e.expiresAt := by
  rw [Int64.lt_iff_toInt_lt]
  unfold timeLeft
  omega

theorem isExpired_iff_timeLeft : e.isExpired now = true ↔ e.timeLeft now < 0 := by
  rw [← Bool.not_eq_false, isExpired_eq_false_iff]
  unfold timeLeft
  omega

theorem timeLeft_le (h : now ≤ later) : e.timeLeft later ≤ e.timeLeft now := by
  have hle := Int64.le_iff_toInt_le.1 h
  unfold timeLeft
  omega

/-! ## The remaining milliseconds -/

theorem toInt_max (a b : Int64) : (max a b).toInt = max a.toInt b.toInt := by
  show (if a ≤ b then b else a).toInt = _
  by_cases h : a ≤ b
  · rw [if_pos h, Int.max_eq_right (Int64.le_iff_toInt_le.1 h)]
  · have hlt := Int64.lt_iff_toInt_lt.1 (Int64.not_le.1 h)
    rw [if_neg h, Int.max_eq_left (Int.le_of_lt hlt)]

theorem difference?_eq_some_iff {a b d : Int64} :
    difference? a b = some d ↔ d.toInt = a.toInt - b.toInt := by
  have hmin : Int64.minValue.toInt = -2 ^ 63 := rfl
  have hmax : Int64.maxValue.toInt = 2 ^ 63 - 1 := rfl
  unfold difference?
  dsimp only
  by_cases h : Int64.minValue.toInt ≤ a.toInt - b.toInt ∧ a.toInt - b.toInt ≤ Int64.maxValue.toInt
  · have hexact : (Int64.ofInt (a.toInt - b.toInt)).toInt = a.toInt - b.toInt :=
      Int64.toInt_ofInt_of_le (by omega) (by omega)
    rw [if_pos h, Option.some.injEq, ← Int64.toInt_inj, hexact, eq_comm]
  · have := d.le_toInt
    have := d.toInt_lt
    rw [if_neg h]
    exact iff_of_false (fun hd => by cases hd) (by omega)

/-- The program is aborted exactly where the time left is more than 64 bits hold. -/
theorem remaining?_eq_none_iff : e.remaining? now = none ↔ ¬ Representable (e.timeLeft now) := by
  have hmin : Int64.minValue.toInt = -2 ^ 63 := rfl
  have hmax : Int64.maxValue.toInt = 2 ^ 63 - 1 := rfl
  rw [remaining?, Option.map_eq_none_iff, difference?, ite_eq_right_iff, hmin, hmax]
  simp only [reduceCtorEq, imp_false, Representable, timeLeft, Int.le_sub_one_iff]

theorem exists_remaining?_iff :
    (∃ r, e.remaining? now = some r) ↔ Representable (e.timeLeft now) := by
  rw [← Option.ne_none_iff_exists', ne_eq, remaining?_eq_none_iff, Decidable.not_not]

theorem toInt_of_remaining? (h : e.remaining? now = some r) : r.toInt = max (e.timeLeft now) 0 := by
  obtain ⟨d, hd, rfl⟩ := Option.map_eq_some_iff.1 h
  rw [toInt_max, difference?_eq_some_iff.1 hd]
  rfl

/-! ## Running down -/

/-- How the time of an entry runs down: as it should where the time left is a 64-bit number, and the
program is aborted elsewhere. -/
structure RunsDown (e : CacheEntry) : Prop where
  /-- The time to live is no more than 64 bits hold, and the expiry is cut off there. -/
  expiresAt : Representable (1000 * e.minTtl.toNat) ∧
    e.expiresAt.toInt = min (e.receivedAt.toInt + 1000 * e.minTtl.toNat) (2 ^ 63 - 1)
  computed : ∀ now, (∃ r, e.remaining? now = some r) ↔ Representable (e.timeLeft now)
  aborted : ∀ now, e.remaining? now = none ↔ ¬ Representable (e.timeLeft now)
  remaining : ∀ now r, e.remaining? now = some r → r.toInt = max (e.timeLeft now) 0
  positive : ∀ now r, e.remaining? now = some r → (0 < r ↔ now < e.expiresAt)
  expired : ∀ now r, e.remaining? now = some r → e.isExpired now = true → r = 0
  antitone : ∀ now later r s, e.remaining? now = some r → e.remaining? later = some s →
    now ≤ later → s ≤ r
  /-- Clock and expiry on one side of 1970 are never too far apart. -/
  representable : ∀ now, (0 ≤ now ↔ 0 ≤ e.expiresAt) → Representable (e.timeLeft now)

/-- **Expiry.** The expiry never overflows. Where the time left does not either, it is positive
exactly before the expiry, zero once the entry is stale, and never grows; where it does, the program
is aborted. -/
theorem runsDown (e : CacheEntry) : e.RunsDown where
  expiresAt := by
    have := e.minTtl.toNat_lt
    exact ⟨⟨by omega, by omega⟩, e.toInt_expiresAt⟩
  computed _ := exists_remaining?_iff
  aborted _ := remaining?_eq_none_iff
  remaining _ _ := toInt_of_remaining?
  positive now r h := by
    have hleft := toInt_of_remaining? h
    rw [← timeLeft_pos_iff, Int64.lt_iff_toInt_lt, hleft]
    show 0 < max _ 0 ↔ _
    omega
  expired now r h hexpired := by
    have hleft := toInt_of_remaining? h
    have hneg := isExpired_iff_timeLeft.1 hexpired
    apply Int64.toInt_inj.1
    rw [hleft]
    show max _ 0 = 0
    omega
  antitone now later r s hr hs hle := by
    have hleft := timeLeft_le (e := e) hle
    rw [Int64.le_iff_toInt_le, toInt_of_remaining? hr, toInt_of_remaining? hs]
    omega
  representable now h := by
    have := e.expiresAt.le_toInt
    have := e.expiresAt.toInt_lt
    have := now.le_toInt
    have := now.toInt_lt
    have hzero : (0 : Int64).toInt = 0 := rfl
    rw [Int64.le_iff_toInt_le, Int64.le_iff_toInt_le, hzero] at h
    unfold Representable timeLeft
    omega

/-- A response without answers, received two milliseconds before 1970. -/
def beforeEpoch : CacheEntry :=
  ⟨(Message.query 0 (.ofName .root (.known .txt)) 512).stamped (-2)⟩

/-- Nothing is left of it in 1970. At the end of the clock it is stale, and to ask for what is left
of it aborts the program, one millisecond too late. -/
theorem beforeEpoch_aborts :
    beforeEpoch.isExpired 0 = true ∧ beforeEpoch.remaining? 0 = some 0 ∧
      beforeEpoch.isExpired Int64.maxValue = true ∧
      beforeEpoch.timeLeft Int64.maxValue = -2 ^ 63 - 1 ∧
      beforeEpoch.remaining? (Int64.maxValue - 1) = some 0 ∧
      beforeEpoch.remaining? Int64.maxValue = none := by
  decide

end StubResolver.CacheEntry
