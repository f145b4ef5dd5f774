/-!
# Sets of pointer targets

A pointer leads to one of the first 16384 places of a message. A set of such places is held as the
bits of a number; `contains_insert` says what it holds, and `missing_insert_lt` that there are only
so many places.
-/

namespace StubResolver.Name

/-- How many places a pointer can lead to. -/
def pointerTargets : Nat := 16384

/-- A set of places: those whose bit is set. -/
structure Targets where
  bits : Nat
  deriving DecidableEq, Repr

namespace Targets

/-- No place. -/
def empty : Targets := ⟨0⟩

/-- Whether the set has a place. -/
def contains (s : Targets) (t : Nat) : Bool :=
  s.bits.testBit t

/-- The set with one more place. -/
def insert (s : Targets) (t : Nat) : Targets :=
  ⟨s.bits ||| 1 <<< t⟩

@[simp] theorem contains_empty (x : Nat) : empty.contains x = false := by
  simp [contains, empty]

@[simp] theorem contains_insert (s : Targets) (t x : Nat) :
    (s.insert t).contains x = (s.contains x || decide (t = x)) := by
  simp [contains, insert, Nat.testBit_or, Nat.one_shiftLeft, Nat.testBit_two_pow]

/-- How many places a pointer can lead to that the set lacks. -/
def missing (s : Targets) : Nat :=
  (List.range pointerTargets).countP fun x => !s.contains x

theorem missing_insert_lt {s : Targets} {t : Nat} (ht : t < pointerTargets)
    (hs : s.contains t = false) : (s.insert t).missing < s.missing := by
  have key : ∀ places : List Nat, t ∈ places →
      places.countP (fun x => !(s.insert t).contains x) <
        places.countP (fun x => !s.contains x) := by
    intro places hmem
    induction places with
    | nil => simp at hmem
    | cons x xs ih =>
      have mono : xs.countP (fun x => !(s.insert t).contains x) ≤
          xs.countP (fun x => !s.contains x) :=
        List.countP_mono_left fun x _ h => by simp_all
      by_cases hx : t = x
      · subst hx
        have hnot : (!s.contains t) = true := by rw [hs]; rfl
        rw [List.countP_cons, List.countP_cons, if_pos hnot, if_neg (by simp)]
        omega
      · have hxs : t ∈ xs := (List.mem_cons.1 hmem).resolve_left hx
        have := ih hxs
        have same : (s.insert t).contains x = s.contains x := by simp [hx]
        rw [List.countP_cons, List.countP_cons, same]
        omega
  exact key _ (List.mem_range.2 ht)

end Targets

end StubResolver.Name
