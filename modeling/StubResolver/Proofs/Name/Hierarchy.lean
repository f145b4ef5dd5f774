import StubResolver.Proofs.Name.Dotted

/-!
# The hierarchy of names

Labels are held root first, so a name lies below another if the other's labels are the first of its
own, up to case (`isParentOf_iff`). To join is to put the labels of the child behind those of the
parent (`join_eq_ok_iff`), and to keep the labels closest to the root is to take the first ones. An
ancestor is therefore what is kept of a name at a smaller length (`isParentOf_iff_closest`) and what
the name is joined below (`isParentOf_iff_join`). From a name to its parent and on to the root, each
length comes up once (`climb_eq`).
-/

namespace StubResolver.Name

variable {a b c n m p : Name} {ls ms : List Label} {j k : Nat}

theorem count_eq_length_labels (n : Name) : n.count = n.labels.length :=
  rfl

theorem count_eq_zero_iff : n.count = 0 ↔ n = root := by
  rw [count_eq, List.length_eq_zero_iff, rawLabels_eq_nil_iff]

theorem isRoot_iff : n.isRoot = true ↔ n = root := by
  rw [← count_eq_zero_iff, count_eq_length_labels, List.length_eq_zero_iff]
  exact List.isEmpty_iff

theorem count_eq_of_same (h : a.same b = true) : a.count = b.count := by
  rw [count_eq_length_labels, count_eq_length_labels, same_iff.1 h]

/-! ## The labels closest to the root -/

@[simp] theorem labels_closest (n : Name) (k : Nat) : (n.closest k).labels = n.labels.take k := by
  rw [labels_eq, rawLabels_closest, List.map_take, ← labels_eq]

@[simp] theorem count_closest (n : Name) (k : Nat) : (n.closest k).count = min k n.count := by
  rw [count_eq, rawLabels_closest, List.length_take, count_eq]

theorem closest_of_count_le (h : n.count ≤ k) : n.closest k = n := by
  refine rawLabels_injective ?_
  rw [rawLabels_closest, List.take_of_length_le (n.count_eq ▸ h)]

theorem closest_closest (n : Name) (k j : Nat) : (n.closest k).closest j = n.closest (min j k) := by
  refine rawLabels_injective ?_
  rw [rawLabels_closest, rawLabels_closest, rawLabels_closest, List.take_take]

/-! ## Joining -/

/-- Joining succeeds with the one name that has the labels of both, if there is such a name. -/
theorem join_eq_ok_iff : join c p = .ok n ↔ n.rawLabels = p.rawLabels ++ c.rawLabels := by
  rw [join_eq_ok_iff_forms, Forms.join]
  have hcounts : c.forms.count + p.forms.count = c.rawLabels.length + p.rawLabels.length :=
    congrArg₂ (· + ·) c.count_eq p.count_eq
  split_ifs with h
  · refine iff_of_false (fun hok => by cases hok) fun hlabels => ?_
    have hcount := n.count_le
    rw [hlabels, List.length_append] at hcount
    omega
  · rw [Except.ok.injEq, ofRawLabels_eq_forms_iff]
    exact eq_comm

theorem count_of_join (h : join c p = .ok n) : n.count = p.count + c.count := by
  rw [count_eq, join_eq_ok_iff.1 h, List.length_append, count_eq, count_eq]

theorem exists_join_iff : (∃ n, join c p = .ok n) ↔ c.count + p.count ≤ 128 := by
  constructor
  · rintro ⟨n, h⟩
    rw [Nat.add_comm, ← count_of_join h, count_eq]
    exact n.count_le
  · intro h
    have hcount : (p.rawLabels ++ c.rawLabels).length ≤ 128 := by
      rw [List.length_append, ← count_eq, ← count_eq, Nat.add_comm]
      exact h
    have hne := List.forall_mem_append.2 ⟨p.nonempty, c.nonempty⟩
    exact ⟨ofLabels _ hcount hne, join_eq_ok_iff.2 (rawLabels_ofLabels _ _)⟩

theorem labels_of_join (h : join c p = .ok n) : n.labels = p.labels ++ c.labels := by
  rw [labels_eq, join_eq_ok_iff.1 h, List.map_append, ← labels_eq, ← labels_eq]

theorem closest_of_join (h : join c p = .ok n) : n.closest p.count = p := by
  refine rawLabels_injective ?_
  rw [rawLabels_closest, join_eq_ok_iff.1 h, count_eq]
  exact List.take_left

theorem join_root_left (n : Name) : join root n = .ok n :=
  join_eq_ok_iff.2 (List.append_nil _).symm

theorem join_root_right (n : Name) : join n root = .ok n :=
  join_eq_ok_iff.2 (List.nil_append _).symm

/-- There is room for what some name has side by side. -/
theorem exists_join_of_infix (h : p.rawLabels ++ c.rawLabels <:+: n.rawLabels) :
    ∃ m, join c p = .ok m := by
  have hlength := h.length_le
  have hcount := n.count_le
  rw [List.length_append] at hlength
  refine exists_join_iff.2 ?_
  rw [count_eq, count_eq]
  omega

/-- Joining is associative: if three names can be joined one way, they can the other way, to the
same name. -/
theorem join_assoc :
    (∃ m, join a b = .ok m ∧ join m c = .ok n) ↔ ∃ m, join b c = .ok m ∧ join a m = .ok n := by
  constructor
  · rintro ⟨ab, hab, hn⟩
    rw [join_eq_ok_iff] at hab hn
    rw [hab, ← List.append_assoc] at hn
    obtain ⟨bc, hbc⟩ : ∃ m, join b c = .ok m :=
      exists_join_of_infix (hn ▸ (List.prefix_append _ _).isInfix)
    exact ⟨bc, hbc, join_eq_ok_iff.2 (join_eq_ok_iff.1 hbc ▸ hn)⟩
  · rintro ⟨bc, hbc, hn⟩
    rw [join_eq_ok_iff] at hbc hn
    rw [hbc, List.append_assoc] at hn
    obtain ⟨ab, hab⟩ : ∃ m, join a b = .ok m :=
      exists_join_of_infix (hn ▸ (List.suffix_append _ _).isInfix)
    exact ⟨ab, hab, join_eq_ok_iff.2 (join_eq_ok_iff.1 hab ▸ hn)⟩

theorem intercalate_append {xs ys : List (List Char)} (hxs : xs ≠ []) (hys : ys ≠ []) :
    ['.'].intercalate (xs ++ ys) = ['.'].intercalate xs ++ '.' :: ['.'].intercalate ys := by
  induction xs with
  | nil => exact absurd rfl hxs
  | cons x xs ih =>
    by_cases hnil : xs = []
    · rw [hnil, List.singleton_append, List.intercalate_cons_of_ne_nil hys,
        List.intercalate_singleton, List.append_assoc, List.singleton_append]
    · have hrest := List.append_ne_nil_of_left_ne_nil hnil ys
      rw [List.cons_append, List.intercalate_cons_of_ne_nil hrest,
        List.intercalate_cons_of_ne_nil hnil, ih hnil, List.append_assoc _ _ ('.' :: _)]

/-- The text of labels that stand behind others begins with theirs. -/
theorem dotted_append (hls : ls ≠ []) (hms : ms ≠ []) :
    dotted (ls ++ ms) = dotted ms ++ '.' :: dotted ls := by
  rw [dotted_eq_intercalate hls, dotted_eq_intercalate hms,
    dotted_eq_intercalate (List.append_ne_nil_of_left_ne_nil hls ms), List.reverse_append,
    List.map_append, intercalate_append (by simpa using hms) (by simpa using hls)]

theorem labels_ne_nil_of_ne_root (h : n ≠ root) : n.labels ≠ [] := by
  rw [labels_eq, ne_eq, List.map_eq_nil_iff, rawLabels_eq_nil_iff]
  exact h

theorem ace_of_join (h : join c p = .ok n) (hc : c ≠ root) (hp : p ≠ root) :
    n.ace = c.ace ++ "." ++ p.ace := by
  apply String.toList_inj.1
  rw [ace_eq, labels_of_join h,
    dotted_append (labels_ne_nil_of_ne_root hp) (labels_ne_nil_of_ne_root hc)]
  simp only [ace_eq, String.toList_append, String.toList_ofList, List.append_assoc]
  rfl

/-! ## Ancestors -/

theorem isParentOf_iff : a.isParentOf b = true ↔ a.count < b.count ∧ a.labels <+: b.labels := by
  rw [isParentOf, Bool.and_eq_true, decide_eq_true_eq, List.isPrefixOf_iff_prefix]

/-- The ancestors of a name are what is left of it at smaller lengths. -/
theorem isParentOf_iff_closest :
    a.isParentOf b = true ↔ ∃ k < b.count, a.same (b.closest k) = true := by
  simp only [isParentOf_iff, same_iff, labels_closest]
  constructor
  · rintro ⟨hlt, hprefix⟩
    refine ⟨a.count, hlt, ?_⟩
    rw [count_eq_length_labels]
    exact List.prefix_iff_eq_take.1 hprefix
  · rintro ⟨k, hk, hlabels⟩
    rw [count_eq_length_labels a, hlabels]
    refine ⟨?_, List.take_prefix k _⟩
    exact Nat.lt_of_le_of_lt (List.length_take_le k _) hk

/-- The ancestors of a name are what it is joined below, with something in front. -/
theorem isParentOf_iff_join :
    a.isParentOf b = true ↔ ∃ c n, c ≠ root ∧ join c a = .ok n ∧ n.same b = true := by
  rw [isParentOf_iff]
  constructor
  · rintro ⟨hlt, hprefix⟩
    -- the child has the labels of the name that are behind those of the ancestor
    let child := ofLabels (b.rawLabels.drop a.count) (by have := b.count_le; simp; omega)
      fun l hl => b.nonempty l (List.mem_of_mem_drop hl)
    have hdrop : child.rawLabels = b.rawLabels.drop a.count := rawLabels_ofLabels _ _
    have hcount : child.count = b.count - a.count := by
      rw [count_eq, hdrop, List.length_drop, count_eq b]
    have hroom : child.count + a.count ≤ 128 := by
      rw [hcount, Nat.sub_add_cancel (Nat.le_of_lt hlt), count_eq]
      exact b.count_le
    obtain ⟨n, hn⟩ := exists_join_iff.2 hroom
    refine ⟨child, n, fun hroot => ?_, hn, same_iff.2 ?_⟩
    · rw [← count_eq_zero_iff, hcount] at hroot
      omega
    · have hchild : child.labels = b.labels.drop a.count := by
        rw [labels_eq, hdrop, List.map_drop, ← labels_eq]
      rw [labels_of_join hn, hchild, count_eq_length_labels]
      exact List.prefix_iff_eq_append.1 hprefix
  · rintro ⟨c, n, hc, hjoin, hsame⟩
    rw [← count_eq_of_same hsame, count_of_join hjoin, ← same_iff.1 hsame, labels_of_join hjoin]
    have := mt count_eq_zero_iff.1 hc
    exact ⟨by omega, List.prefix_append _ _⟩

theorem not_isParentOf_of_same (h : a.same b = true) : a.isParentOf b = false := by
  rw [← Bool.not_eq_true, isParentOf_iff, count_eq_of_same h]
  exact fun hparent => Nat.lt_irrefl _ hparent.1

theorem isParentOf_trans (hab : a.isParentOf b = true) (hbc : b.isParentOf c = true) :
    a.isParentOf c = true := by
  rw [isParentOf_iff] at *
  exact ⟨Nat.lt_trans hab.1 hbc.1, hab.2.trans hbc.2⟩

/-- Of two ancestors of a name one is above the other, or they are the same. -/
theorem isParentOf_total (ha : a.isParentOf n = true) (hb : b.isParentOf n = true) :
    a.isParentOf b = true ∨ a.same b = true ∨ b.isParentOf a = true := by
  simp only [isParentOf_iff, same_iff, count_eq_length_labels] at *
  rcases Nat.lt_trichotomy a.labels.length b.labels.length with hlt | heq | hgt
  · exact .inl ⟨hlt, List.prefix_of_prefix_length_le ha.2 hb.2 (Nat.le_of_lt hlt)⟩
  · refine .inr (.inl ?_)
    exact (List.prefix_of_prefix_length_le ha.2 hb.2 (Nat.le_of_eq heq)).eq_of_length heq
  · exact .inr (.inr ⟨hgt, List.prefix_of_prefix_length_le hb.2 ha.2 (Nat.le_of_lt hgt)⟩)

/-! ## From name to parent -/

/-- The name reached after going to the parent `k` times, unless there was none at some point. -/
def climb (n : Name) : Nat → Option Name
  | 0 => some n
  | k + 1 => (n.climb k).bind parent?

theorem parent?_closest (h : k ≤ n.count) :
    (n.closest k).parent? = if k = 0 then none else some (n.closest (k - 1)) := by
  have hcount : (n.closest k).count = k := by rw [count_closest, Nat.min_eq_left h]
  simp only [parent?_eq, isRoot_iff, ← count_eq_zero_iff, hcount, closest_closest]
  rw [Nat.min_eq_left (Nat.sub_le k 1)]

/-- After `k` steps there are `k` labels less. -/
theorem climb_eq (n : Name) (k : Nat) :
    n.climb k = if k ≤ n.count then some (n.closest (n.count - k)) else none := by
  induction k with
  | zero => rw [climb, if_pos (Nat.zero_le _), Nat.sub_zero, closest_of_count_le (Nat.le_refl _)]
  | succ k ih =>
    rw [climb, ih]
    by_cases hk : k ≤ n.count
    · rw [if_pos hk, Option.bind_some, parent?_closest (Nat.sub_le _ _), Nat.sub_sub]
      by_cases hroot : n.count - k = 0
      · rw [if_pos hroot, if_neg (by omega)]
      · rw [if_neg hroot, if_pos (by omega)]
    · rw [if_neg hk, if_neg (by omega), Option.bind_none]

theorem climb_eq_some_iff :
    n.climb k = some m ↔ k ≤ n.count ∧ m = n.closest (n.count - k) := by
  rw [climb_eq]
  split_ifs with h <;> simp [h, eq_comm]

theorem climb_eq_root_iff : n.climb k = some root ↔ k = n.count := by
  rw [climb_eq_some_iff, eq_comm (a := root), ← count_eq_zero_iff, count_closest]
  omega

theorem climb_eq_none_iff : n.climb k = none ↔ n.count < k := by
  rw [climb_eq]
  split_ifs with h
  · exact iff_of_false (by simp) (Nat.not_lt.2 h)
  · exact iff_of_true rfl (Nat.not_le.1 h)

/-- The names that are passed on the way are ancestors. -/
theorem isParentOf_of_climb (hk : 0 < k) (h : n.climb k = some m) : m.isParentOf n = true := by
  obtain ⟨hle, rfl⟩ := climb_eq_some_iff.1 h
  exact isParentOf_iff_closest.2 ⟨n.count - k, by omega, same_iff.2 rfl⟩

/-- Every ancestor is passed, and no two names that are passed are the same. -/
theorem existsUnique_climb (h : a.isParentOf n = true) :
    ∃! k, ∃ m, n.climb k = some m ∧ a.same m = true := by
  obtain ⟨j, hj, hsame⟩ := isParentOf_iff_closest.1 h
  refine ⟨n.count - j, ⟨n.closest j, climb_eq_some_iff.2 ⟨Nat.sub_le _ _, ?_⟩, hsame⟩, ?_⟩
  · rw [Nat.sub_sub_self (Nat.le_of_lt hj)]
  · rintro k ⟨m, hm, hsame'⟩
    obtain ⟨hk, rfl⟩ := climb_eq_some_iff.1 hm
    have hcount := count_eq_of_same hsame
    rw [count_eq_of_same hsame', count_closest, count_closest] at hcount
    omega

/-- The way from a name up to the root: it takes a step for each label and then ends, and apart from
where it starts, it passes the ancestors, each of them once. -/
structure ClimbsToRoot (n : Name) : Prop where
  root_iff : ∀ k, n.climb k = some root ↔ k = n.count
  none_iff : ∀ k, n.climb k = none ↔ n.count < k
  ancestor : ∀ k m, 0 < k → n.climb k = some m → m.isParentOf n = true
  once : ∀ a : Name, a.isParentOf n = true → ∃! k, ∃ m, n.climb k = some m ∧ a.same m = true

theorem climbsToRoot (n : Name) : n.ClimbsToRoot where
  root_iff _ := climb_eq_root_iff
  none_iff _ := climb_eq_none_iff
  ancestor _ _ := isParentOf_of_climb
  once _ := existsUnique_climb

/-- **The hierarchy of names.** A child is joined below a parent exactly if they have at most 128
labels together; the result has the parent's labels at the root and, but for the root itself, both
texts with a dot between them. The root changes nothing, and joining is associative. The ancestors
of a name are what is left of it at smaller lengths, and what it is joined below. They form a strict
partial order in which those of one name are a chain, and going to the parent passes each of them
once and ends at the root. -/
theorem hierarchy :
    (∀ c p : Name, (∃ n, join c p = .ok n) ↔ c.count + p.count ≤ 128) ∧
      (∀ c p n : Name, join c p = .ok n → (n.closest p.count).rawLabels = p.rawLabels) ∧
      (∀ c p n : Name, join c p = .ok n → c ≠ root → p ≠ root → n.ace = c.ace ++ "." ++ p.ace) ∧
      (∀ n : Name, join root n = .ok n ∧ join n root = .ok n) ∧
      (∀ a b c n : Name, (∃ m, join a b = .ok m ∧ join m c = .ok n) ↔
        ∃ m, join b c = .ok m ∧ join a m = .ok n) ∧
      (∀ a b : Name, a.isParentOf b = true ↔ ∃ k < b.count, a.same (b.closest k) = true) ∧
      (∀ a b : Name, a.isParentOf b = true ↔
        ∃ c n, c ≠ root ∧ join c a = .ok n ∧ n.same b = true) ∧
      (∀ a b : Name, a.same b = true → a.isParentOf b = false) ∧
      (∀ a b c : Name, a.isParentOf b = true → b.isParentOf c = true → a.isParentOf c = true) ∧
      (∀ a b n : Name, a.isParentOf n = true → b.isParentOf n = true →
        a.isParentOf b = true ∨ a.same b = true ∨ b.isParentOf a = true) ∧
      ∀ n : Name, n.ClimbsToRoot := by
  refine ⟨fun c p => exists_join_iff, fun c p n h => congrArg rawLabels (closest_of_join h),
    fun c p n => ace_of_join, fun n => ⟨join_root_left n, join_root_right n⟩,
    fun a b c n => join_assoc, fun a b => isParentOf_iff_closest, fun a b => isParentOf_iff_join,
    fun a b => not_isParentOf_of_same, fun a b c => isParentOf_trans, fun a b n => isParentOf_total,
    climbsToRoot⟩

/-- A child below a parent that is an ancestor in two spellings. -/
theorem hierarchy_below_upper_case :
    let p := ofLabels [⟨[65], by decide⟩] (by decide) (by decide)
    let a := ofLabels [⟨[97], by decide⟩] (by decide) (by decide)
    let c := ofLabels [⟨[98], by decide⟩] (by decide) (by decide)
    let n := ofLabels [⟨[65], by decide⟩, ⟨[98], by decide⟩] (by decide) (by decide)
    (join c p = .ok n ∧ c ≠ root ∧ p ≠ root ∧ p.same a = true ∧ root.isParentOf a = true ∧
        a.isParentOf n = true ∧ p.isParentOf n = true) ∧
      (n.closest p.count).rawLabels = p.rawLabels ∧ n.ace = c.ace ++ "." ++ p.ace ∧
      p.isParentOf a = false ∧ root.isParentOf n = true ∧
      (a.isParentOf p = true ∨ a.same p = true ∨ p.isParentOf a = true) ∧
      ∃! k, ∃ m, n.climb k = some m ∧ a.same m = true := by
  intro p a c n
  obtain ⟨_, hclosest, hace, _, _, _, _, hirrefl, htrans, htotal, hclimbs⟩ := hierarchy
  have hjoin : join c p = .ok n := rfl
  have hc : c ≠ root := by decide
  have hp : p ≠ root := by decide
  have hsame : p.same a = true := by decide
  have hroot : root.isParentOf a = true := by decide
  have han : a.isParentOf n = true := by decide
  have hpn : p.isParentOf n = true := (hclimbs n).ancestor 1 p (by decide) rfl
  exact ⟨⟨hjoin, hc, hp, hsame, hroot, han, hpn⟩, hclosest c p n hjoin, hace c p n hjoin hc hp,
    hirrefl p a hsame, htrans root a n hroot han, htotal a p n han hpn, (hclimbs n).once a han⟩

end StubResolver.Name
