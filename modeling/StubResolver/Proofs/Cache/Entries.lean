import StubResolver.Cache

/-!
# What the cache holds, and for how long

An entry is fresh as long as none of the answers has run out. Of the operations only storing adds
an entry, and that is the one stored; what a lookup hits was an entry, and is fresh.
-/

namespace StubResolver

/-! ## The smallest time to live -/

theorem Message.foldl_min_le (rs : List Record) (least : UInt32) :
    rs.foldl (fun least r => min least r.ttl) least ≤ least ∧
      ∀ r ∈ rs, rs.foldl (fun least r => min least r.ttl) least ≤ r.ttl := by
  induction rs generalizing least with
  | nil => exact ⟨UInt32.le_refl _, fun _ h => nomatch h⟩
  | cons r rs ih =>
    obtain ⟨hle, hall⟩ := ih (min least r.ttl)
    have hmin : min least r.ttl ≤ least ∧ min least r.ttl ≤ r.ttl := by
      show (if least ≤ r.ttl then least else r.ttl) ≤ least ∧
        (if least ≤ r.ttl then least else r.ttl) ≤ r.ttl
      by_cases h : least ≤ r.ttl
      · rw [if_pos h]
        exact ⟨UInt32.le_refl _, h⟩
      · rw [if_neg h]
        exact ⟨UInt32.le_of_lt (UInt32.not_le.1 h), UInt32.le_refl _⟩
    exact ⟨UInt32.le_trans hle hmin.1,
      List.forall_mem_cons.2 ⟨UInt32.le_trans hle hmin.2, hall⟩⟩

namespace CacheEntry

variable {e : CacheEntry} {now : Int64}

theorem minTtl_le {a : Record} (h : a ∈ e.response.answers) : e.minTtl ≤ a.ttl := by
  unfold minTtl Message.minTtl?
  cases hanswers : e.response.answers with
  | nil => rw [hanswers] at h; cases h
  | cons r rest =>
    rw [hanswers] at h
    obtain ⟨hle, hall⟩ := Message.foldl_min_le rest r.ttl
    rcases List.mem_cons.1 h with rfl | h
    · exact hle
    · exact hall a h

/-- The expiry does not wrap around. -/
theorem toInt_expiresAt (e : CacheEntry) :
    e.expiresAt.toInt = min (e.receivedAt.toInt + 1000 * e.minTtl.toNat) Int64.maxValue.toInt := by
  have hlow := e.receivedAt.le_toInt
  have hmax : Int64.maxValue.toInt = 2 ^ 63 - 1 := rfl
  exact Int64.toInt_ofInt_of_le (by omega) (by omega)

theorem isExpired_eq_false_iff : e.isExpired now = false ↔ now.toInt ≤ e.expiresAt.toInt := by
  unfold isExpired
  rw [decide_eq_false_iff_not, Int64.lt_iff_toInt_lt, Int.not_lt]

/-- No answer of a fresh entry has run out. -/
theorem le_of_fresh (h : e.isExpired now = false) {a : Record} (ha : a ∈ e.response.answers) :
    now.toInt ≤ e.receivedAt.toInt + 1000 * a.ttl.toNat := by
  have hnow := isExpired_eq_false_iff.1 h
  have httl := UInt32.le_iff_toNat_le.1 (minTtl_le ha)
  rw [toInt_expiresAt] at hnow
  omega

end CacheEntry

/-! ## Entries -/

namespace Cache

variable {c : Cache} {key : CacheKey} {entry : CacheEntry} {e : CacheKey × CacheEntry}

theorem mem_of_find? (h : c.find? key = some entry) : (key, entry) ∈ c.entries := by
  obtain ⟨before, after, heq, -⟩ := List.lookup_eq_some_iff.1 h
  rw [heq]
  exact List.mem_append_right _ (List.mem_cons_self ..)

theorem mem_of_mem_without (h : e ∈ c.without key) : e ∈ c.entries :=
  (List.mem_filter.1 h).1

theorem mem_push (h : e ∈ (c.push key entry).1.entries) : e = (key, entry) ∨ e ∈ c.entries := by
  unfold push at h
  split at h
  · exact (List.mem_cons.1 h).imp_right mem_of_mem_without
  · split at h
    · exact List.mem_cons.1 h
    · exact (List.mem_cons.1 h).imp_right (List.dropLast_subset _ ·)

/-- Only a response with a time of receipt is stored, and only under the key of the query. -/
theorem mem_put {query response : Message} (h : e ∈ (c.put query response).1.entries) :
    (e = (.ofQuery query, ⟨response⟩) ∧ 0 < response.receivedAt) ∨ e ∈ c.entries := by
  unfold put at h
  by_cases htime : response.receivedAt ≤ 0
  · rw [if_pos htime] at h
    exact .inr h
  · rw [if_neg htime] at h
    exact (mem_push h).imp_left fun he => ⟨he, Int64.not_le.1 htime⟩

theorem mem_get {query : Message} {now : Int64} (h : e ∈ (c.get query now).1.entries) :
    e ∈ c.entries := by
  unfold get lookup at h
  cases hfind : c.find? (.ofQuery query) with
  | none => simpa [hfind] using h
  | some entry =>
    simp only [hfind] at h
    split at h
    · exact mem_of_mem_without h
    · rcases List.mem_cons.1 h with rfl | h
      · exact mem_of_find? hfind
      · exact mem_of_mem_without h

/-- What a lookup finds is an entry under the key of the query, and fresh. -/
theorem get_response? {query response : Message} {now : Int64}
    (h : (c.get query now).2.response? = some response) :
    (CacheKey.ofQuery query, ⟨response⟩) ∈ c.entries ∧
      CacheEntry.isExpired ⟨response⟩ now = false := by
  unfold get lookup at h
  cases hfind : c.find? (.ofQuery query) with
  | none => simp [hfind, Lookup.response?] at h
  | some entry =>
    simp only [hfind] at h
    by_cases hexp : entry.isExpired now
    · simp [hexp, Lookup.response?] at h
    · simp only [hexp, Lookup.response?] at h
      cases h
      exact ⟨mem_of_find? hfind, by simpa using hexp⟩

end Cache

end StubResolver
