import StubResolver.Message.Draft
import StubResolver.Proofs.Cache.Entries

/-!
# What lookups find after any history

A cache goes through operations in any order, and the clock readings among them in any order too.

1. Under a key one operation leaves what was there, or puts there what it stores, or nothing
   (`find?_apply`).
2. Hence an entry holds the response that was stored last under its key (`Recorded.run`), and it is
   that response which decides how long lookups hit.
3. A key that was missed, or found stale, stays away until a response is stored under it
   (`find?_after_eq_none`), whatever the clock says in the meantime.
-/

namespace StubResolver

/-- The last millisecond at which a response is fresh: its receipt plus the smallest time to live
among its answers, if there are any, but no later than the last one of a 64-bit clock. -/
def Message.freshUntil (m : Message) : Int :=
  min (m.receivedAt.toInt + 1000 * ((m.answers.map fun r => r.ttl.toNat).min?.getD 0 : Nat))
    Int64.maxValue.toInt

/-- Two queries have one key if their wire forms are the same once their ids are zeroed. -/
theorem CacheKey.ofQuery_eq_iff {a b : Message} :
    CacheKey.ofQuery a = CacheKey.ofQuery b ↔ a.normalized.toWire = b.normalized.toWire :=
  ⟨congrArg CacheKey.wire, fun h => CacheKey.eq_of_wire_eq h⟩

namespace CacheEntry

variable {e : CacheEntry} {now : Int64}

theorem toNat_min (a b : UInt32) : (min a b).toNat = min a.toNat b.toNat := by
  show (if a ≤ b then a else b).toNat = _
  by_cases h : a ≤ b
  · rw [if_pos h, Nat.min_eq_left (UInt32.le_iff_toNat_le.1 h)]
  · rw [if_neg h, Nat.min_eq_right (UInt32.le_iff_toNat_le.1 (UInt32.le_of_lt (UInt32.not_le.1 h)))]

theorem toNat_foldl_min (rs : List Record) (least : UInt32) :
    (rs.foldl (fun least r => min least r.ttl) least).toNat =
      (rs.map fun r => r.ttl.toNat).foldl min least.toNat := by
  induction rs generalizing least with
  | nil => rfl
  | cons r rs ih => rw [List.foldl_cons, ih, toNat_min, List.map_cons, List.foldl_cons]

theorem toNat_minTtl (e : CacheEntry) :
    e.minTtl.toNat = (e.response.answers.map fun r => r.ttl.toNat).min?.getD 0 := by
  unfold minTtl Message.minTtl?
  cases e.response.answers with
  | nil => rfl
  | cons r rest =>
    rw [List.map_cons, List.min?_cons']
    exact toNat_foldl_min rest r.ttl

theorem toInt_expiresAt_eq (e : CacheEntry) : e.expiresAt.toInt = e.response.freshUntil := by
  rw [toInt_expiresAt, toNat_minTtl]
  rfl

theorem isExpired_eq_false_iff_le :
    e.isExpired now = false ↔ now.toInt ≤ e.response.freshUntil := by
  rw [isExpired_eq_false_iff, toInt_expiresAt_eq]

theorem isExpired_iff_lt : e.isExpired now = true ↔ e.response.freshUntil < now.toInt := by
  rw [← Bool.not_eq_false, isExpired_eq_false_iff_le, Int.not_le]

end CacheEntry

namespace Cache

/-- An operation on a cache. -/
inductive Op where
  | put (query response : Message)
  | get (query : Message) (now : Int64)
  | lookup (query : Message) (now : Int64)
  | contains (query : Message)
  | clear

/-- The cache after an operation. -/
def apply (c : Cache) : Op → Cache
  | .put query response => (c.put query response).1
  | .get query now => (c.get query now).1
  | .lookup query now => (c.lookup query now).1
  | .contains _ => c
  | .clear => c.clear

/-- The cache after some operations, the first of them first. -/
def after (c : Cache) (ops : List Op) : Cache :=
  ops.foldl apply c

/-- What an operation stores under the key of a query: a response with a time of receipt, whose own
query differs from that one in its id at most. -/
def Op.stored? (query : Message) : Op → Option Message
  | .put query' response =>
    if 0 < response.receivedAt ∧ query'.normalized.toWire = query.normalized.toWire then
      some response
    else none
  | .get .. | .lookup .. | .contains _ | .clear => none

/-- The response that was stored last under the key of a query. -/
def latest? (query : Message) (ops : List Op) : Option Message :=
  (ops.filterMap (Op.stored? query)).getLast?

variable {c : Cache} {key key' : CacheKey} {entry entry' : CacheEntry} {query query' : Message}
  {now : Int64}

@[simp] theorem after_nil : c.after [] = c := rfl

@[simp] theorem after_cons (op : Op) (ops : List Op) :
    c.after (op :: ops) = (c.apply op).after ops := rfl

theorem latest?_concat (ops : List Op) (op : Op) :
    latest? query (ops ++ [op]) = (op.stored? query).or (latest? query ops) := by
  unfold latest?
  rw [List.filterMap_append]
  cases h : op.stored? query with
  | none => rw [List.filterMap_cons_none h, List.filterMap_nil, List.append_nil, Option.none_or]
  | some r =>
    rw [List.filterMap_cons_some h, List.filterMap_nil, List.getLast?_concat, Option.some_or]

/-! ## One lookup -/

theorem contains_eq_true_iff : c.contains query = true ↔ ∃ e, c.find? (.ofQuery query) = some e :=
  Option.isSome_iff_exists

theorem contains_eq_false_iff : c.contains query = false ↔ c.find? (.ofQuery query) = none :=
  Option.isSome_eq_false_iff.trans Option.isNone_iff_eq_none

theorem lookup_of_none (h : c.find? (.ofQuery query) = none) : c.lookup query now = (c, .miss) := by
  simp only [lookup, h]

theorem lookup_of_stale (h : c.find? (.ofQuery query) = some entry)
    (hstale : entry.isExpired now = true) :
    c.lookup query now = ({ c with entries := c.without (.ofQuery query) }, .expired entry) := by
  simp only [lookup, h, hstale, if_true]

theorem lookup_of_fresh (h : c.find? (.ofQuery query) = some entry)
    (hfresh : entry.isExpired now = false) :
    c.lookup query now =
      ({ c with entries := (.ofQuery query, entry) :: c.without (.ofQuery query) },
        .hit entry.response) := by
  simp only [lookup, h, hfresh, Bool.false_eq_true, if_false]

/-! ## What an operation leaves under a key -/

theorem lookup_filter_of_ne (entries : List (CacheKey × CacheEntry)) (h : key ≠ key') :
    (entries.filter fun e => e.1 != key').lookup key = entries.lookup key := by
  induction entries with
  | nil => rfl
  | cons e es ih =>
    obtain ⟨k, entry⟩ := e
    by_cases hk : k = key'
    · have hne : (key == k) = false := by simpa [hk] using h
      rw [List.filter_cons_of_neg (by simp [hk]), ih, List.lookup_cons, hne]
    · rw [List.filter_cons_of_pos (by simp [hk]), List.lookup_cons, List.lookup_cons, ih]

theorem lookup_without_of_ne (h : key ≠ key') : (c.without key').lookup key = c.find? key :=
  lookup_filter_of_ne c.entries h

theorem lookup_without_self : (c.without key).lookup key = none := by
  rw [List.lookup_eq_none_iff]
  intro e he
  have hne : e.1 ≠ key := by simpa using (List.mem_filter.1 he).2
  simpa using hne.symm

theorem find?_of_lookup_dropLast (h : c.entries.dropLast.lookup key = some entry) :
    c.find? key = some entry := by
  by_cases hnil : c.entries = []
  · rw [hnil] at h
    cases h
  · rw [find?, ← List.dropLast_concat_getLast hnil, List.lookup_append, h]
    rfl

theorem find?_push (h : (c.push key' entry').1.find? key = some entry) :
    key = key' ∧ entry = entry' ∨ key ≠ key' ∧ c.find? key = some entry := by
  by_cases hkey : key = key'
  · subst hkey
    refine .inl ⟨rfl, ?_⟩
    have hfirst : (c.push key entry').1.find? key = some entry' := by
      unfold push
      split
      · exact List.lookup_cons_self
      · split <;> exact List.lookup_cons_self
    exact Option.some.inj (h.symm.trans hfirst)
  · have hne : (key == key') = false := by simpa using hkey
    refine .inr ⟨hkey, ?_⟩
    unfold push at h
    split at h
    · rwa [find?, List.lookup_cons, hne, lookup_without_of_ne hkey] at h
    · split at h
      · rwa [find?, List.lookup_cons, hne] at h
      · rw [find?, List.lookup_cons, hne] at h
        exact find?_of_lookup_dropLast h

theorem find?_lookup (h : (c.lookup query now).1.find? key = some entry) :
    c.find? key = some entry := by
  cases hfind : c.find? (.ofQuery query) with
  | none => rwa [lookup_of_none hfind] at h
  | some e =>
    by_cases hkey : key = .ofQuery query
    · subst hkey
      cases hexp : e.isExpired now with
      | true =>
        rw [lookup_of_stale hfind hexp, find?, lookup_without_self] at h
        cases h
      | false =>
        rw [lookup_of_fresh hfind hexp, find?, List.lookup_cons_self] at h
        exact hfind.trans h
    · have hne : (key == CacheKey.ofQuery query) = false := by simpa using hkey
      cases hexp : e.isExpired now with
      | true => rwa [lookup_of_stale hfind hexp, find?, lookup_without_of_ne hkey] at h
      | false =>
        rwa [lookup_of_fresh hfind hexp, find?, List.lookup_cons, hne,
          lookup_without_of_ne hkey] at h

/-- **One operation.** What is found under a key afterwards has just been stored there, or was there
and has not been replaced. -/
theorem find?_apply {op : Op} (h : (c.apply op).find? (.ofQuery query) = some entry) :
    op.stored? query = some entry.response ∨
      op.stored? query = none ∧ c.find? (.ofQuery query) = some entry := by
  cases op with
  | put query' response =>
    by_cases htime : response.receivedAt ≤ 0
    · rw [apply, put, if_pos htime] at h
      exact .inr ⟨if_neg fun hs => absurd hs.1 (Int64.not_lt.2 htime), h⟩
    · rw [apply, put, if_neg htime] at h
      rcases find?_push h with ⟨hkey, rfl⟩ | ⟨hkey, hold⟩
      · exact .inl (if_pos ⟨Int64.not_le.1 htime, (CacheKey.ofQuery_eq_iff.1 hkey).symm⟩)
      · refine .inr ⟨if_neg fun hs => hkey ?_, hold⟩
        exact CacheKey.ofQuery_eq_iff.2 hs.2.symm
  | get query' now => exact .inr ⟨rfl, find?_lookup h⟩
  | lookup query' now => exact .inr ⟨rfl, find?_lookup h⟩
  | contains query' => exact .inr ⟨rfl, h⟩
  | clear => cases h

/-! ## Histories -/

/-- Every entry holds the response that was stored last under its key. -/
def Recorded (ops : List Op) (c : Cache) : Prop :=
  ∀ query entry, c.find? (.ofQuery query) = some entry → latest? query ops = some entry.response

theorem Recorded.step {past : List Op} (hc : Recorded past c) (op : Op) :
    Recorded (past ++ [op]) (c.apply op) := by
  intro query entry h
  rw [latest?_concat]
  rcases find?_apply h with hs | ⟨hs, hold⟩
  · rw [hs, Option.some_or]
  · rw [hs, Option.none_or, hc query entry hold]

theorem Recorded.run {past : List Op} (hc : Recorded past c) (ops : List Op) :
    Recorded (past ++ ops) (c.after ops) := by
  induction ops generalizing past c with
  | nil => rwa [List.append_nil, after_nil]
  | cons op ops ih =>
    rw [after_cons, List.append_cons]
    exact ih (hc.step op)

theorem recorded_ofCapacity (capacity : Nat) : Recorded [] (ofCapacity capacity) :=
  fun _ _ h => nomatch h

/-- What is not there stays away as long as nothing is stored there. -/
theorem find?_after_eq_none {ops : List Op} (h : c.find? (.ofQuery query) = none)
    (hops : ∀ op ∈ ops, op.stored? query = none) :
    (c.after ops).find? (.ofQuery query) = none := by
  induction ops generalizing c with
  | nil => exact h
  | cons op ops ih =>
    refine ih ?_ fun o ho => hops o (List.mem_cons_of_mem _ ho)
    rw [Option.eq_none_iff_forall_ne_some]
    intro entry hfind
    have hop := hops op (List.mem_cons_self ..)
    rcases find?_apply hfind with hs | ⟨-, hold⟩
    · cases hop.symm.trans hs
    · cases h.symm.trans hold

/-- What is looked up without a hit is not there afterwards. -/
theorem find?_lookup_eq_none (h : ∀ r, (c.lookup query now).2 ≠ .hit r) :
    (c.lookup query now).1.find? (.ofQuery query) = none := by
  cases hfind : c.find? (.ofQuery query) with
  | none => rw [lookup_of_none hfind, hfind]
  | some e =>
    cases hexp : e.isExpired now with
    | true =>
      rw [lookup_of_stale hfind hexp]
      exact lookup_without_self
    | false => exact absurd (congrArg Prod.snd (lookup_of_fresh hfind hexp)) (h e.response)

/-- What lookups for a query say at some time in a cache with a history. -/
structure AnswersFresh (ops : List Op) (c : Cache) (query : Message) (now : Int64) : Prop where
  /-- A hit is the response stored last under the key, present and not past its time. -/
  hit_iff : ∀ r, (c.lookup query now).2 = .hit r ↔
    c.contains query = true ∧ latest? query ops = some r ∧ now.toInt ≤ r.freshUntil
  expired_iff : (∃ e, (c.lookup query now).2 = .expired e) ↔
    c.contains query = true ∧ ∃ r, latest? query ops = some r ∧ r.freshUntil < now.toInt
  miss_iff : (c.lookup query now).2 = .miss ↔ c.contains query = false
  /-- Counting makes no difference to what is found. -/
  get_eq : (c.get query now).2 = (c.lookup query now).2
  /-- Without a hit, the key is missed from then on until a response is stored under it. -/
  missed : (∀ r, (c.lookup query now).2 ≠ .hit r) → ∀ op ∈ [Op.get query now, .lookup query now],
    ∀ later, (∀ o ∈ later, o.stored? query = none) → ∀ (again : Message) (time : Int64),
      again.normalized.toWire = query.normalized.toWire →
        (((c.apply op).after later).lookup again time).2 = .miss

theorem Recorded.answersFresh {ops : List Op} (hc : Recorded ops c) (query : Message)
    (now : Int64) : AnswersFresh ops c query now := by
  have missed : (∀ r, (c.lookup query now).2 ≠ .hit r) →
      ∀ op ∈ [Op.get query now, .lookup query now], ∀ later,
        (∀ o ∈ later, o.stored? query = none) → ∀ (again : Message) (time : Int64),
          again.normalized.toWire = query.normalized.toWire →
            (((c.apply op).after later).lookup again time).2 = .miss := by
    intro hno op hop later hlater again time hagain
    have hgone : (c.apply op).find? (.ofQuery query) = none := by
      simp only [List.mem_cons, List.not_mem_nil, or_false] at hop
      rcases hop with rfl | rfl <;> exact find?_lookup_eq_none hno
    have hstill := find?_after_eq_none hgone hlater
    rw [← CacheKey.ofQuery_eq_iff.2 hagain] at hstill
    rw [lookup_of_none hstill]
  cases hfind : c.find? (.ofQuery query) with
  | none =>
    have habsent := contains_eq_false_iff.2 hfind
    have hmiss : (c.lookup query now).2 = .miss := congrArg Prod.snd (lookup_of_none hfind)
    refine ⟨fun r => ?_, ?_, iff_of_true hmiss habsent, rfl, missed⟩
    · rw [hmiss, habsent]
      simp
    · rw [hmiss, habsent]
      simp
  | some e =>
    have hpresent := contains_eq_true_iff.2 ⟨e, hfind⟩
    have hlatest := hc query e hfind
    cases hexp : e.isExpired now with
    | true =>
      have hlt := CacheEntry.isExpired_iff_lt.1 hexp
      have hfound := congrArg Prod.snd (lookup_of_stale hfind hexp)
      refine ⟨fun r => ?_, iff_of_true ⟨e, hfound⟩ ⟨hpresent, _, hlatest, hlt⟩, ?_, rfl, missed⟩
      · rw [hfound, hlatest]
        refine iff_of_false (fun h => nomatch h) fun ⟨_, hr, hle⟩ => ?_
        cases hr
        exact absurd hle (Int.not_le.2 hlt)
      · rw [hfound, hpresent]
        simp
    | false =>
      have hle := CacheEntry.isExpired_eq_false_iff_le.1 hexp
      have hfound := congrArg Prod.snd (lookup_of_fresh hfind hexp)
      refine ⟨fun r => ?_, ?_, ?_, rfl, missed⟩
      · rw [hfound, hlatest]
        constructor
        · intro h
          cases h
          exact ⟨hpresent, rfl, hle⟩
        · rintro ⟨-, hr, -⟩
          cases hr
          rfl
      · rw [hfound, hlatest]
        refine iff_of_false (fun ⟨_, h⟩ => nomatch h) fun ⟨_, r, hr, hlt⟩ => ?_
        cases hr
        exact absurd hle (Int.not_le.2 hlt)
      · rw [hfound, hpresent]
        simp

/-- **Freshness over histories.** Whatever an empty cache has gone through, a lookup hits exactly if
the key is present and the response stored last under it is still fresh. -/
theorem answersFresh_after (capacity : Nat) (ops : List Op) (query : Message) (now : Int64) :
    AnswersFresh ops ((ofCapacity capacity).after ops) query now :=
  ((recorded_ofCapacity capacity).run ops).answersFresh query now

/-- A query for the records of a type at the root. -/
def rootQuery (type : RecordType) : Message :=
  .query 7 (.ofName .root (.known type)) 512

/-- Stores a response without answers, received at 1000, for the records of a type at the root. -/
def storeEmpty (type : RecordType) : Op :=
  .put (rootQuery type) ((rootQuery type).stamped 1000)

/-- A response without answers is fresh in the millisecond of its receipt and stale in the next.
Then it is gone, also for a clock that has been put back. -/
theorem answersFresh_answerless :
    (((ofCapacity 1).after [storeEmpty .a]).lookup (rootQuery .a) 1000).2 =
        .hit ((rootQuery .a).stamped 1000) ∧
      (∃ e, (((ofCapacity 1).after [storeEmpty .a]).lookup (rootQuery .a) 1001).2 = .expired e) ∧
      (((ofCapacity 1).after [storeEmpty .a, .get (rootQuery .a) 1001]).lookup
        ((rootQuery .a).withId 8) 1000).2 = .miss := by
  have hfresh := answersFresh_after 1 [storeEmpty .a] (rootQuery .a) 1000
  have hstale := answersFresh_after 1 [storeEmpty .a] (rootQuery .a) 1001
  have hlatest : latest? (rootQuery .a) [storeEmpty .a] = some ((rootQuery .a).stamped 1000) := by
    rfl
  have hexpired := hstale.expired_iff.2 ⟨by rfl, _, hlatest, by decide⟩
  refine ⟨(hfresh.hit_iff _).2 ⟨by rfl, hlatest, by decide⟩, hexpired, ?_⟩
  obtain ⟨e, he⟩ := hexpired
  have hno : ∀ r,
      (((ofCapacity 1).after [storeEmpty .a]).lookup (rootQuery .a) 1001).2 ≠ .hit r := by
    intro r
    rw [he]
    exact Lookup.noConfusion
  exact hstale.missed hno _ (List.mem_cons_self ..) [] (fun _ h => nomatch h) _ _ (by rfl)

end Cache

end StubResolver
