import Mathlib.Data.Finset.Card
import Mathlib.Data.List.Nodup
import StubResolver.Proofs.Cache.History

/-!
# Which keys the cache keeps

For the order of use it only matters whether an operation uses a key, finds its entry stale, clears
the cache, or does none of that (`Effect`). The keys of the cache are those of a recency list that
follows the effects (`keys_apply`), so what is proved of the list holds of the cache:

1. The keys stand in the order of their last use, the latest first (`Ordered.run`); the one that
   goes when the cache is full is therefore the one whose last use is oldest.
2. Before a key that has been used stand only keys that were used since (`Kept.run`); as long as
   they are fewer than the capacity, the key stays.
-/

namespace StubResolver.Cache

/-- What an operation means for the order of use. -/
inductive Effect where
  /-- A response is stored under the key, or a fresh one found there. -/
  | use (key : CacheKey)
  /-- A stale response is found under the key, and removed. -/
  | expiry (key : CacheKey)
  | clearing
  | idle

/-- The effect of a lookup that found something under a key, or nothing. -/
def Lookup.effect (key : CacheKey) : Lookup → Effect
  | .hit _ => .use key
  | .miss => .idle
  | .expired _ => .expiry key

/-- The effect of an operation. -/
def effect (c : Cache) : Op → Effect
  | .put query response => if 0 < response.receivedAt then .use (.ofQuery query) else .idle
  | .get query now => (c.get query now).2.effect (.ofQuery query)
  | .lookup query now => (c.lookup query now).2.effect (.ofQuery query)
  | .contains _ => .idle
  | .clear => .clearing

/-- The effects of some operations, one for each. -/
def effects (c : Cache) : List Op → List Effect
  | [] => []
  | op :: ops => c.effect op :: (c.apply op).effects ops

/-- The keys, the most recently used first. -/
def keys (c : Cache) : List CacheKey :=
  c.entries.map (·.1)

/-- A key that is used. -/
def Effect.used? : Effect → Option CacheKey
  | .use key => some key
  | .expiry _ | .clearing | .idle => none

/-- A list of keys, the most recently used first, after an effect. -/
def Effect.onKeys (capacity : Nat) (keys : List CacheKey) : Effect → List CacheKey
  | .use key => (key :: keys.erase key).take capacity
  | .expiry key => keys.erase key
  | .clearing => []
  | .idle => keys

/-- The last use of a key is step `i`. -/
structure LastUsed (past : List Effect) (key : CacheKey) (i : Nat) : Prop where
  used : past[i]? = some (.use key)
  not_later : ∀ j, i < j → past[j]? ≠ some (.use key)

/-- Both keys have been used, and the last use of the first is the older one. -/
def UsedBefore (past : List Effect) (key key' : CacheKey) : Prop :=
  ∃ i j, LastUsed past key i ∧ LastUsed past key' j ∧ i < j

variable {capacity : Nat} {keys : List CacheKey} {past : List Effect} {key : CacheKey}
  {c : Cache} {query : Message} {now : Int64}

/-! ## The order of use -/

theorem LastUsed.concat {i : Nat} (h : LastUsed past key i) {e : Effect} (he : e ≠ .use key) :
    LastUsed (past ++ [e]) key i := by
  have hlt : i < past.length := (List.getElem?_eq_some_iff.1 h.used).1
  refine ⟨by rw [List.getElem?_append_left hlt, h.used], fun j hj => ?_⟩
  by_cases hjlt : j < past.length
  · rw [List.getElem?_append_left hjlt]
    exact h.not_later j hj
  · rw [List.getElem?_append_right (by omega)]
    intro hget
    obtain ⟨hlen, hget⟩ := List.getElem?_eq_some_iff.1 hget
    rw [List.getElem_singleton] at hget
    exact he hget

theorem lastUsed_concat_use (past : List Effect) (key : CacheKey) :
    LastUsed (past ++ [.use key]) key past.length := by
  refine ⟨List.getElem?_concat_length, fun j hj hget => ?_⟩
  have hlt := (List.getElem?_eq_some_iff.1 hget).1
  rw [List.length_append, List.length_singleton] at hlt
  omega

theorem UsedBefore.concat {key' : CacheKey} (h : UsedBefore past key key') {e : Effect}
    (he : e ≠ .use key) (he' : e ≠ .use key') : UsedBefore (past ++ [e]) key key' := by
  obtain ⟨i, j, hi, hj, hlt⟩ := h
  exact ⟨i, j, hi.concat he, hj.concat he', hlt⟩

/-- All keys have been used, and they stand in the order of their last use, the latest first. -/
structure Ordered (past : List Effect) (keys : List CacheKey) : Prop where
  used : ∀ key ∈ keys, ∃ i, LastUsed past key i
  sorted : keys.Pairwise fun a b => UsedBefore past b a

theorem Ordered.sublist {keys' : List CacheKey} (h : Ordered past keys)
    (hsub : keys'.Sublist keys) : Ordered past keys' :=
  ⟨fun key hkey => h.used key (hsub.subset hkey), h.sorted.sublist hsub⟩

/-- An effect that uses none of the keys leaves their order as it is. -/
theorem Ordered.concat (h : Ordered past keys) {e : Effect} (he : ∀ key ∈ keys, e ≠ .use key) :
    Ordered (past ++ [e]) keys where
  used key hkey := by
    obtain ⟨i, hi⟩ := h.used key hkey
    exact ⟨i, hi.concat (he key hkey)⟩
  sorted := h.sorted.imp_of_mem fun ha hb hab => hab.concat (he _ hb) (he _ ha)

/-- **One effect** keeps the order of use. -/
theorem Ordered.step (h : Ordered past keys) (hnodup : keys.Nodup) (e : Effect) :
    Ordered (past ++ [e]) (e.onKeys capacity keys) := by
  cases e with
  | use key =>
    -- those that stay are not the key itself, so their last uses are older than this one
    have hne : ∀ k ∈ keys.erase key, Effect.use key ≠ .use k := by
      intro k hk heq
      cases heq
      exact ((hnodup.mem_erase_iff).1 hk).1 rfl
    have hrest := (h.sublist List.erase_sublist).concat hne
    have hfirst := lastUsed_concat_use past key
    refine Ordered.sublist ⟨?_, List.pairwise_cons.2 ⟨?_, hrest.sorted⟩⟩ (List.take_sublist _ _)
    · exact List.forall_mem_cons.2 ⟨⟨_, hfirst⟩, hrest.used⟩
    · intro k hk
      obtain ⟨i, hi⟩ := h.used k (List.mem_of_mem_erase hk)
      have hlt := (List.getElem?_eq_some_iff.1 hi.used).1
      exact ⟨i, _, hi.concat (hne k hk), hfirst, hlt⟩
  | expiry key =>
    exact (h.sublist List.erase_sublist).concat fun _ _ heq => nomatch heq
  | clearing => exact ⟨fun _ hk => (List.not_mem_nil hk).elim, .nil⟩
  | idle => exact h.concat fun _ _ heq => nomatch heq

theorem Effect.nodup_onKeys (h : keys.Nodup) (e : Effect) : (e.onKeys capacity keys).Nodup := by
  cases e with
  | use key =>
    refine List.Nodup.sublist (List.take_sublist _ _) (List.nodup_cons.2 ⟨?_, h.erase key⟩)
    exact h.not_mem_erase
  | expiry key => exact h.erase key
  | clearing => exact List.nodup_nil
  | idle => exact h

theorem nodup_foldl_onKeys (capacity : Nat) (h : keys.Nodup) (past : List Effect) :
    (past.foldl (Effect.onKeys capacity) keys).Nodup := by
  induction past generalizing keys with
  | nil => exact h
  | cons e past ih => exact ih (e.nodup_onKeys h)

theorem Effect.length_onKeys_le (h : keys.length ≤ capacity) (e : Effect) :
    (e.onKeys capacity keys).length ≤ capacity := by
  cases e with
  | use key => exact List.length_take_le _ _
  | expiry key => exact (List.length_erase_le).trans h
  | clearing => exact Nat.zero_le _
  | idle => exact h

/-! ## How long a key stays -/

/-- The key is there, and all keys before it are among some. -/
def Kept (others : Finset CacheKey) (key : CacheKey) (keys : List CacheKey) : Prop :=
  ∃ front back, keys = front ++ key :: back ∧ ∀ k ∈ front, k ∈ others

theorem Kept.erase {others : Finset CacheKey} (h : Kept others key keys) {k : CacheKey}
    (hk : k ≠ key) : Kept others key (keys.erase k) := by
  obtain ⟨front, back, rfl, hfront⟩ := h
  by_cases hmem : k ∈ front
  · rw [List.erase_append_left _ hmem]
    exact ⟨_, _, rfl, fun x hx => hfront x (List.mem_of_mem_erase hx)⟩
  · rw [List.erase_append_right _ hmem, List.erase_cons_tail (by simpa using hk.symm)]
    exact ⟨_, _, rfl, hfront⟩

/-- Few keys before a key do not push it out. -/
theorem Kept.take {others : Finset CacheKey} (h : Kept others key keys) (hnodup : keys.Nodup)
    (hcard : others.card < capacity) : Kept others key (keys.take capacity) := by
  obtain ⟨front, back, rfl, hfront⟩ := h
  have hlen : front.length ≤ others.card := by
    rw [← List.toFinset_card_of_nodup (List.nodup_append.1 hnodup).1]
    exact Finset.card_le_card fun k hk => hfront k (List.mem_toFinset.1 hk)
  obtain ⟨room, hroom⟩ : ∃ room, capacity - front.length = room + 1 :=
    ⟨capacity - front.length - 1, by omega⟩
  refine ⟨front, back.take room, ?_, hfront⟩
  rw [List.take_append, List.take_of_length_le (by omega), hroom, List.take_succ_cons]

/-- **One effect** keeps a key, if it uses no keys but some few. -/
theorem Kept.step {others : Finset CacheKey} (h : Kept others key keys) (hnodup : keys.Nodup)
    (hcard : others.card < capacity) {e : Effect} (hclear : e ≠ .clearing)
    (hexpiry : e ≠ .expiry key) (hused : ∀ k, e = .use k → k = key ∨ k ∈ others) :
    Kept others key (e.onKeys capacity keys) := by
  cases e with
  | use k =>
    have hall : (k :: keys.erase k).Nodup :=
      List.nodup_cons.2 ⟨hnodup.not_mem_erase, hnodup.erase k⟩
    refine Kept.take ?_ hall hcard
    by_cases hk : k = key
    · subst hk
      exact ⟨[], _, rfl, fun _ hx => (List.not_mem_nil hx).elim⟩
    · obtain ⟨front, back, heq, hfront⟩ := h.erase hk
      refine ⟨k :: front, back, by rw [heq]; rfl, List.forall_mem_cons.2 ⟨?_, hfront⟩⟩
      exact (hused k rfl).resolve_left hk
  | expiry k => exact h.erase fun hk => hexpiry (by rw [hk])
  | clearing => exact absurd rfl hclear
  | idle => exact h

theorem Kept.run {others : Finset CacheKey} (h : Kept others key keys) (hnodup : keys.Nodup)
    (hcard : others.card < capacity)
    (hgone : ∀ e ∈ past, e ≠ .clearing ∧ e ≠ .expiry key)
    (hused : ∀ k ∈ past.filterMap Effect.used?, k = key ∨ k ∈ others) :
    Kept others key (past.foldl (Effect.onKeys capacity) keys) := by
  induction past generalizing keys with
  | nil => exact h
  | cons e past ih =>
    obtain ⟨⟨hclear, hexpiry⟩, hgone⟩ := List.forall_mem_cons.1 hgone
    have hstep := h.step hnodup hcard hclear hexpiry fun k hk =>
      hused k (List.mem_filterMap.2 ⟨e, List.mem_cons_self .., by rw [hk]; rfl⟩)
    refine ih hstep (e.nodup_onKeys hnodup) hgone fun k hk => hused k ?_
    obtain ⟨e', he', hk⟩ := List.mem_filterMap.1 hk
    exact List.mem_filterMap.2 ⟨e', List.mem_cons_of_mem _ he', hk⟩

/-- A key that was used is kept as long as it is not removed and few others are used. -/
theorem mem_foldl_onKeys_of_used (hnodup : keys.Nodup) {i : Nat}
    (hi : past[i]? = some (.use key))
    (hgone : ∀ e ∈ past.drop (i + 1), e ≠ .clearing ∧ e ≠ .expiry key)
    (hcard : (((past.drop (i + 1)).filterMap Effect.used?).toFinset.erase key).card < capacity) :
    key ∈ past.foldl (Effect.onKeys capacity) keys := by
  obtain ⟨hlt, hget⟩ := List.getElem?_eq_some_iff.1 hi
  rw [← List.take_append_drop i past, List.foldl_append, List.drop_eq_getElem_cons hlt, hget,
    List.foldl_cons]
  have hkeys := nodup_foldl_onKeys capacity hnodup (past.take i)
  obtain ⟨room, rfl⟩ : ∃ room, capacity = room + 1 := ⟨capacity - 1, by omega⟩
  have hfirst : Kept (((past.drop (i + 1)).filterMap Effect.used?).toFinset.erase key) key
      ((Effect.use key).onKeys (room + 1)
        ((past.take i).foldl (Effect.onKeys (room + 1)) keys)) :=
    ⟨[], _, List.take_succ_cons, fun _ hx => (List.not_mem_nil hx).elim⟩
  have hothers : ∀ k ∈ (past.drop (i + 1)).filterMap Effect.used?, k = key ∨
      k ∈ ((past.drop (i + 1)).filterMap Effect.used?).toFinset.erase key := by
    intro k hk
    by_cases hkey : k = key
    · exact .inl hkey
    · exact .inr (Finset.mem_erase.2 ⟨hkey, List.mem_toFinset.2 hk⟩)
  obtain ⟨front, back, heq, -⟩ :=
    hfirst.run (Effect.nodup_onKeys hkeys _) hcard hgone hothers
  rw [heq]
  exact List.mem_append_right _ (List.mem_cons_self ..)

/-! ## The keys of the cache -/

/-- There is room, no more entries than room, and no two of them under one key. -/
structure Fits (c : Cache) : Prop where
  capacity_pos : 0 < c.capacity
  length_le : c.keys.length ≤ c.capacity
  nodup : c.keys.Nodup

theorem mem_keys_iff : key ∈ c.keys ↔ ∃ e, c.find? key = some e := by
  rw [← Option.isSome_iff_exists, Cache.keys, List.mem_map]
  constructor
  · rintro ⟨e, he, rfl⟩
    by_contra hnone
    rw [Option.not_isSome_iff_eq_none, find?, List.lookup_eq_none_iff] at hnone
    simpa using hnone e he
  · intro h
    obtain ⟨e, he⟩ := Option.isSome_iff_exists.1 h
    exact ⟨_, mem_of_find? he, rfl⟩

theorem contains_iff_mem_keys : c.contains query = true ↔ .ofQuery query ∈ c.keys :=
  contains_eq_true_iff.trans mem_keys_iff.symm

theorem map_without (h : c.keys.Nodup) (key : CacheKey) :
    (c.without key).map (·.1) = c.keys.erase key := by
  rw [h.erase_eq_filter, Cache.keys, List.filter_map]
  rfl

theorem keys_push_of_mem (hc : c.Fits) {entry : CacheEntry} (h : key ∈ c.keys) :
    (c.push key entry).1.keys = key :: c.keys.erase key := by
  obtain ⟨old, hold⟩ := mem_keys_iff.1 h
  simp only [push, hold]
  rw [Cache.keys, List.map_cons, map_without hc.nodup]

theorem keys_push_of_room {entry : CacheEntry} (h : key ∉ c.keys) (hroom : c.size < c.capacity) :
    (c.push key entry).1.keys = key :: c.keys := by
  have hnone : c.find? key = none :=
    Option.eq_none_iff_forall_ne_some.2 fun e he => h (mem_keys_iff.2 ⟨e, he⟩)
  simp only [push, hnone, if_pos hroom]
  rfl

theorem keys_push_of_full {entry : CacheEntry} (h : key ∉ c.keys) (hfull : c.size = c.capacity) :
    (c.push key entry).1.keys = key :: c.keys.dropLast := by
  have hnone : c.find? key = none :=
    Option.eq_none_iff_forall_ne_some.2 fun e he => h (mem_keys_iff.2 ⟨e, he⟩)
  simp only [push, hnone, if_neg (show ¬ c.size < c.capacity by omega)]
  rw [Cache.keys, List.map_cons, List.map_dropLast, Cache.keys]

/-- Pushing uses the key. -/
theorem keys_push (hc : c.Fits) (key : CacheKey) (entry : CacheEntry) :
    (c.push key entry).1.keys = (Effect.use key).onKeys c.capacity c.keys := by
  have hsize : c.size = c.keys.length := (List.length_map _).symm
  have hle := hc.length_le
  show _ = (key :: c.keys.erase key).take c.capacity
  by_cases hmem : key ∈ c.keys
  · have hpos := List.length_pos_of_mem hmem
    rw [keys_push_of_mem hc hmem, List.take_of_length_le]
    rw [List.length_cons, List.length_erase_of_mem hmem]
    omega
  · rw [List.erase_of_not_mem hmem]
    by_cases hroom : c.size < c.capacity
    · rw [keys_push_of_room hmem hroom, List.take_of_length_le]
      rw [List.length_cons]
      omega
    · obtain ⟨room, hcap⟩ : ∃ room, c.capacity = room + 1 :=
        ⟨c.capacity - 1, by have := hc.capacity_pos; omega⟩
      rw [keys_push_of_full hmem (by omega), hcap, List.take_succ_cons, List.dropLast_eq_take,
        show c.keys.length - 1 = room by omega]

theorem keys_lookup (hc : c.Fits) (query : Message) (now : Int64) :
    (c.lookup query now).1.keys =
      ((c.lookup query now).2.effect (.ofQuery query)).onKeys c.capacity c.keys := by
  cases hfind : c.find? (.ofQuery query) with
  | none =>
    rw [lookup_of_none hfind]
    rfl
  | some e =>
    cases hexp : e.isExpired now with
    | true =>
      rw [lookup_of_stale hfind hexp]
      exact map_without hc.nodup _
    | false =>
      have hmem := mem_keys_iff.2 ⟨e, hfind⟩
      have hpos := List.length_pos_of_mem hmem
      have hle := hc.length_le
      rw [lookup_of_fresh hfind hexp, Cache.keys, List.map_cons, map_without hc.nodup]
      show _ = (CacheKey.ofQuery query :: c.keys.erase (.ofQuery query)).take c.capacity
      rw [List.take_of_length_le]
      rw [List.length_cons, List.length_erase_of_mem hmem]
      omega

/-- **One operation** changes the keys as its effect says. -/
theorem keys_apply (hc : c.Fits) (op : Op) :
    (c.apply op).keys = (c.effect op).onKeys c.capacity c.keys := by
  cases op with
  | put query response =>
    by_cases htime : response.receivedAt ≤ 0
    · rw [apply, put, if_pos htime, effect, if_neg (Int64.not_lt.2 htime)]
      rfl
    · rw [apply, put, if_neg htime, effect, if_pos (Int64.not_le.1 htime)]
      exact keys_push hc _ _
  | get query now => exact keys_lookup hc query now
  | lookup query now => exact keys_lookup hc query now
  | contains query => rfl
  | clear => rfl

theorem capacity_push (c : Cache) (key : CacheKey) (entry : CacheEntry) :
    (c.push key entry).1.capacity = c.capacity := by
  unfold push
  split
  · rfl
  · split <;> rfl

theorem capacity_lookup (c : Cache) (query : Message) (now : Int64) :
    (c.lookup query now).1.capacity = c.capacity := by
  unfold lookup
  dsimp only
  split
  · rfl
  · split <;> rfl

@[simp] theorem capacity_apply (c : Cache) (op : Op) : (c.apply op).capacity = c.capacity := by
  cases op with
  | put query response =>
    rw [apply, put]
    split
    · rfl
    · exact c.capacity_push _ _
  | get query now => exact c.capacity_lookup query now
  | lookup query now => exact c.capacity_lookup query now
  | contains | clear => rfl

theorem Fits.step (hc : c.Fits) (op : Op) : (c.apply op).Fits where
  capacity_pos := by
    rw [capacity_apply]
    exact hc.capacity_pos
  length_le := by
    rw [capacity_apply, keys_apply hc]
    exact Effect.length_onKeys_le hc.length_le _
  nodup := by
    rw [keys_apply hc]
    exact Effect.nodup_onKeys hc.nodup _

theorem fits_ofCapacity (capacity : Nat) : (ofCapacity capacity).Fits :=
  ⟨Nat.le_max_left _ _, Nat.zero_le _, List.nodup_nil⟩

theorem Fits.run (hc : c.Fits) (ops : List Op) : (c.after ops).Fits := by
  induction ops generalizing c with
  | nil => exact hc
  | cons op ops ih => exact ih (hc.step op)

theorem capacity_after (c : Cache) (ops : List Op) : (c.after ops).capacity = c.capacity := by
  induction ops generalizing c with
  | nil => rfl
  | cons op ops ih => rw [after_cons, ih, capacity_apply]

theorem keys_after (hc : c.Fits) (ops : List Op) :
    (c.after ops).keys = (c.effects ops).foldl (Effect.onKeys c.capacity) c.keys := by
  induction ops generalizing c with
  | nil => rfl
  | cons op ops ih =>
    rw [after_cons, ih (hc.step op), keys_apply hc, capacity_apply, effects, List.foldl_cons]

/-- **A history** keeps the order of use. -/
theorem Ordered.run (h : Ordered past c.keys) (hc : c.Fits) (ops : List Op) :
    Ordered (past ++ c.effects ops) (c.after ops).keys := by
  induction ops generalizing c past with
  | nil => rwa [effects, List.append_nil, after_nil]
  | cons op ops ih =>
    rw [effects, List.append_cons, after_cons]
    refine ih ?_ (hc.step op)
    rw [keys_apply hc]
    exact h.step hc.nodup _

/-- What holds of the keys of a cache with room for `capacity` entries after a history. -/
structure KeepsRecent (capacity : Nat) (past : List Effect) (c : Cache) : Prop where
  size_le : c.size ≤ capacity
  nodup : c.keys.Nodup
  /-- While there is room, a response under a new key drives nothing out. -/
  put_room : ∀ query response, 0 < response.receivedAt → c.contains query = false →
    c.size < capacity → (c.apply (.put query response)).keys = .ofQuery query :: c.keys
  /-- When there is none, it drives out the key whose last use is oldest, and no other. -/
  put_full : ∀ query response, 0 < response.receivedAt → c.contains query = false →
    c.size = capacity → ∃ kept oldest, c.keys = kept ++ [oldest] ∧
      (c.apply (.put query response)).keys = .ofQuery query :: kept ∧
      ∀ key ∈ kept, UsedBefore past oldest key
  /-- A response under a key that is there drives out no other. -/
  put_present : ∀ query response, 0 < response.receivedAt → c.contains query = true →
    (c.apply (.put query response)).keys = .ofQuery query :: c.keys.erase (.ofQuery query)
  /-- A key used at some step is there, unless the cache was cleared since, or the key found stale,
  or as many other keys have been used as there is room. -/
  stays : ∀ key i, past[i]? = some (.use key) →
    (∀ e ∈ past.drop (i + 1), e ≠ .clearing ∧ e ≠ .expiry key) →
    (((past.drop (i + 1)).filterMap Effect.used?).toFinset.erase key).card < capacity →
      key ∈ c.keys
  /-- Misses are no use and leave the order alone. -/
  missed : ∀ query now, (c.lookup query now).2 = .miss →
    ∀ op ∈ [Op.get query now, .lookup query now], c.effect op = .idle ∧ (c.apply op).keys = c.keys
  /-- So do checks, -/
  checked : ∀ query, c.effect (.contains query) = .idle ∧ (c.apply (.contains query)).keys = c.keys
  /-- and responses without a time of receipt. -/
  ignored : ∀ query response, response.receivedAt ≤ 0 →
    c.effect (.put query response) = .idle ∧ (c.apply (.put query response)).keys = c.keys
  /-- What is found stale goes, and the others keep their order. -/
  expired : ∀ query now entry, (c.lookup query now).2 = .expired entry →
    ∀ op ∈ [Op.get query now, .lookup query now],
      (c.apply op).keys = c.keys.erase (.ofQuery query)

/-- The effect of a lookup, counted or not, is that of what it finds. -/
theorem effect_of_lookup {op : Op} (hop : op ∈ [Op.get query now, .lookup query now]) :
    c.effect op = (c.lookup query now).2.effect (.ofQuery query) := by
  simp only [List.mem_cons, List.not_mem_nil, or_false] at hop
  rcases hop with rfl | rfl <;> rfl

theorem Fits.keepsRecent (hc : c.Fits) (h : Ordered past c.keys)
    (hkeys : c.keys = past.foldl (Effect.onKeys c.capacity) []) :
    KeepsRecent c.capacity past c where
  size_le := (List.length_map _).symm.trans_le hc.length_le
  nodup := hc.nodup
  put_room query response htime hnew hroom := by
    have hmem : CacheKey.ofQuery query ∉ c.keys := fun hin =>
      Bool.false_ne_true (hnew.symm.trans (contains_iff_mem_keys.2 hin))
    rw [apply, put, if_neg (Int64.not_le.2 htime)]
    exact keys_push_of_room hmem hroom
  put_full query response htime hnew hfull := by
    have hmem : CacheKey.ofQuery query ∉ c.keys := fun hin =>
      Bool.false_ne_true (hnew.symm.trans (contains_iff_mem_keys.2 hin))
    have hne : c.keys ≠ [] := by
      have hpos := hc.capacity_pos
      have hsize : c.size = c.keys.length := (List.length_map _).symm
      exact List.ne_nil_of_length_pos (by omega)
    have hsplit := List.dropLast_concat_getLast hne
    refine ⟨_, _, hsplit.symm, ?_, fun key hkey => ?_⟩
    · rw [apply, put, if_neg (Int64.not_le.2 htime)]
      exact keys_push_of_full hmem hfull
    · have hsorted := h.sorted
      rw [← hsplit, List.pairwise_append] at hsorted
      exact hsorted.2.2 key hkey _ (List.mem_singleton_self _)
  put_present query response htime hold := by
    rw [apply, put, if_neg (Int64.not_le.2 htime)]
    exact keys_push_of_mem hc (contains_iff_mem_keys.1 hold)
  stays key i hi hgone hcard := by
    rw [hkeys]
    exact mem_foldl_onKeys_of_used List.nodup_nil hi hgone hcard
  missed query now hmiss op hop := by
    have heffect : c.effect op = .idle := by
      rw [effect_of_lookup hop, hmiss]
      rfl
    exact ⟨heffect, by rw [keys_apply hc, heffect]; rfl⟩
  checked query := ⟨rfl, rfl⟩
  ignored query response htime := by
    have heffect : c.effect (.put query response) = .idle := if_neg (Int64.not_lt.2 htime)
    exact ⟨heffect, by rw [keys_apply hc, heffect]; rfl⟩
  expired query now entry hexp op hop := by
    have heffect : c.effect op = .expiry (.ofQuery query) := by
      rw [effect_of_lookup hop, hexp]
      rfl
    rw [keys_apply hc, heffect]
    rfl

/-- **Retention.** Whatever an empty cache has gone through, it keeps the keys used last; a capacity
of zero counts as one. -/
theorem keepsRecent_after (capacity : Nat) (ops : List Op) :
    KeepsRecent (max 1 capacity) ((ofCapacity capacity).effects ops)
      ((ofCapacity capacity).after ops) := by
  have hempty := fits_ofCapacity capacity
  have hordered : Ordered [] (ofCapacity capacity).keys :=
    ⟨fun _ hk => (List.not_mem_nil hk).elim, .nil⟩
  have hcapacity : ((ofCapacity capacity).after ops).capacity = max 1 capacity :=
    capacity_after _ ops
  rw [← hcapacity]
  refine (hempty.run ops).keepsRecent (hordered.run hempty ops) ?_
  rw [keys_after hempty ops, hcapacity]
  rfl

/-- Two responses fill a cache. A hit on the older one saves it from a third, though not from a
fourth. -/
theorem keepsRecent_hit :
    let ops := [storeEmpty .a, storeEmpty .txt, .get (rootQuery .a) 900, storeEmpty .mx]
    CacheKey.ofQuery (rootQuery .a) ∈ ((ofCapacity 2).after ops).keys ∧
      ∃ kept oldest, ((ofCapacity 2).after ops).keys = kept ++ [oldest] ∧
        ((ofCapacity 2).after (ops ++ [storeEmpty .ns])).keys = .ofQuery (rootQuery .ns) :: kept ∧
        ∀ key ∈ kept, UsedBefore ((ofCapacity 2).effects ops) oldest key := by
  intro ops
  have h := keepsRecent_after 2 ops
  have hused : ((ofCapacity 2).effects ops)[2]? = some (.use (.ofQuery (rootQuery .a))) := by rfl
  have hsince : ((ofCapacity 2).effects ops).drop 3 = [.use (.ofQuery (rootQuery .mx))] := by rfl
  refine ⟨h.stays (.ofQuery (rootQuery .a)) 2 hused ?_ ?_,
    h.put_full (rootQuery .ns) ((rootQuery .ns).stamped 1000) (by decide) (by rfl) (by rfl)⟩
  · rw [hsince]
    simp
  · rw [hsince]
    decide

end StubResolver.Cache
