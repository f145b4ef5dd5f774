import StubResolver.Proofs.Cache.Recency

/-!
# How long a response is there to be hit

Right after its key was used, a response stands first. From then on it stays where only keys used
since stand before it, as long as these are few, it is not found stale, and nothing else is stored
under its key (`Holds.get`, `Holds.put`). While it is there and fresh, lookups hit it and leave the
entries as they are but for their order.
-/

namespace StubResolver.Cache

variable {others : Finset CacheKey} {query query' response response' : Message} {c : Cache}
  {op : Op} {now : Int64}

/-! ## What a lookup finds -/

theorem Lookup.response?_eq_some_iff {l : Lookup} :
    l.response? = some response ↔ l = .hit response := by
  cases l <;> simp [response?]

/-- What is hit is there. -/
theorem find?_of_hit (h : (c.get query now).2 = .hit response) :
    c.find? (.ofQuery query) = some ⟨response⟩ := by
  have hlookup : (c.lookup query now).2 = .hit response := h
  cases hfind : c.find? (.ofQuery query) with
  | none =>
    rw [lookup_of_none hfind] at hlookup
    cases hlookup
  | some e =>
    cases hexp : e.isExpired now with
    | true =>
      rw [lookup_of_stale hfind hexp] at hlookup
      cases hlookup
    | false =>
      rw [lookup_of_fresh hfind hexp] at hlookup
      cases hlookup
      rfl

theorem get_of_fresh (hfind : c.find? (.ofQuery query) = some ⟨response⟩)
    (hnow : now.toInt ≤ response.freshUntil) : (c.get query now).2 = .hit response := by
  have hfresh := CacheEntry.isExpired_eq_false_iff_le (e := ⟨response⟩).2 hnow
  exact congrArg Prod.snd (lookup_of_fresh hfind hfresh)

theorem get_of_stale (hfind : c.find? (.ofQuery query) = some ⟨response⟩)
    (hnow : response.freshUntil < now.toInt) :
    (c.get query now).2 = .expired ⟨response⟩ ∧
      (c.get query now).1.entries = c.without (.ofQuery query) := by
  have hstale := CacheEntry.isExpired_iff_lt (e := ⟨response⟩).2 hnow
  have hlookup := lookup_of_stale hfind hstale
  exact ⟨congrArg Prod.snd hlookup, congrArg (·.1.entries) hlookup⟩

/-- A look that finds nothing fresh removes what is stale under its key. -/
theorem entries_get_of_none (h : (c.get query now).2.response? = none) :
    (c.get query now).1.entries =
      if (c.find? (.ofQuery query)).any (·.isExpired now) then c.without (.ofQuery query)
      else c.entries := by
  have hget : (c.get query now).1.entries = (c.lookup query now).1.entries := rfl
  rw [hget]
  cases hfind : c.find? (.ofQuery query) with
  | none => simp [lookup_of_none hfind]
  | some entry =>
    cases hstale : entry.isExpired now with
    | true => simp [lookup_of_stale hfind hstale, hstale]
    | false =>
      have hhit : (c.get query now).2 = .hit entry.response :=
        congrArg Prod.snd (lookup_of_fresh hfind hstale)
      rw [hhit] at h
      cases h

/-- An entry moves to the front. -/
theorem perm_without {key : CacheKey} {entry : CacheEntry} (hc : c.Fits)
    (hfind : c.find? key = some entry) : ((key, entry) :: c.without key).Perm c.entries := by
  obtain ⟨before, after, hentries, hbefore⟩ := List.lookup_eq_some_iff.1 hfind
  have hnodup := hc.nodup
  rw [keys, hentries, List.map_append, List.map_cons, List.nodup_append, List.nodup_cons] at hnodup
  have hafter : ∀ e ∈ after, e.1 != key := by
    intro e he
    have hne : e.1 ≠ key := fun heq => hnodup.2.1.1 (List.mem_map.2 ⟨e, he, heq⟩)
    simpa using hne
  have hbefore' : ∀ e ∈ before, e.1 != key := by
    intro e he
    have hne := hbefore e he
    rwa [bne, BEq.comm]
  rw [without, hentries, List.filter_append, List.filter_cons_of_neg (by simp),
    List.filter_eq_self.2 hbefore', List.filter_eq_self.2 hafter]
  exact List.perm_middle.symm

/-- A hit only changes the order of the entries. -/
theorem perm_get_of_fresh (hc : c.Fits) (hfind : c.find? (.ofQuery query) = some ⟨response⟩)
    (hnow : now.toInt ≤ response.freshUntil) : (c.get query now).1.entries.Perm c.entries := by
  have hfresh := CacheEntry.isExpired_eq_false_iff_le (e := ⟨response⟩).2 hnow
  have hentries : (c.get query now).1.entries =
      (.ofQuery query, ⟨response⟩) :: c.without (.ofQuery query) :=
    congrArg (·.1.entries) (lookup_of_fresh hfind hfresh)
  rw [hentries]
  exact perm_without hc hfind

/-! ## Holding a response -/

/-- The response is there under the key of a query, and the keys before it are among some that are
fewer than there is room for. -/
structure Holds (others : Finset CacheKey) (query response : Message) (c : Cache) : Prop where
  fits : c.Fits
  few : others.card < c.capacity
  kept : Kept others (.ofQuery query) c.keys
  found : c.find? (.ofQuery query) = some ⟨response⟩

theorem find?_of_kept {key : CacheKey} (h : Kept others key c.keys) :
    ∃ e, c.find? key = some e := by
  obtain ⟨front, back, hkeys, _⟩ := h
  apply mem_keys_iff.1
  rw [hkeys]
  exact List.mem_append_right _ List.mem_cons_self

/-- Once its key is used, the response stands first. -/
theorem holds_of_use (hc : c.Fits) (few : others.card < c.capacity)
    (hop : c.effect op = .use (.ofQuery query))
    (hfound : ∀ e, (c.apply op).find? (.ofQuery query) = some e → e.response = response) :
    Holds others query response (c.apply op) := by
  have hkept : Kept others (.ofQuery query) (c.apply op).keys := by
    obtain ⟨room, hroom⟩ : ∃ room, c.capacity = room + 1 := ⟨c.capacity - 1, by omega⟩
    rw [keys_apply hc, hop, hroom]
    exact ⟨[], _, List.take_succ_cons, fun _ hx => (List.not_mem_nil hx).elim⟩
  obtain ⟨e, he⟩ := find?_of_kept hkept
  refine ⟨hc.step op, by rwa [capacity_apply], hkept, ?_⟩
  rw [he, ← hfound e he]

theorem holds_of_hit (hc : c.Fits) (few : others.card < c.capacity)
    (h : (c.get query now).2 = .hit response) :
    Holds others query response (c.get query now).1 := by
  have heffect : c.effect (.get query now) = .use (.ofQuery query) := by
    rw [effect, h]
    rfl
  refine holds_of_use hc few heffect ?_
  intro e he
  rcases find?_apply he with hs | ⟨_, hold⟩
  · cases hs
  · cases hold.symm.trans (find?_of_hit h)
    rfl

theorem holds_of_put (hc : c.Fits) (few : others.card < c.capacity) (h : 0 < response.receivedAt) :
    Holds others query response (c.put query response).1 := by
  have heffect : c.effect (.put query response) = .use (.ofQuery query) := by
    rw [effect, if_pos h]
  have hstored : (Op.put query response).stored? query = some response := if_pos ⟨h, rfl⟩
  refine holds_of_use hc few heffect ?_
  intro e he
  rcases find?_apply he with hs | ⟨hs, _⟩
  · exact (Option.some.inj (hstored.symm.trans hs)).symm
  · cases hstored.symm.trans hs

/-- **One operation** leaves it there. -/
theorem Holds.step (h : Holds others query response c) (op : Op) (hclear : c.effect op ≠ .clearing)
    (hexpiry : c.effect op ≠ .expiry (.ofQuery query))
    (hused : ∀ k, c.effect op = .use k → k = .ofQuery query ∨ k ∈ others)
    (hstored : op.stored? query = none) : Holds others query response (c.apply op) := by
  have hkept : Kept others (.ofQuery query) (c.apply op).keys := by
    rw [keys_apply h.fits]
    exact h.kept.step h.fits.nodup h.few hclear hexpiry hused
  obtain ⟨e, he⟩ := find?_of_kept hkept
  refine ⟨h.fits.step op, by rw [capacity_apply]; exact h.few, hkept, ?_⟩
  rcases find?_apply he with hs | ⟨_, hold⟩
  · cases hstored.symm.trans hs
  · rw [he, ← hold, h.found]

/-- A lookup leaves it there if it comes in time for it, or hits one of the others at most. -/
theorem Holds.get (h : Holds others query response c)
    (in_time : CacheKey.ofQuery query' = .ofQuery query → now.toInt ≤ response.freshUntil)
    (used : ∀ r, (c.get query' now).2 = .hit r →
      CacheKey.ofQuery query' = .ofQuery query ∨ .ofQuery query' ∈ others) :
    Holds others query response (c.get query' now).1 := by
  have heffect : c.effect (.get query' now) = (c.get query' now).2.effect (.ofQuery query') := rfl
  cases hget : (c.get query' now).2 with
  | hit r =>
    rw [hget] at heffect
    refine h.step (.get query' now) ?_ ?_ ?_ rfl
    · rw [heffect]
      nofun
    · rw [heffect]
      nofun
    · rw [heffect]
      intro k hk
      rw [← Effect.use.inj hk]
      exact used r hget
  | miss =>
    rw [hget] at heffect
    refine h.step (.get query' now) ?_ ?_ ?_ rfl
    all_goals
      rw [heffect]
      nofun
  | expired e =>
    rw [hget] at heffect
    have hne : CacheKey.ofQuery query' ≠ .ofQuery query := by
      intro hkey
      have hfound : c.find? (.ofQuery query') = some ⟨response⟩ := by rw [hkey, h.found]
      cases hget.symm.trans (get_of_fresh hfound (in_time hkey))
    refine h.step (.get query' now) ?_ ?_ ?_ rfl
    · rw [heffect]
      nofun
    · rw [heffect]
      intro heq
      exact hne (Effect.expiry.inj heq)
    · rw [heffect]
      nofun

/-- So does storing one of the others. -/
theorem Holds.put (h : Holds others query response c)
    (hkey : CacheKey.ofQuery query' ≠ .ofQuery query)
    (used : 0 < response'.receivedAt → .ofQuery query' ∈ others) :
    Holds others query response (c.put query' response').1 := by
  have hstored : (Op.put query' response').stored? query = none :=
    if_neg fun both => hkey (CacheKey.ofQuery_eq_iff.2 both.2)
  by_cases htime : 0 < response'.receivedAt
  · have heffect : c.effect (.put query' response') = .use (.ofQuery query') := by
      rw [effect, if_pos htime]
    refine h.step (.put query' response') ?_ ?_ ?_ hstored
    · simp [heffect]
    · simp [heffect]
    · rw [heffect]
      intro k hk
      rw [← Effect.use.inj hk]
      exact .inr (used htime)
  · have heffect : c.effect (.put query' response') = .idle := by rw [effect, if_neg htime]
    refine h.step (.put query' response') ?_ ?_ ?_ hstored
    all_goals simp [heffect]

end StubResolver.Cache
