import StubResolver.Proofs.Resolver.Calls
import StubResolver.Proofs.Resolver.Reuse

/-!
# Questions asked in vain

A question is asked in vain if no response is returned, or one from a server that does not answer
it. The cache has then been looked at and nothing put there, and a look that finds nothing takes
away a stale entry at most. Of the servers only those that refused are known since. A name that
cannot be read is not even asked for.
-/

namespace StubResolver.Resolver

variable {σ : Type}

namespace Inquiry

/-- There is an error, or a response from a server none of whose answers are to the question. -/
def Vain (i : Inquiry) : Prop :=
  (∃ e, i.result = .error e) ∨
    i.hit = false ∧ ∃ response, i.result = .ok response ∧
      ∀ r ∈ response.answers, r.isAnswer i.lookup.question = false

variable {settings : Settings} {link : Link σ} {s : Shared} {w : σ} {q : Question}

theorem Vain.hit_eq_false (h : (Inquiry.of settings link s w q).Vain) :
    (Inquiry.of settings link s w q).hit = false := by
  rcases h with ⟨e, he⟩ | ⟨hhit, -⟩
  · have hmade := Inquiry.made_of settings link s w q
    generalize Inquiry.of settings link s w q = i at he hmade
    by_contra hhit
    -- what the cache gives is a response, and that is the result
    obtain ⟨response, hfound⟩ := hmade.hit_iff.1 (by simpa using hhit)
    rw [hmade.served response hfound] at he
    cases he
  · exact hhit

theorem Vain.puts_eq_nil {i : Inquiry} (h : i.Vain) : i.lookup.puts i.result = [] := by
  rcases h with ⟨e, he⟩ | ⟨-, response, hresult, hno⟩
  · rw [he]
    rfl
  · have hanswers : response.answersQuestion i.lookup.question = false := by
      unfold Message.answersQuestion
      simpa using hno
    rw [hresult, Lookup.puts, hanswers]
    rfl

/-- All that is done to the cache is a look at it. -/
theorem Vain.cache_eq (h : (Inquiry.of settings link s w q).Vain) :
    let i := Inquiry.of settings link s w q
    (ask settings link s w q).shared.cache = (s.cache.get i.lookup.query i.time).1 := by
  intro i
  rw [ask_cache, ops, h.hit_eq_false, h.puts_eq_nil]
  rfl

end Inquiry

/-- The cache and the servers known to lack recursion are as before, apart from a stale entry for
the question and the servers that refused it. -/
structure LeavesIntact (i : Inquiry) (calls : List Call) (s s' : Shared) : Prop where
  entries : s'.cache.entries =
    if (s.cache.find? (.ofQuery i.lookup.query)).any (·.isExpired i.time) then
      s.cache.without (.ofQuery i.lookup.query)
    else s.cache.entries
  capacity : s'.cache.capacity = s.cache.capacity
  nonRecursive : ∀ server, server ∈ s'.nonRecursive ↔
    server ∈ s.nonRecursive ∨ ∃ c ∈ calls, c.server = server ∧ c.Refused i.lookup

theorem Inquiry.Vain.leavesIntact {settings : Settings} {link : Link σ} {s : Shared} {w : σ}
    {q : Question} (h : (Inquiry.of settings link s w q).Vain) :
    LeavesIntact (.of settings link s w q) (ask settings link.noting s (w, []) q).world.2 s
      (ask settings link s w q).shared where
  entries := by
    rw [h.cache_eq]
    have hnone := Option.isSome_eq_false_iff.1 h.hit_eq_false
    exact Cache.entries_get_of_none (Option.isNone_iff_eq_none.1 hnone)
  capacity := by
    rw [h.cache_eq]
    exact Cache.capacity_apply s.cache (.get _ _)
  nonRecursive server := Lookup.mem_nonRecursive_run _ s server link (link.id w).2

/-- **In vain.** A question that is asked in vain leaves the cache and the servers known to lack
recursion intact, and a name that cannot be read leaves everything as it is. -/
theorem vain_leavesIntact (settings : Settings) (link : Link σ) (s : Shared) (w : σ) :
    (∀ q, (Inquiry.of settings link s w q).Vain →
      LeavesIntact (.of settings link s w q) (ask settings link.noting s (w, []) q).world.2 s
        (ask settings link s w q).shared) ∧
      ∀ name type e, Name.ofText name = .error e →
        query settings link s w name type = ⟨s, w, .error (.protocol e)⟩ ∧
          (query settings link.noting s (w, []) name type).world.2 = [] := by
  constructor
  · intro q h
    exact h.leavesIntact
  · intro name type e h
    unfold query
    rw [h]
    exact ⟨rfl, rfl⟩

/-- What a server without recursion replies to query 7. -/
def refusalReply : Message :=
  bareReply (Flags.empty.set .qr true)

theorem read_refusalReply (now : Int64) :
    Lookup.read (.ok refusalReply.toWire) now = .ok (refusalReply.received now) :=
  read_bareReply (by decide) now

/-- The one server refuses, while the cache has a response that was fresh until a second ago; and a
name with an empty label. -/
theorem refusalReply_leavesIntact :
    let server : Endpoint := .v4 ⟨[192, 0, 2, 53], rfl⟩ 53
    let settings := Settings.ofServers [server]
    let q := Question.ofName .root (.known .a)
    let link := scriptedLink 7 62000
    let l := Lookup.ofQuestion settings 7 q
    let s := { Shared.ofCapacity 4 with
      cache := ⟨4, [(.ofQuery l.query, ⟨addressReply.received 1000⟩)], ⟨0, 0, 0⟩⟩ }
    let script := [.ok refusalReply.toWire]
    LeavesIntact (.of settings link s script q) (ask settings link.noting s (script, []) q).world.2
        s (ask settings link s script q).shared ∧
      (ask settings link s script q).shared.cache.entries = [] ∧
      server ∈ (ask settings link s script q).shared.nonRecursive ∧
        ∃ e, (query settings link s script "a..b" (.known .a)).result = .error (.protocol e) := by
  intro server settings q link l s script
  obtain ⟨hvain, hname⟩ := vain_leavesIntact settings link s script
  have hfound : s.cache.find? (.ofQuery l.query) = some ⟨addressReply.received 1000⟩ :=
    List.lookup_cons_self
  have hstale : (CacheEntry.mk (addressReply.received 1000)).isExpired 62000 = true := by decide
  have hlate : (addressReply.received 1000).freshUntil < (62000 : Int64).toInt := by decide
  have hmiss : (s.cache.get l.query 62000).2.response? = none := by
    rw [(Cache.get_of_stale hfound hlate).1]
    rfl
  let s₁ := (l.begin 62000 s).1
  let s₂ := s₁.count .countUdpAttempt
  have hunmarked : ¬ s₁.isMarked server := by
    rw [Shared.isMarked_iff, l.begin_nonRecursive]
    exact List.not_mem_nil
  have hasked : ask settings link s script q = l.run link s₁ script (.seeking [server] none) :=
    l.run_asked_of_none hmiss
  have hawaiting : l.run link s₂ script (.awaiting .udp server [] none) =
      l.run link s₂ [] (.marking server [] none) := by
    rw [Lookup.run]
    show l.run link (l.receive _ _ _ _ _ (Lookup.read (.ok refusalReply.toWire) 62000)).1 []
      (l.receive _ _ _ _ _ (Lookup.read (.ok refusalReply.toWire) 62000)).2 = _
    rw [read_refusalReply]
    rfl
  have hended : ask settings link s script q =
      ⟨(Lookup.mark s₂ server [] none).1, [], .error .noQueryableServer⟩ := by
    rw [hasked, Lookup.run_try hunmarked, hawaiting, Lookup.run_mark, Lookup.run, Lookup.seek_nil,
      Lookup.run, Option.getD_none]
  have hintact := hvain q (.inl ⟨_, congrArg Outcome.result hended⟩)
  refine ⟨hintact, ?_, ?_, ?_⟩
  · rw [hintact.entries]
    show (if (s.cache.find? (.ofQuery l.query)).any (·.isExpired 62000) then
      s.cache.without (.ofQuery l.query) else s.cache.entries) = []
    rw [hfound, Option.any_some, hstale, if_pos rfl]
    simp [s, Cache.without]
  · have hsame : s₂.isMarked server = s₁.isMarked server :=
      (s₁.same_count .countUdpAttempt).isMarked server
    have hunknown : ¬ s₂.isMarked server := fun h => hunmarked (hsame.symm.trans h)
    rw [hended, Lookup.mark_of_unmarked [] none hunknown]
    exact List.mem_cons_self
  · have hrejected : Name.ofText "a..b" = .error (.emptyLabel "a..b") := by rfl
    exact ⟨_, congrArg Outcome.result (hname _ _ _ hrejected).1⟩

end StubResolver.Resolver
