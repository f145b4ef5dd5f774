import StubResolver.Proofs.Cache.Key
import StubResolver.Proofs.Resolver.Turns
import StubResolver.Proofs.Resolver.Willing

/-!
# What is served from the cache

Lookups of regular questions run side by side, and nothing but they adds entries to the cache.
Then an entry stands there for a question that its response answers (`Justified`), and a response
on its way to the caller came from a server with recursion (`Willing`). Both are kept by every
step (`AllJustified.step`, `Sound.step`), so they hold of all reachable systems. That the response
also answers the question it is served for takes one more thing: questions under one key are the
same.
-/

namespace StubResolver.Resolver

/-- Lookups of regular questions. -/
def AsksRegular (settings : Settings) (l : Lookup) : Prop :=
  ∃ id q, q.Regular ∧ l = .ofQuestion settings id q

/-- The cache gets no entry from outside. It may lose some, and all else may change. -/
def AddsNoEntry (s s' : Shared) : Prop :=
  ∀ e ∈ s'.cache.entries, e ∈ s.cache.entries

/-- Why an entry may stand in the cache of a resolver that offers some payload size. -/
structure Justified (size : UInt16) (e : CacheKey × CacheEntry) (q : Question) : Prop where
  regular : q.Regular
  key : ∀ id, e.1 = .ofQuery (.query id q size)
  recursion : e.2.response.header.recursionAvailable = true
  received : 0 < e.2.response.receivedAt
  answered : ∃ a ∈ e.2.response.answers, a.isAnswer q = true

/-- All entries are justified. -/
def AllJustified (settings : Settings) (s : Shared) : Prop :=
  ∀ e ∈ s.cache.entries, ∃ q, Justified settings.udpPayloadSize e q

/-- What holds of a lookup at every stage. -/
def Sound (settings : Settings) (l : Lookup) (stage : Stage) : Prop :=
  AsksRegular settings l ∧ stage.Brings Willing

variable {settings : Settings} {s : Shared}

theorem AllJustified.of_cache_eq {s' : Shared} (hs : AllJustified settings s)
    (h : s'.cache = s.cache) : AllJustified settings s' := by
  unfold AllJustified
  rw [h]
  exact hs

theorem AllJustified.only_willing (hs : AllJustified settings s) : s.cache.Only Willing := by
  intro e he
  obtain ⟨_, hj⟩ := hs e he
  exact hj.recursion

/-- A response in the cache is fresh and answers the question it is served for. -/
theorem AllJustified.served (hs : AllJustified settings s) {l : Lookup} {now : Int64}
    {response : Message} (hl : AsksRegular settings l)
    (h : (l.begin now s).2 = .finished (.ok response)) :
    response.header.recursionAvailable = true ∧
      (∃ a ∈ response.answers, a.isAnswer l.question = true) ∧
      ∀ a ∈ response.answers, now.toInt ≤ response.receivedAt.toInt + 1000 * a.ttl.toNat := by
  obtain ⟨id, q, hq, rfl⟩ := hl
  have hfound : (s.cache.get (Lookup.ofQuestion settings id q).query now).2.response? =
      some response := by
    rw [Lookup.begin_stage] at h
    split at h
    · next hr => cases h; exact hr
    · cases h
  obtain ⟨hmem, hfresh⟩ := Cache.get_response? hfound
  obtain ⟨q', hj⟩ := hs _ hmem
  obtain ⟨a, ha, hanswer⟩ := hj.answered
  have hsame : q.same q' = true := CacheKey.same_of_ofQuery_eq hq hj.regular (hj.key id)
  refine ⟨hj.recursion, ⟨a, ha, ?_⟩, fun a ha => CacheEntry.le_of_fresh hfresh ha⟩
  rw [← hanswer]
  exact a.isAnswer_of_same hsame

/-- What is put into the cache is justified. -/
theorem AllJustified.store (hs : AllJustified settings s) {l : Lookup} {response : Message}
    (hl : AsksRegular settings l) (hr : response.header.recursionAvailable = true) :
    AllJustified settings (l.store s response).1 := by
  obtain ⟨id, q, hq, rfl⟩ := hl
  intro e he
  rw [Lookup.store_cache] at he
  split at he
  · next hanswers =>
    rcases Cache.mem_put he with ⟨rfl, htime⟩ | he
    · refine ⟨q, hq, fun _ => rfl, hr, htime, ?_⟩
      exact List.any_eq_true.1 hanswers
    · exact hs e he
  · exact hs e he

/-- **Entries.** One step keeps them justified. -/
theorem AllJustified.step (hs : AllJustified settings s) {l : Lookup} {stage : Stage}
    (hl : Sound settings l stage) (now : Int64) (reply : Except ResolverError Octets) :
    AllJustified settings (l.step now reply s stage).1 := by
  cases stage with
  | asked =>
    intro e he
    rw [Lookup.step, Lookup.begin_cache] at he
    exact hs e (Cache.mem_get he)
  | seeking servers last =>
    have hsame := Lookup.seek_same s last servers
    exact hs.of_cache_eq hsame.cache
  | awaiting transport server rest last =>
    have hsame := l.receive_same s server rest last (Lookup.read reply now) transport
    exact hs.of_cache_eq hsame.cache
  | marking server rest last => exact hs.of_cache_eq (Lookup.mark_cache s server rest last)
  | storing response => exact hs.store hl.1 hl.2
  | finished result => exact hs

/-- **Responses.** One step keeps those on their way from servers with recursion. -/
theorem Sound.step (hs : AllJustified settings s) {l : Lookup} {stage : Stage}
    (hl : Sound settings l stage) (now : Int64) (reply : Except ResolverError Octets) :
    Sound settings l (l.step now reply s stage).2 :=
  ⟨hl.1, hl.2.step (fun _ => id) hs.only_willing l now reply⟩

/-- **Soundness of the cache.** However lookups of regular questions interleave, the entries are
justified, every response that is a result came from a server with recursion, and one served from
the cache answers the question, with no answer that has run out. -/
theorem cache_sound {capacity : Nat} {y : System}
    (h : Reachable (AsksRegular settings) AddsNoEntry (.ofCapacity capacity) y) :
    (∀ e ∈ y.shared.cache.entries, ∃ q, Justified settings.udpPayloadSize e q) ∧
      (∀ l response, (l, .finished (.ok response)) ∈ y.lookups →
        response.header.recursionAvailable = true) ∧
      ∀ l now response, (l, .asked) ∈ y.lookups →
        (l.begin now y.shared).2 = .finished (.ok response) →
          (∃ a ∈ response.answers, a.isAnswer l.question = true) ∧
            ∀ a ∈ response.answers,
              now.toInt ≤ response.receivedAt.toInt + 1000 * a.ttl.toNat := by
  have init : AllJustified settings (.ofCapacity capacity) := by
    intro e he
    cases he
  have start : ∀ l, AsksRegular settings l → Sound settings l .asked := by
    intro l hl
    exact ⟨hl, trivial⟩
  have steady : ∀ s s', AddsNoEntry s s' → AllJustified settings s → AllJustified settings s' := by
    intro s s' hless hs e he
    exact hs e (hless e he)
  obtain ⟨hs, hl⟩ : AllJustified settings y.shared ∧ ∀ p ∈ y.lookups, Sound settings p.1 p.2 := by
    refine h.invariant init start ?_ steady
    intro l now reply s stage hs hl
    exact ⟨hs.step hl now reply, hl.step hs now reply⟩
  refine ⟨hs, ?_, ?_⟩
  · intro l response hmem
    exact (hl _ hmem).2
  · intro l now response hmem hbegin
    exact (hs.served (hl _ hmem).1 hbegin).2

/-- A response with id 7 from a server with recursion, with an address for the root. -/
def addressReply : Message :=
  Message.counted {
    header := ((Header.ofId 7).setFlag .qr true).setFlag .ra true
    questions := []
    answers := [.ofAddress .root 60 (.v4 ⟨[192, 0, 2, 1], rfl⟩)]
    authority := []
    additional := []
    optIndex := none
    receivedAt := 0 }

theorem read_addressReply (now : Int64) :
    Lookup.read (.ok addressReply.toWire) now = .ok (addressReply.received now) := by
  have hw : addressReply.Writable :=
    Message.writable_counted (by decide) (by decide) (by decide) (by decide) (by decide)
      (List.forall_mem_singleton.2 ⟨rfl, trivial⟩) (List.forall_mem_singleton.2 (by decide))
  exact Lookup.read_toWire hw now

/-- One question was asked, and its response is in the cache. -/
theorem addressReply_cache_sound :
    let settings := Settings.ofServers [.v4 ⟨[192, 0, 2, 53], rfl⟩ 53]
    let q := Question.ofName .root (.known .a)
    let l := Lookup.ofQuestion settings 7 q
    let o := ask settings (scriptedLink 7 1000) (.ofCapacity 4) [.ok addressReply.toWire] q
    let y : System := ⟨o.shared, [(l, .finished o.result)]⟩
    (Reachable (AsksRegular settings) AddsNoEntry (.ofCapacity 4) y ∧
        y.shared.cache.entries ≠ []) ∧
      ∀ e ∈ y.shared.cache.entries, ∃ q, Justified settings.udpPayloadSize e q := by
  intro settings q l o y
  have hreach : Reachable (AsksRegular settings) AddsNoEntry (.ofCapacity 4) y :=
    Reachable.initial.ask ⟨7, q, ⟨by decide, by decide⟩, rfl⟩
  let link := scriptedLink 7 1000
  let s₁ := (l.begin 1000 (.ofCapacity 4)).1
  let s₂ := s₁.count .countUdpAttempt
  let response := addressReply.received 1000
  let script : List (Except ResolverError Octets) := [.ok addressReply.toWire]
  have hasked : o = l.run link s₁ script (.seeking settings.servers none) :=
    Lookup.run_asked_of_none rfl
  have hseeking : l.run link s₁ script (.seeking settings.servers none) =
      l.run link s₂ script (.awaiting .udp (.v4 ⟨[192, 0, 2, 53], rfl⟩ 53) [] none) :=
    Lookup.run_try (by decide)
  have hawaiting : l.run link s₂ script (.awaiting .udp (.v4 ⟨[192, 0, 2, 53], rfl⟩ 53) [] none) =
      l.run link (s₂.count fun m => m.countResponse true) [] (.storing response) := by
    rw [Lookup.run]
    show l.run link (l.receive _ _ _ _ _ (Lookup.read (.ok addressReply.toWire) 1000)).1 []
      (l.receive _ _ _ _ _ (Lookup.read (.ok addressReply.toWire) 1000)).2 = _
    rw [read_addressReply]
    rfl
  refine ⟨⟨hreach, ?_⟩, (cache_sound hreach).1⟩
  show o.shared.cache.entries ≠ []
  rw [hasked, hseeking, hawaiting, Lookup.run_storing, Lookup.store_cache]
  exact List.cons_ne_nil (CacheKey.ofQuery l.query, CacheEntry.mk response) []

end StubResolver.Resolver
