import StubResolver.Proofs.Cache.Holding
import StubResolver.Proofs.Resolver.CacheSound

/-!
# When a response is used again

Questions are asked one after another, and the cache is left to the resolver.

1. Asking touches the cache in two places: it is looked at first, and the result is put there last
   if it comes from a server and answers the question (`ask_cache`).
2. So after a question was answered, the response is held under the key of its query
   (`Inquiry.Made.holds`), and asking other questions leaves it there unless too many of them use
   the cache (`Inquiry.Made.keeps`, `Asked.keeps`).
3. What is held is the result of asking for it again in time, without any call, and is dropped
   otherwise (`reuses_of_found`).
-/

namespace StubResolver.Resolver

variable {σ : Type}

/-! ## What asking does to the cache -/

/-- A lookup past the cache and short of a response. -/
def Stage.Trying : Stage → Prop
  | .asked | .finished (.ok _) => False
  | _ => True

/-- Such a lookup goes on as one, or stores its response. -/
theorem Stage.Trying.step {stage : Stage} (h : stage.Trying)
    (hstoring : ∀ response, stage ≠ .storing response) (l : Lookup) (now : Int64)
    (reply : Except ResolverError Octets) (s : Shared) : (l.step now reply s stage).2.Trying := by
  have hnext := l.step_next s now reply stage
  generalize (l.step now reply s stage).2 = stage' at hnext
  cases hnext with
  | hit => exact h
  | missed => cases h
  | stored => exact absurd rfl (hstoring _)
  | ended => exact h
  | _ => trivial

namespace Lookup

variable (l : Lookup) (link : Link σ) (s : Shared)

/-- What is done to the cache with the result from the servers. -/
def puts (result : Except ResolverError Message) : List Cache.Op :=
  match result with
  | .ok response => if response.answersQuestion l.question then [.put l.query response] else []
  | .error _ => []

theorem store_cache_after (response : Message) :
    (l.store s response).1.cache = s.cache.after (l.puts (.ok response)) := by
  rw [store_cache, puts]
  split <;> rfl

/-- **Past the cache** a lookup only puts its result there. -/
theorem run_cache (w : σ) (stage : Stage) (h : stage.Trying) :
    (l.run link s w stage).shared.cache = s.cache.after (l.puts (l.run link s w stage).result) := by
  induction s, w, stage using Lookup.run.induct l link with
  | case1 s w result =>
    rw [run]
    cases result with
    | ok response => cases h
    | error e => rfl
  | case2 => cases h
  | case3 s w servers last this next ih =>
    have htrying := h.step (fun _ => Stage.noConfusion) l 0 (.error .timeout) s
    rw [run, ih htrying, (seek_same s last servers).cache]
  | case4 s w transport server rest last reply w' hr now w'' hn this next ih =>
    have htrying := h.step (fun _ => Stage.noConfusion) l now reply s
    rw [run]
    simp only [hr, hn]
    rw [ih htrying, (l.receive_same s ..).cache]
  | case5 s w server rest last this next ih =>
    have htrying := h.step (fun _ => Stage.noConfusion) l 0 (.error .timeout) s
    rw [run, ih htrying, mark_cache]
  | case6 s w response this next ih => rw [run_storing, store_cache_after]

end Lookup

/-! ## Inquiries -/

/-- A question that was asked. -/
structure Inquiry where
  lookup : Lookup
  /-- When the cache was looked at. -/
  time : Int64
  /-- Whether it gave the result. -/
  hit : Bool
  result : Except ResolverError Message

namespace Inquiry

/-- What is to be told of asking a question. -/
def of (settings : Settings) (link : Link σ) (s : Shared) (w : σ) (q : Question) : Inquiry :=
  let l := Lookup.ofQuestion settings (link.id w).1 q
  let time := (link.now (link.id w).2).1
  ⟨l, time, (s.cache.get l.query time).2.response?.isSome, (ask settings link s w q).result⟩

/-- What was done to the cache. -/
def ops (i : Inquiry) : List Cache.Op :=
  .get i.lookup.query i.time :: if i.hit then [] else i.lookup.puts i.result

/-- The cache was hit, or the response is worth storing. -/
def Used (i : Inquiry) : Prop :=
  i.hit = true ∨ ∃ response, i.result = .ok response ∧ 0 < response.receivedAt ∧
    response.answersQuestion i.lookup.question = true

end Inquiry

/-- **Asking** does to the cache what the inquiry says. -/
theorem ask_cache (settings : Settings) (link : Link σ) (s : Shared) (w : σ) (q : Question) :
    (ask settings link s w q).shared.cache =
      s.cache.after (Inquiry.of settings link s w q).ops := by
  let i := Inquiry.of settings link s w q
  have hask : ask settings link s w q = i.lookup.run link s (link.id w).2 .asked := rfl
  show _ = (s.cache.get i.lookup.query i.time).1.after
    (if i.hit then [] else i.lookup.puts (ask settings link s w q).result)
  cases hfound : (s.cache.get i.lookup.query i.time).2.response? with
  | some response =>
    have hhit : i.hit = true := Option.isSome_iff_exists.2 ⟨_, hfound⟩
    rw [if_pos hhit, hask, Lookup.run_asked_of_some hfound, Lookup.begin_cache]
    rfl
  | none =>
    have hhit : ¬ i.hit = true := by
      show ¬ (s.cache.get i.lookup.query i.time).2.response?.isSome = true
      rw [hfound]
      exact Bool.false_ne_true
    have htrying : (Stage.seeking i.lookup.settings.servers none).Trying := trivial
    rw [if_neg hhit, hask, Lookup.run_asked_of_none hfound, Lookup.run_cache _ _ _ _ _ htrying,
      Lookup.begin_cache]
    rfl

/-- An inquiry at a cache, its query offering some payload size. -/
structure Inquiry.Made (size : UInt16) (c : Cache) (i : Inquiry) : Prop where
  query : ∃ id, i.lookup.query = .query id i.lookup.question size
  hit_iff : i.hit = true ↔ ∃ response, (c.get i.lookup.query i.time).2 = .hit response
  served : ∀ response, (c.get i.lookup.query i.time).2 = .hit response → i.result = .ok response

theorem Inquiry.made_of (settings : Settings) (link : Link σ) (s : Shared) (w : σ) (q : Question) :
    (Inquiry.of settings link s w q).Made settings.udpPayloadSize s.cache where
  query := ⟨(link.id w).1, rfl⟩
  hit_iff := Option.isSome_iff_exists.trans
    (exists_congr fun _ => Cache.Lookup.response?_eq_some_iff)
  served response h := by
    have hfound := Cache.Lookup.response?_eq_some_iff.2 h
    exact congrArg Outcome.result (Lookup.run_asked_of_some hfound)

/-- Questions asked one after another turn a cache into another. Nothing else touches it, though all
else that lookups share may change in between, and so may the servers. -/
inductive Asked (size : UInt16) : Cache → List Inquiry → Cache → Prop
  | nil (c : Cache) : Asked size c [] c
  | cons {σ : Type} (settings : Settings) (link : Link σ) (s : Shared) (w : σ) (q : Question)
      {later : List Inquiry} {c : Cache} (hsize : settings.udpPayloadSize = size)
      (rest : Asked size (ask settings link s w q).shared.cache later c) :
      Asked size s.cache (.of settings link s w q :: later) c

section Asked

variable {size : UInt16} {c c' : Cache} {i : Inquiry} {past later : List Inquiry}

theorem Asked.of_cons (h : Asked size c (i :: later) c') :
    i.Made size c ∧ Asked size (c.after i.ops) later c' := by
  cases h with
  | cons settings link s w q hsize rest =>
    subst hsize
    rw [ask_cache] at rest
    exact ⟨Inquiry.made_of settings link s w q, rest⟩

/-- What has gone before leaves the cache in order. -/
theorem Asked.of_append (h : Asked size c (past ++ later) c') :
    ∃ ops, Asked size (c.after ops) later c' := by
  induction past generalizing c with
  | nil => exact ⟨[], h⟩
  | cons i past ih =>
    obtain ⟨ops, hrest⟩ := ih h.of_cons.2
    refine ⟨i.ops ++ ops, ?_⟩
    rwa [Cache.after, List.foldl_append]

/-! ## Holding the response -/

variable {others : Finset CacheKey} {id : UInt16} {q : Question} {response : Message}

/-- **Getting it.** Once a question has been answered, the response is held. -/
theorem Inquiry.Made.holds (hi : i.Made size c) (hc : c.Fits) (few : others.card < c.capacity)
    (result : i.result = .ok response) (received : 0 < response.receivedAt)
    (answers : response.answersQuestion i.lookup.question = true) :
    (c.after i.ops).Holds others i.lookup.query response := by
  by_cases hhit : i.hit = true
  · obtain ⟨r, hr⟩ := hi.hit_iff.1 hhit
    obtain rfl : r = response := Except.ok.inj ((hi.served r hr).symm.trans result)
    rw [Inquiry.ops, if_pos hhit]
    exact Cache.holds_of_hit hc few hr
  · let c₁ := c.apply (.get i.lookup.query i.time)
    have few₁ : others.card < c₁.capacity := by rwa [Cache.capacity_apply]
    have hputs : i.lookup.puts i.result = [.put i.lookup.query response] := by
      rw [result, Lookup.puts, if_pos answers]
    rw [Inquiry.ops, if_neg hhit, hputs]
    exact Cache.holds_of_put (hc.step _) few₁ received

/-- **Keeping it.** A question leaves it there that is asked in time if it is the same, and that
otherwise does not use the cache or is among some few. -/
theorem Inquiry.Made.keeps (hi : i.Made size c) (h : c.Holds others (.query id q size) response)
    (hq : q.Regular) (regular : i.lookup.question.Regular)
    (in_time : i.lookup.question.same q = true → i.time.toInt ≤ response.freshUntil)
    (used : i.Used → i.lookup.question.same q = true ∨
      .ofQuery (.query 0 i.lookup.question size) ∈ others) :
    (c.after i.ops).Holds others (.query id q size) response := by
  obtain ⟨id', hquery⟩ := hi.query
  have hzero : CacheKey.ofQuery (.query 0 i.lookup.question size) = .ofQuery i.lookup.query := by
    rw [hquery]
    rfl
  have hkey : CacheKey.ofQuery i.lookup.query = .ofQuery (.query id q size) ↔
      i.lookup.question.same q = true := by
    rw [hquery]
    exact ⟨CacheKey.same_of_ofQuery_eq regular hq, CacheKey.ofQuery_eq_of_same⟩
  rw [← hkey] at in_time used
  rw [hzero] at used
  have hget : (c.apply (.get i.lookup.query i.time)).Holds others (.query id q size) response :=
    h.get in_time fun r hr => used (.inl (hi.hit_iff.2 ⟨r, hr⟩))
  by_cases hhit : i.hit = true
  · rw [Inquiry.ops, if_pos hhit]
    exact hget
  · rw [Inquiry.ops, if_neg hhit, Lookup.puts.eq_def]
    split
    · next r hr =>
      by_cases hanswers : r.answersQuestion i.lookup.question
      · have hne : CacheKey.ofQuery i.lookup.query ≠ .ofQuery (.query id q size) := by
          intro heq
          have hfound : c.find? (.ofQuery i.lookup.query) = some ⟨response⟩ := by rw [heq, h.found]
          exact hhit (hi.hit_iff.2 ⟨_, Cache.get_of_fresh hfound (in_time heq)⟩)
        rw [if_pos hanswers]
        exact hget.put hne fun htime => (used (.inr ⟨r, hr, htime, hanswers⟩)).resolve_left hne
      · rw [if_neg hanswers]
        exact hget
    · exact hget

/-- **A run** of such questions leaves it there. -/
theorem Asked.keeps (run : Asked size c later c')
    (h : c.Holds others (.query id q size) response) (hq : q.Regular)
    (regular : ∀ i ∈ later, i.lookup.question.Regular)
    (in_time : ∀ i ∈ later, i.lookup.question.same q = true →
      i.time.toInt ≤ response.freshUntil)
    (used : ∀ i ∈ later, i.Used → i.lookup.question.same q = true ∨
      .ofQuery (.query 0 i.lookup.question size) ∈ others) :
    c'.Holds others (.query id q size) response := by
  induction later generalizing c with
  | nil =>
    cases run
    exact h
  | cons i later ih =>
    obtain ⟨hi, hrest⟩ := run.of_cons
    rw [List.forall_mem_cons] at regular in_time used
    exact ih hrest (hi.keeps h hq regular.1 in_time.1 used.1) regular.2 in_time.2 used.2

end Asked

/-! ## Using it again -/

/-- A walk along servers of which one is not known to lack recursion makes a call. -/
theorem Walk.calls_ne_nil {l : Lookup} {marked servers : List Endpoint}
    {last : Option ResolverError} {turns : List Turn} {result : Except ResolverError Message}
    (h : Walk l marked servers last turns result) (hsome : ∃ server ∈ servers, server ∉ marked) :
    turns.flatMap Turn.calls ≠ [] := by
  induction h with
  | done =>
    obtain ⟨_, hmem, _⟩ := hsome
    cases hmem
  | skip known _ ih =>
    obtain ⟨server, hmem, hnot⟩ := hsome
    rcases List.mem_cons.1 hmem with rfl | hmem
    · exact absurd known hnot
    · exact ih ⟨server, hmem, hnot⟩
  | accept => exact List.cons_ne_nil _ _
  | go_on => exact List.cons_ne_nil _ _

/-- What comes of asking a question whose key holds a response in the cache. -/
structure Reuses (response : Message) (settings : Settings) (link : Link σ) (s : Shared) (w : σ)
    (q : Question) : Prop where
  held : s.cache.find? (.ofQuery (.query (link.id w).1 q settings.udpPayloadSize)) = some ⟨response⟩
  /-- In time it is the result, no call is made, and the cache and the servers known to lack
  recursion stay as they are, but for the order of the entries. -/
  in_time : (link.now (link.id w).2).1.toInt ≤ response.freshUntil →
    (ask settings link s w q).result = .ok response ∧
      (ask settings link.noting s (w, []) q).world.2 = [] ∧
        (ask settings link s w q).shared.cache.entries.Perm s.cache.entries ∧
          (ask settings link s w q).shared.nonRecursive = s.nonRecursive
  /-- Later its entry is removed and the servers are tried, and called if there are any to call. -/
  late : response.freshUntil < (link.now (link.id w).2).1.toInt →
    let l := Lookup.ofQuestion settings (link.id w).1 q
    (∃ s' w', s'.cache.entries = s.cache.without (.ofQuery l.query) ∧
        s'.nonRecursive = s.nonRecursive ∧
          ask settings link s w q = l.run link s' w' (.seeking settings.servers none)) ∧
      ((∃ server ∈ settings.servers, server ∉ s.nonRecursive) →
        (ask settings link.noting s (w, []) q).world.2 ≠ [])

theorem reuses_of_found {response : Message} {settings : Settings} (link : Link σ) {s : Shared}
    (w : σ) {q : Question} (hc : s.cache.Fits)
    (hfound : s.cache.find? (.ofQuery (.query (link.id w).1 q settings.udpPayloadSize)) =
      some ⟨response⟩) : Reuses response settings link s w q := by
  let l := Lookup.ofQuestion settings (link.id w).1 q
  let now := link.now (link.id w).2
  refine ⟨hfound, ?_, ?_⟩
  · intro htime
    have hget : (s.cache.get l.query now.1).2.response? = some response :=
      Cache.Lookup.response?_eq_some_iff.2 (Cache.get_of_fresh hfound htime)
    have hplain : ask settings link s w q = ⟨(l.begin now.1 s).1, now.2, .ok response⟩ :=
      Lookup.run_asked_of_some hget
    have hnoted : ask settings link.noting s (w, []) q =
        ⟨(l.begin now.1 s).1, (now.2, []), .ok response⟩ :=
      Lookup.run_asked_of_some hget
    rw [hplain, hnoted, l.begin_cache, l.begin_nonRecursive]
    exact ⟨rfl, rfl, Cache.perm_get_of_fresh hc hfound htime, rfl⟩
  · intro htime
    obtain ⟨hget, hentries⟩ := Cache.get_of_stale hfound htime
    have hnone : (s.cache.get l.query now.1).2.response? = none :=
      congrArg Cache.Lookup.response? hget
    have hplain : ask settings link s w q =
        l.run link (l.begin now.1 s).1 now.2 (.seeking settings.servers none) :=
      Lookup.run_asked_of_none hnone
    have hnoted : ask settings link.noting s (w, []) q =
        l.run link.noting (l.begin now.1 s).1 (now.2, []) (.seeking settings.servers none) :=
      Lookup.run_asked_of_none hnone
    constructor
    · refine ⟨(l.begin now.1 s).1, now.2, ?_, l.begin_nonRecursive s now.1, hplain⟩
      rw [l.begin_cache]
      exact hentries
    · intro hsome
      obtain ⟨turns, hcalls, hwalk⟩ :=
        l.run_walk link settings.servers (l.begin now.1 s).1 now.2 [] none
      rw [l.begin_nonRecursive] at hwalk
      rw [hnoted, hcalls]
      exact hwalk.calls_ne_nil hsome

/-- **Reuse.** A question has been answered. Since then fewer other questions than there is room for
have used the cache, and the same question has been asked in time only. Asking it again uses the
response again in time, and the servers later. -/
theorem reuses_of_asked {size : UInt16} {capacity : Nat} {past later : List Inquiry} {i : Inquiry}
    {c : Cache} {response : Message}
    (run : Asked size (.ofCapacity capacity) (past ++ i :: later) c)
    (regular : ∀ j ∈ i :: later, j.lookup.question.Regular)
    (result : i.result = .ok response) (received : 0 < response.receivedAt)
    (answers : response.answersQuestion i.lookup.question = true)
    (others : List Question) (few : others.length < max 1 capacity)
    (used : ∀ j ∈ later, j.Used → j.lookup.question.same i.lookup.question = true ∨
      ∃ q ∈ others, j.lookup.question.same q = true)
    (in_time : ∀ j ∈ later, j.lookup.question.same i.lookup.question = true →
      j.time.toInt ≤ response.freshUntil)
    (settings : Settings) (hsize : settings.udpPayloadSize = size) (link : Link σ) (s : Shared)
    (hcache : s.cache = c) (w : σ) (q : Question) (same : q.same i.lookup.question = true) :
    Reuses response settings link s w q := by
  obtain ⟨ops, hrun⟩ := run.of_append
  obtain ⟨hi, hlater⟩ := hrun.of_cons
  obtain ⟨id, hquery⟩ := hi.query
  have hempty := Cache.fits_ofCapacity capacity
  let keys := (others.map fun o => CacheKey.ofQuery (.query 0 o size)).toFinset
  have hfew : keys.card < ((Cache.ofCapacity capacity).after ops).capacity := by
    rw [Cache.capacity_after]
    calc keys.card ≤ (others.map fun o => CacheKey.ofQuery (.query 0 o size)).length :=
          List.toFinset_card_le _
      _ = others.length := List.length_map _
      _ < max 1 capacity := few
  have hstart := hi.holds (hempty.run ops) hfew result received answers
  rw [hquery] at hstart
  rw [List.forall_mem_cons] at regular
  have hend : c.Holds keys (.query id i.lookup.question size) response := by
    refine hlater.keeps hstart regular.1 regular.2 in_time ?_
    intro j hj hused
    refine (used j hj hused).imp_right ?_
    rintro ⟨o, ho, hsame⟩
    rw [CacheKey.ofQuery_eq_of_same hsame, List.mem_toFinset]
    exact List.mem_map_of_mem ho
  refine reuses_of_found link w (by rw [hcache]; exact hend.fits) ?_
  rw [hcache, ← hend.found, hsize, CacheKey.ofQuery_eq_of_same same]

/-- An answer over UDP that is not cut short, and is accepted, makes the result. -/
theorem Lookup.run_of_accepted (l : Lookup) (link : Link σ) {s : Shared} (w : σ) {server : Endpoint}
    (rest : List Endpoint) (last : Option ResolverError) {response : Message}
    (unmarked : ¬ s.isMarked server) :
    let reply := link.exchange .udp server l.query.toWire w
    let answer := read reply.1 (link.now reply.2).1
    cutShort answer = false → accepted? l.query.header.id answer = some response →
      (l.run link s w (.seeking (server :: rest) last)).result = .ok response := by
  intro reply answer hcut haccepted
  let s₁ := s.count .countUdpAttempt
  have hstage : (l.receive s₁ .udp server rest last answer).2 = .storing response := by
    have hnext := l.receive_next s₁ 0 answer .udp server rest last
    generalize (l.receive s₁ .udp server rest last answer).2 = stage at hnext
    cases hnext with
    | again _ cut => cases hcut.symm.trans cut
    | accepted _ is_accepted => rw [Option.some.inj (is_accepted.symm.trans haccepted)]
    | failed _ is_failure => cases (accepted?_eq_none_of_failure? is_failure).symm.trans haccepted
    | refused _ unwilling => cases unwilling.accepted?.symm.trans haccepted
  rw [run_try unmarked, run]
  show (l.run link (l.receive s₁ .udp server rest last answer).1 (link.now reply.2).2
    (l.receive s₁ .udp server rest last answer).2).result = _
  rw [hstage, run_storing]

/-- The reply with the address is received, used again half a minute later, and once more in the
last millisecond of its minute. After that, the server is called. -/
theorem addressReply_reused :
    let server : Endpoint := .v4 ⟨[192, 0, 2, 53], rfl⟩ 53
    let settings := Settings.ofServers [server]
    let q := Question.ofName .root (.known .a)
    let first := ask settings (scriptedLink 7 1000) (.ofCapacity 1) [.ok addressReply.toWire] q
    let second := ask settings (scriptedLink 8 31000) first.shared [] q
    let s := { Shared.ofCapacity 1 with cache := second.shared.cache }
    (ask settings (scriptedLink 9 61000) s [] q).result = .ok (addressReply.received 1000) ∧
      (ask settings (scriptedLink 9 61000).noting s ([], []) q).world.2 = [] ∧
        (ask settings (scriptedLink 9 61001).noting s ([], []) q).world.2 ≠ [] := by
  intro server settings q first second s
  let response := addressReply.received 1000
  let l := Lookup.ofQuestion settings 7 q
  let asked : Inquiry :=
    .of settings (scriptedLink 7 1000) (.ofCapacity 1) [.ok addressReply.toWire] q
  let again : Inquiry := .of settings (scriptedLink 8 31000) first.shared [] q
  have hfirst : first = l.run (scriptedLink 7 1000) (l.begin 1000 (.ofCapacity 1)).1
      [.ok addressReply.toWire] (.seeking [server] none) :=
    l.run_asked_of_none rfl
  have hunmarked : ¬ (l.begin 1000 (.ofCapacity 1)).1.isMarked server := by
    rw [Shared.isMarked_iff, l.begin_nonRecursive]
    exact List.not_mem_nil
  have hanswer : Lookup.read (.ok addressReply.toWire) 1000 = .ok response := read_addressReply 1000
  have hresult : asked.result = .ok response := by
    show first.result = _
    rw [hfirst]
    apply l.run_of_accepted _ _ _ _ hunmarked
    · show cutShort (Lookup.read (.ok addressReply.toWire) 1000) = false
      rw [hanswer]
      decide
    · show accepted? 7 (Lookup.read (.ok addressReply.toWire) 1000) = some response
      rw [hanswer]
      exact accepted?_eq_some_iff.2 ⟨rfl, by decide, by decide⟩
  have hrun : Asked settings.udpPayloadSize (.ofCapacity 1) ([] ++ asked :: [again])
      second.shared.cache :=
    .cons settings (scriptedLink 7 1000) (.ofCapacity 1) [.ok addressReply.toWire] q rfl
      (.cons settings (scriptedLink 8 31000) first.shared [] q rfl (.nil _))
  have hregular : q.Regular := ⟨by decide, by decide⟩
  have hfresh : response.freshUntil = 61000 := by decide
  have hreuses : ∀ now, Reuses response settings (scriptedLink 9 now) s [] q := by
    intro now
    refine reuses_of_asked hrun ?_ hresult (by decide) (by decide) [] (by decide) ?_ ?_ settings rfl
      _ s rfl [] q (by decide)
    · exact List.forall_mem_cons.2 ⟨hregular, List.forall_mem_singleton.2 hregular⟩
    · exact List.forall_mem_singleton.2 fun _ => .inl (by decide)
    · rw [hfresh]
      exact List.forall_mem_singleton.2 fun _ => by decide
  have hin_time : (61000 : Int64).toInt ≤ response.freshUntil := by rw [hfresh]; decide
  have hlate : response.freshUntil < (61001 : Int64).toInt := by rw [hfresh]; decide
  obtain ⟨hsame, hcalls, _⟩ := (hreuses 61000).in_time hin_time
  obtain ⟨_, hcalled⟩ := (hreuses 61001).late hlate
  exact ⟨hsame, hcalls, hcalled ⟨server, List.mem_singleton_self _, List.not_mem_nil⟩⟩

end StubResolver.Resolver
