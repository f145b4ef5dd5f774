import StubResolver.Proofs.Message.RoundTrip
import StubResolver.Proofs.Resolver.Steps
import StubResolver.Resolver.Run

/-!
# The turns of a lookup

Which exchanges a lookup makes that the cache does not answer, and what comes of them. It takes
one turn for each server it comes to.

1. A link can be made to note its exchanges, and that changes nothing else (`run_noting`).
2. One turn is a call or two, and its last answer settles it: that is accepted, it is a failure, or
   the server lacks recursion (`run_turn`).
3. Turn after turn this is a `Walk` along the servers (`run_walk`), by induction on them.
4. A walk goes on from each of its turns (`Walk.at_turn`). That shows what is to be said of the
   turns as a whole (`Disciplined`).
-/

namespace StubResolver.Resolver

variable {σ : Type}

/-! ## Calls -/

/-- An exchange as it went. -/
structure Call where
  transport : Transport
  server : Endpoint
  payload : Octets
  reply : Except ResolverError Octets
  /-- The clock when the reply was read. -/
  time : Int64

/-- What the reply amounts to: the failure of the exchange, the message that its octets are read as,
or the reason why they cannot be read. -/
def Call.answer (c : Call) : Except ResolverError Message :=
  match c.reply with
  | .ok w => (Message.ofWire w c.time).mapError ResolverError.protocol
  | .error e => .error e

/-- A lookup reads what there is to be read. -/
theorem Lookup.read_eq_answer (c : Call) : read c.reply c.time = c.answer := by
  unfold read Call.answer
  cases c.reply with
  | error e => rfl
  | ok w =>
    simp only [bind, Except.bind]
    cases Message.ofWire w c.time <;> rfl

/-- A message that can be written down is read from its wire form. -/
theorem Lookup.read_toWire {m : Message} (hm : m.Writable) (now : Int64) :
    read (.ok m.toWire) now = .ok (m.received now) := by
  unfold read
  simp only [bind, Except.bind, hm.ofWire_toWire]

/-- The link, with the exchanges noted beside the world, the last one last. -/
def Link.noting (link : Link σ) : Link (σ × List Call) where
  id w := ((link.id w.1).1, (link.id w.1).2, w.2)
  now w := ((link.now w.1).1, (link.now w.1).2, w.2)
  exchange transport server payload w :=
    let (reply, world) := link.exchange transport server payload w.1
    (reply, world, w.2 ++ [⟨transport, server, payload, reply, (link.now world).1⟩])

namespace Lookup

/-- Noting the exchanges of a run changes nothing else. -/
theorem run_noting (l : Lookup) (link : Link σ) (s : Shared) (w : σ) (stage : Stage)
    (calls : List Call) :
    (l.run link.noting s (w, calls) stage).shared = (l.run link s w stage).shared ∧
      (l.run link.noting s (w, calls) stage).world.1 = (l.run link s w stage).world ∧
      (l.run link.noting s (w, calls) stage).result = (l.run link s w stage).result := by
  induction s, w, stage using Lookup.run.induct l link generalizing calls with
  | case1 s w result => simp [run]
  | case2 s w now w' hn this next ih =>
    rw [run, run]
    simp only [Link.noting, hn]
    exact ih calls
  | case3 s w servers last this next ih =>
    rw [run, run]
    exact ih calls
  | case4 s w transport server rest last reply w' hr now w'' hn this next ih =>
    rw [run, run]
    simp only [Link.noting, hr, hn]
    exact ih _
  | case5 s w server rest last this next ih =>
    rw [run, run]
    exact ih calls
  | case6 s w response this next ih =>
    rw [run, run]
    exact ih calls

end Lookup

/-! ## One turn -/

/-- What a lookup did when it came to a server. -/
inductive Turn where
  | skipped (server : Endpoint)
  /-- A call over UDP, and perhaps one over TCP. -/
  | tried (udp : Call) (tcp : Option Call)

namespace Turn

def server : Turn → Endpoint
  | skipped server => server
  | tried udp _ => udp.server

def calls : Turn → List Call
  | skipped _ => []
  | tried udp tcp => udp :: tcp.toList

/-- The answer that settles the turn, which is the one over TCP if there is one. -/
def answer? : Turn → Option (Except ResolverError Message)
  | skipped _ => none
  | tried udp tcp => some (tcp.getD udp).answer

def accepted? (id : UInt16) (t : Turn) : Option Message :=
  t.answer?.bind (Resolver.accepted? id)

def failure? (id : UInt16) (t : Turn) : Option ResolverError :=
  t.answer?.bind (Resolver.failure? id)

@[simp] theorem failure?_skipped (id : UInt16) (server : Endpoint) :
    (skipped server).failure? id = none := rfl

@[simp] theorem failure?_tried (id : UInt16) (udp : Call) (tcp : Option Call) :
    (tried udp tcp).failure? id = Resolver.failure? id (tcp.getD udp).answer := rfl

/-- The server turned out to lack recursion. -/
def Marks (id : UInt16) (t : Turn) : Prop :=
  ∃ answer ∈ t.answer?, Unwilling id answer

@[simp] theorem not_marks_skipped (id : UInt16) (server : Endpoint) :
    ¬ (skipped server).Marks id := by
  rintro ⟨_, h, _⟩
  cases h

@[simp] theorem marks_tried_iff (id : UInt16) (udp : Call) (tcp : Option Call) :
    (tried udp tcp).Marks id ↔ Unwilling id (tcp.getD udp).answer := by
  simp [Marks, answer?]

/-- The query goes out over UDP first, and then over TCP to the same server just if that is
wanted and the answer over UDP leaves it to be tried. -/
def Proper (l : Lookup) : Turn → Prop
  | skipped _ => True
  | tried udp tcp =>
    (udp.transport = .udp ∧ udp.payload = l.query.toWire) ∧
      (tcp.isSome ↔ l.settings.useTcpFallback = true ∧ cutShort udp.answer = true) ∧
      ∀ c ∈ tcp, c.transport = .tcp ∧ c.server = udp.server ∧ c.payload = l.query.toWire

end Turn

namespace Lookup

section Run

variable (l : Lookup) (link : Link σ) (s : Shared) (w : σ) (calls : List Call)
  (server : Endpoint) (rest : List Endpoint) (last : Option ResolverError)

section Steps

variable {l link s w server rest last}

/-- What is found in the cache is the result. -/
theorem run_asked_of_some {response : Message}
    (h : (s.cache.get l.query (link.now w).1).2.response? = some response) :
    l.run link s w .asked = ⟨(l.begin (link.now w).1 s).1, (link.now w).2, .ok response⟩ := by
  have hstage : (l.begin (link.now w).1 s).2 = .finished (.ok response) := by rw [begin_stage, h]
  rw [run]
  show l.run link (l.begin (link.now w).1 s).1 _ (l.begin (link.now w).1 s).2 = _
  rw [hstage, run]

/-- If nothing is found there, the servers are tried. -/
theorem run_asked_of_none (h : (s.cache.get l.query (link.now w).1).2.response? = none) :
    l.run link s w .asked =
      l.run link (l.begin (link.now w).1 s).1 (link.now w).2
        (.seeking l.settings.servers none) := by
  have hstage : (l.begin (link.now w).1 s).2 = .seeking l.settings.servers none := by
    rw [begin_stage, h]
  rw [run]
  show l.run link (l.begin (link.now w).1 s).1 _ (l.begin (link.now w).1 s).2 = _
  rw [hstage]

theorem run_skip (marked : s.isMarked server) :
    l.run link s w (.seeking (server :: rest) last) =
      l.run link (s.report (.skipped server)) w (.seeking rest last) := by
  rw [run, seek_of_marked rest last marked]

theorem run_try (unmarked : ¬ s.isMarked server) :
    l.run link s w (.seeking (server :: rest) last) =
      l.run link (s.count .countUdpAttempt) w (.awaiting .udp server rest last) := by
  rw [run, seek_of_unmarked rest last unmarked]

theorem run_mark :
    l.run link s w (.marking server rest last) =
      l.run link (mark s server rest last).1 w (.seeking rest last) := by
  rw [← mark_stage s server rest last, run]

end Steps

/-- A response that is to be stored is the result. -/
theorem run_storing (response : Message) :
    l.run link s w (.storing response) = ⟨(l.store s response).1, w, .ok response⟩ := by
  rw [run, store_stage, run]

/-- What is left of a run when an answer has come in that settles the turn. -/
inductive Settled (w : σ) (answer : Except ResolverError Message) (o : Outcome σ Message) : Prop
  | accepted (response : Message) (s' : Shared)
      (is_accepted : accepted? l.query.header.id answer = some response)
      (left : o = l.run link s' w (.storing response))
  | failed (e : ResolverError) (s' : Shared)
      (is_failure : failure? l.query.header.id answer = some e)
      (same : s'.nonRecursive = s.nonRecursive)
      (left : o = l.run link s' w (.seeking rest (some e)))
  | marked (s' : Shared) (unwilling : Unwilling l.query.header.id answer)
      (more : s'.nonRecursive = server :: s.nonRecursive)
      (left : o = l.run link s' w (.seeking rest last))

variable {s server} in
theorem run_receiveTcp (unmarked : ¬ s.isMarked server) (answer : Except ResolverError Message) :
    l.Settled link s server rest last w answer
      (l.run link (l.receiveTcp s server rest last answer).1 w
        (l.receiveTcp s server rest last answer).2) := by
  have hsame := l.receiveTcp_same s server rest last answer
  rcases l.receiveTcp_cases s server rest last answer with ⟨r, hr, h⟩ | ⟨e, he, h⟩ | ⟨hu, h⟩
  · exact .accepted r _ hr (by rw [h])
  · exact .failed e _ he hsame.nonRecursive (by rw [h])
  · rw [h, run_mark]
    refine .marked _ hu ?_ rfl
    rw [mark_of_unmarked rest last (by rwa [hsame.isMarked]), hsame.nonRecursive]

/-- A call is made and noted, and its answer received. -/
theorem run_awaiting (transport : Transport) :
    ∃ c w', c.transport = transport ∧ c.server = server ∧ c.payload = l.query.toWire ∧
      l.run link.noting s (w, calls) (.awaiting transport server rest last) =
        l.run link.noting (l.receive s transport server rest last c.answer).1 (w', calls ++ [c])
          (l.receive s transport server rest last c.answer).2 := by
  let reply := link.exchange transport server l.query.toWire w
  let now := link.now reply.2
  let c : Call := ⟨transport, server, l.query.toWire, reply.1, now.1⟩
  refine ⟨c, now.2, rfl, rfl, rfl, ?_⟩
  rw [run, ← read_eq_answer c]
  rfl

variable {s server} in
/-- **One turn.** A server that is not passed over is called over UDP and then perhaps over TCP,
and the answer that came in last settles the turn. -/
theorem run_turn (unmarked : ¬ s.isMarked server) :
    ∃ udp tcp s' w', udp.server = server ∧ (Turn.tried udp tcp).Proper l ∧
      s'.nonRecursive = s.nonRecursive ∧
      l.Settled link.noting s' server rest last (w', calls ++ (Turn.tried udp tcp).calls)
        (tcp.getD udp).answer
        (l.run link.noting s (w, calls) (.seeking (server :: rest) last)) := by
  let s₁ := s.count .countUdpAttempt
  obtain ⟨udp, w₁, hudp, rfl, hpayload, hrun⟩ :=
    l.run_awaiting link s₁ w calls server rest last .udp
  rw [run_try unmarked, hrun, receive]
  have hsame := l.receiveUdp_same s₁ udp.server rest last udp.answer
  rcases l.receiveUdp_cases s₁ udp.server rest last udp.answer with ⟨hfallback, hcut, h⟩ | ⟨hno, h⟩
  · -- over TCP as well
    obtain ⟨tcp, w₂, htcp, hserver, hpayload', hrun'⟩ :=
      l.run_awaiting link (l.receiveUdp s₁ udp.server rest last udp.answer).1 w₁ (calls ++ [udp])
        udp.server rest last .tcp
    rw [h, hrun', List.append_assoc]
    refine ⟨udp, some tcp, _, w₂, rfl, ⟨⟨hudp, hpayload⟩, by simp [hfallback, hcut], ?_⟩,
      hsame.nonRecursive, ?_⟩
    · rintro c ⟨⟩
      exact ⟨htcp, hserver, hpayload'⟩
    · apply run_receiveTcp
      rwa [hsame.isMarked]
  · rw [h]
    refine ⟨udp, none, s₁, w₁, rfl, ⟨⟨hudp, hpayload⟩, by simpa using hno, by simp⟩, rfl, ?_⟩
    apply run_receiveTcp
    exact unmarked

end Run

end Lookup

/-! ## Turn after turn -/

/-- The turns along some servers and the result they lead to, given the servers known to lack
recursion and the last failure. -/
inductive Walk (l : Lookup) : List Endpoint → List Endpoint → Option ResolverError → List Turn →
    Except ResolverError Message → Prop
  | done (marked : List Endpoint) (last : Option ResolverError) :
    Walk l marked [] last [] (.error (last.getD .noQueryableServer))
  | skip {marked rest : List Endpoint} {last : Option ResolverError} {turns : List Turn}
      {result : Except ResolverError Message} {server : Endpoint} (known : server ∈ marked)
      (tail : Walk l marked rest last turns result) :
    Walk l marked (server :: rest) last (.skipped server :: turns) result
  | accept {marked rest : List Endpoint} {last : Option ResolverError} {udp : Call}
      {tcp : Option Call} {response : Message} (unknown : udp.server ∉ marked)
      (proper : (Turn.tried udp tcp).Proper l)
      (is_accepted : accepted? l.query.header.id (tcp.getD udp).answer = some response) :
    Walk l marked (udp.server :: rest) last [.tried udp tcp] (.ok response)
  | go_on {marked marked' rest : List Endpoint} {last last' : Option ResolverError}
      {turns : List Turn} {result : Except ResolverError Message} {udp : Call} {tcp : Option Call}
      (unknown : udp.server ∉ marked) (proper : (Turn.tried udp tcp).Proper l)
      (not_accepted : accepted? l.query.header.id (tcp.getD udp).answer = none)
      (mem_iff : ∀ x, x ∈ marked' ↔
        x ∈ marked ∨ udp.server = x ∧ Unwilling l.query.header.id (tcp.getD udp).answer)
      (last_eq : last' = (failure? l.query.header.id (tcp.getD udp).answer).or last)
      (tail : Walk l marked' rest last' turns result) :
    Walk l marked (udp.server :: rest) last (.tried udp tcp :: turns) result

/-- **Running is walking.** The calls noted while the servers are tried are those of a walk along
them. -/
theorem Lookup.run_walk (l : Lookup) (link : Link σ) (servers : List Endpoint) :
    ∀ (s : Shared) (w : σ) (calls : List Call) (last : Option ResolverError), ∃ turns,
      (l.run link.noting s (w, calls) (.seeking servers last)).world.2 =
          calls ++ turns.flatMap Turn.calls ∧
        Walk l s.nonRecursive servers last turns
          (l.run link.noting s (w, calls) (.seeking servers last)).result := by
  induction servers with
  | nil =>
    intro s w calls last
    have hend : l.run link.noting s (w, calls) (.seeking [] last) =
        ⟨s, (w, calls), .error (last.getD .noQueryableServer)⟩ := by
      rw [run, seek_nil, run]
    rw [hend]
    exact ⟨[], (List.append_nil calls).symm, .done _ _⟩
  | cons server rest ih =>
    intro s w calls last
    by_cases hm : s.isMarked server
    · -- passed over
      obtain ⟨turns, hcalls, hwalk⟩ := ih (s.report (.skipped server)) w calls last
      rw [Lookup.run_skip hm]
      exact ⟨.skipped server :: turns, hcalls, .skip (Shared.isMarked_iff.mp hm) hwalk⟩
    · have unknown := mt Shared.isMarked_iff.mpr hm
      obtain ⟨udp, tcp, s', w', rfl, hproper, hs', hsettled⟩ :=
        l.run_turn link w calls rest last hm
      rw [← hs'] at unknown
      rw [← hs']
      cases hsettled with
      | accepted response s'' hr hleft =>
        refine ⟨[.tried udp tcp], ?_⟩
        rw [hleft, run_storing, List.flatMap_singleton]
        exact ⟨rfl, .accept unknown hproper hr⟩
      | failed e s'' he hsame hleft =>
        obtain ⟨turns, hcalls, hwalk⟩ :=
          ih s'' w' (calls ++ (Turn.tried udp tcp).calls) (some e)
        rw [hleft]
        refine ⟨.tried udp tcp :: turns, by rw [hcalls, List.append_assoc]; rfl, ?_⟩
        refine .go_on unknown hproper (accepted?_eq_none_of_failure? he) ?_ (by rw [he]; rfl) hwalk
        intro x
        rw [hsame, or_iff_left fun h => not_unwilling_of_failure? he h.2]
      | marked s'' hu hmore hleft =>
        obtain ⟨turns, hcalls, hwalk⟩ := ih s'' w' (calls ++ (Turn.tried udp tcp).calls) last
        rw [hleft]
        refine ⟨.tried udp tcp :: turns, by rw [hcalls, List.append_assoc]; rfl, ?_⟩
        refine .go_on unknown hproper hu.accepted? ?_ (by rw [hu.failure?]; rfl) hwalk
        intro x
        rw [hmore, List.mem_cons, or_comm, and_iff_left hu, eq_comm]

/-! ## What holds of the turns -/

/-- The failure of the last turn that was one. -/
def lastFailure? (id : UInt16) (turns : List Turn) : Option ResolverError :=
  (turns.filterMap (Turn.failure? id)).getLast?

theorem lastFailure?_cons (id : UInt16) (turn : Turn) (turns : List Turn) :
    lastFailure? id (turn :: turns) = (lastFailure? id turns).or (turn.failure? id) := by
  unfold lastFailure?
  cases h : turn.failure? id with
  | none => rw [List.filterMap_cons_none h, Option.or_none]
  | some e =>
    rw [List.filterMap_cons_some h, List.getLast?_cons]
    cases (turns.filterMap (Turn.failure? id)).getLast? <;> rfl

namespace Walk

variable {l : Lookup} {marked servers : List Endpoint} {last : Option ResolverError}
  {turns : List Turn} {result : Except ResolverError Message}

theorem servers_prefix (h : Walk l marked servers last turns result) :
    turns.map Turn.server <+: servers := by
  induction h with
  | done => exact List.prefix_refl _
  | skip _ _ ih => exact List.cons_prefix_cons.mpr ⟨rfl, ih⟩
  | accept => exact List.cons_prefix_cons.mpr ⟨rfl, List.nil_prefix⟩
  | go_on _ _ _ _ _ _ ih => exact List.cons_prefix_cons.mpr ⟨rfl, ih⟩

/-- A walk goes on from each of its turns, with the servers marked by the turns before. -/
theorem at_turn {before after : List Turn} {turn : Turn}
    (h : Walk l marked servers last (before ++ turn :: after) result) :
    ∃ marked' servers' last',
      (∀ x, x ∈ marked' ↔
        x ∈ marked ∨ ∃ t ∈ before, t.server = x ∧ t.Marks l.query.header.id) ∧
      Walk l marked' servers' last' (turn :: after) result := by
  induction before generalizing marked servers last with
  | nil => exact ⟨marked, servers, last, by simp, h⟩
  | cons first before ih =>
    rw [List.cons_append] at h
    generalize hturns : before ++ turn :: after = turns at h
    cases h with
    | skip known tail =>
      obtain ⟨marked', servers', last', hmem, hwalk⟩ := ih (hturns ▸ tail)
      refine ⟨marked', servers', last', ?_, hwalk⟩
      intro x
      rw [hmem]
      simp
    | accept => simp at hturns
    | go_on _ _ _ hiff _ tail =>
      obtain ⟨marked', servers', last', hmem, hwalk⟩ := ih (hturns ▸ tail)
      refine ⟨marked', servers', last', ?_, hwalk⟩
      intro x
      rw [hmem, hiff, or_assoc]
      simp [Turn.server]

theorem proper (h : Walk l marked servers last turns result) :
    ∀ turn ∈ turns, turn.Proper l := by
  intro turn hmem
  obtain ⟨before, after, rfl⟩ := List.append_of_mem hmem
  obtain ⟨_, _, _, -, hwalk⟩ := h.at_turn
  cases hwalk with
  | skip => trivial
  | accept _ hproper => exact hproper
  | go_on _ hproper => exact hproper

/-- No call is made just to the servers known to lack recursion when their turn comes. -/
theorem uncalled_iff {before after : List Turn} {turn : Turn}
    (h : Walk l marked servers last (before ++ turn :: after) result) :
    turn.calls = [] ↔
      turn.server ∈ marked ∨
        ∃ t ∈ before, t.server = turn.server ∧ t.Marks l.query.header.id := by
  obtain ⟨marked', _, _, hmem, hwalk⟩ := h.at_turn
  rw [← hmem]
  cases hwalk with
  | skip known => exact iff_of_true rfl known
  | accept unknown => exact iff_of_false (List.cons_ne_nil _ _) unknown
  | go_on unknown => exact iff_of_false (List.cons_ne_nil _ _) unknown

/-- What is accepted is the result, and no server has its turn after it. -/
theorem accepts_last {before after : List Turn} {turn : Turn} {response : Message}
    (h : Walk l marked servers last (before ++ turn :: after) result)
    (hr : turn.accepted? l.query.header.id = some response) :
    after = [] ∧ result = .ok response := by
  obtain ⟨_, _, _, -, hwalk⟩ := h.at_turn
  cases hwalk with
  | skip => cases hr
  | accept _ _ hr' =>
    rw [Option.some.inj (hr'.symm.trans hr)]
    exact ⟨rfl, rfl⟩
  | go_on _ _ hn => cases hn.symm.trans hr

/-- If nothing is accepted, all servers have their turns, and the last failure is the result. -/
theorem none_accepted (h : Walk l marked servers last turns result)
    (hn : ∀ turn ∈ turns, turn.accepted? l.query.header.id = none) :
    turns.map Turn.server = servers ∧
      result = .error (((lastFailure? l.query.header.id turns).or last).getD
        .noQueryableServer) := by
  induction h with
  | done => exact ⟨rfl, rfl⟩
  | skip _ _ ih =>
    obtain ⟨hservers, hresult⟩ := ih (List.forall_mem_cons.mp hn).2
    refine ⟨congrArg (_ :: ·) hservers, ?_⟩
    rw [hresult, lastFailure?_cons, Turn.failure?_skipped, Option.or_none]
  | accept _ _ hr => cases hr.symm.trans (List.forall_mem_cons.mp hn).1
  | go_on _ _ _ _ hlast _ ih =>
    obtain ⟨hservers, hresult⟩ := ih (List.forall_mem_cons.mp hn).2
    refine ⟨congrArg (_ :: ·) hservers, ?_⟩
    rw [hresult, hlast, lastFailure?_cons, Turn.failure?_tried, Option.or_assoc]

end Walk

/-- What is said of the turns of a lookup, given the servers known to lack recursion at its start,
and of its result. -/
structure Disciplined (l : Lookup) (marked : List Endpoint) (turns : List Turn)
    (result : Except ResolverError Message) : Prop where
  /-- The servers have their turns in the order of the settings, repetitions included. -/
  in_order : turns.map Turn.server <+: l.settings.servers
  /-- No call is made just to those known to lack recursion when their turn comes, be it from the
  start or since an earlier turn. -/
  uncalled_iff : ∀ before turn after, turns = before ++ turn :: after →
    (turn.calls = [] ↔
      turn.server ∈ marked ∨ ∃ t ∈ before, t.server = turn.server ∧ t.Marks l.query.header.id)
  /-- The calls of a turn are as they should be. -/
  proper : ∀ turn ∈ turns, turn.Proper l
  /-- The first response that is accepted is the result, and no call comes after it. -/
  accepts_last : ∀ before turn after response, turns = before ++ turn :: after →
    turn.accepted? l.query.header.id = some response → after = [] ∧ result = .ok response
  /-- It is not cut short if it came over UDP and TCP could have been tried. -/
  not_truncated : l.settings.useTcpFallback = true → ∀ udp response, .tried udp none ∈ turns →
    accepted? l.query.header.id udp.answer = some response → ¬ response.header.isTruncated
  /-- If there is none, all servers have their turns, and the last failure is the result. -/
  none_accepted : (∀ turn ∈ turns, turn.accepted? l.query.header.id = none) →
    turns.map Turn.server = l.settings.servers ∧
      result = .error ((lastFailure? l.query.header.id turns).getD .noQueryableServer)

theorem Walk.disciplined {l : Lookup} {marked : List Endpoint} {turns : List Turn}
    {result : Except ResolverError Message}
    (h : Walk l marked l.settings.servers none turns result) :
    Disciplined l marked turns result where
  in_order := h.servers_prefix
  uncalled_iff _ _ _ split := (split ▸ h).uncalled_iff
  proper := h.proper
  accepts_last _ _ _ _ split := (split ▸ h).accepts_last
  not_truncated hfallback udp response hmem hr htc := by
    obtain ⟨-, htcp, -⟩ := h.proper _ hmem
    refine absurd (htcp.mpr ⟨hfallback, ?_⟩) (by simp)
    cases ha : udp.answer with
    | error e => rfl
    | ok r =>
      obtain ⟨hok, -, -⟩ := accepted?_eq_some_iff.mp hr
      cases ha.symm.trans hok
      exact htc
  none_accepted hn := by
    obtain ⟨hservers, hresult⟩ := h.none_accepted hn
    rw [Option.or_none] at hresult
    exact ⟨hservers, hresult⟩

/-- **Which calls a question leads to.** If the cache does not answer it, the calls are those of
disciplined turns, which also give the result; noting them changes nothing else. -/
theorem ask_disciplined (settings : Settings) (link : Link σ) (s : Shared) (w : σ)
    (question : Question)
    (miss : (s.cache.get (.query (link.id w).1 question settings.udpPayloadSize)
      (link.now (link.id w).2).1).2.response? = none) :
    let plain := ask settings link s w question
    let noted := ask settings link.noting s (w, []) question
    (noted.shared = plain.shared ∧ noted.world.1 = plain.world ∧ noted.result = plain.result) ∧
      ∃ turns, noted.world.2 = turns.flatMap Turn.calls ∧
        Disciplined (.ofQuestion settings (link.id w).1 question) s.nonRecursive turns
          plain.result := by
  intro plain noted
  let l := Lookup.ofQuestion settings (link.id w).1 question
  have hnoted : (noted.shared = plain.shared ∧ noted.world.1 = plain.world ∧
      noted.result = plain.result) :=
    l.run_noting link s (link.id w).2 .asked []
  let now := (link.now (link.id w).2).1
  have hrun : noted = l.run link.noting (l.begin now s).1
      ((link.now (link.id w).2).2, []) (.seeking settings.servers none) :=
    Lookup.run_asked_of_none miss
  obtain ⟨turns, hcalls, hwalk⟩ := l.run_walk link settings.servers _ _ _ _
  rw [← hrun, l.begin_nonRecursive] at hwalk
  rw [← hrun] at hcalls
  exact ⟨hnoted, turns, hcalls, hnoted.2.2 ▸ hwalk.disciplined⟩

/-- A link whose replies are written down in advance; when they have run out, the time has too. -/
def scriptedLink (id : UInt16) (now : Int64) : Link (List (Except ResolverError Octets)) where
  id w := (id, w)
  now w := (now, w)
  exchange _ _ _ w := (w.headD (.error .timeout), w.tail)

/-- A reply that was written down is noted, and the run goes on as it is received. -/
theorem Lookup.run_scripted {l : Lookup} {s : Shared} {id : UInt16} {now : Int64}
    {reply : Except ResolverError Octets} {script : List (Except ResolverError Octets)}
    {calls : List Call} {transport : Transport} {server : Endpoint} {rest : List Endpoint}
    {last : Option ResolverError} {answer : Except ResolverError Message}
    (hread : read reply now = answer) :
    l.run (scriptedLink id now).noting s (reply :: script, calls)
        (.awaiting transport server rest last) =
      l.run (scriptedLink id now).noting (l.receive s transport server rest last answer).1
        (script, calls ++ [⟨transport, server, l.query.toWire, reply, now⟩])
        (l.receive s transport server rest last answer).2 := by
  rw [run, ← hread]
  rfl

/-- A response to query 7 with some flags, and nothing else in it. -/
def bareReply (flags : Flags) : Message :=
  .counted ⟨{ Header.ofId 7 with flags }, [], [], [], [], none, 0⟩

theorem read_bareReply {flags : Flags} (hflags : (bareReply flags).header.FlagsDefined)
    (now : Int64) :
    Lookup.read (.ok (bareReply flags).toWire) now = .ok ((bareReply flags).received now) := by
  have hw : (bareReply flags).Writable :=
    Message.writable_counted hflags (Nat.zero_le _) (Nat.zero_le _) (Nat.zero_le _) (Nat.zero_le _)
      (fun _ h => nomatch h) (fun _ h => nomatch h)
  exact Lookup.read_toWire hw now

/-- Of five servers the first is known to lack recursion. The second cuts its response over UDP
short, and that over TCP shows that it lacks recursion, so it is passed over when it comes up again.
The next sends two octets over UDP and a response over TCP, and the last is not reached. -/
theorem ask_scripted :
    let a : Endpoint := .v4 ⟨[192, 0, 2, 1], rfl⟩ 53
    let b : Endpoint := .v4 ⟨[192, 0, 2, 2], rfl⟩ 53
    let c : Endpoint := .v4 ⟨[192, 0, 2, 3], rfl⟩ 53
    let d : Endpoint := .v4 ⟨[192, 0, 2, 4], rfl⟩ 53
    let settings := Settings.ofServers [a, b, b, c, d]
    let question := Question.ofName .root (.known .a)
    let link := scriptedLink 7 1000
    let s := { Shared.ofCapacity 4 with nonRecursive := [a] }
    let cut := bareReply ⟨0x8280⟩
    let refusal := bareReply ⟨0x8000⟩
    let final := bareReply ⟨0x8080⟩
    let script := [.ok cut.toWire, .ok refusal.toWire, .ok [0, 7], .ok final.toWire]
    (s.cache.get (.query 7 question settings.udpPayloadSize) 1000).2.response? = none ∧
      (ask settings link s script question).result = .ok (final.received 1000) ∧
      ((ask settings link.noting s (script, []) question).world.2.map fun call =>
        (call.transport, call.server)) = [(.udp, b), (.tcp, b), (.udp, c), (.tcp, c)] ∧
      ∃ turns, (ask settings link.noting s (script, []) question).world.2 =
          turns.flatMap Turn.calls ∧
        Disciplined (.ofQuestion settings 7 question) s.nonRecursive turns
          (ask settings link s script question).result := by
  intro a b c d settings question link s cut refusal final script
  have miss : (s.cache.get (.query 7 question settings.udpPayloadSize) 1000).2.response? = none :=
    rfl
  obtain ⟨⟨-, -, hsame⟩, hturns⟩ := ask_disciplined settings link s script question miss
  let l := Lookup.ofQuestion settings 7 question
  have hrun : ask settings link.noting s (script, []) question =
      l.run link.noting (l.begin 1000 s).1 (script, []) (.seeking [a, b, b, c, d] none) :=
    Lookup.run_asked_of_none miss
  have hcut : Lookup.read (.ok cut.toWire) 1000 = _ := read_bareReply (by decide) 1000
  have hrefused : Lookup.read (.ok refusal.toWire) 1000 = _ := read_bareReply (by decide) 1000
  have hshort : Lookup.read (.ok [0, 7]) 1000 = .error (.protocol (.bufferTooShort 12 2)) := rfl
  have haccepted : Lookup.read (.ok final.toWire) 1000 = _ := read_bareReply (by decide) 1000
  -- the stage that each answer leads to is found by evaluation
  rw [Lookup.run_skip (by rfl), Lookup.run_try (by decide), Lookup.run_scripted hcut] at hrun
  change _ = l.run link.noting _ _ (.awaiting .tcp b [b, c, d] none) at hrun
  rw [Lookup.run_scripted hrefused] at hrun
  change _ = l.run link.noting _ _ (.marking b [b, c, d] none) at hrun
  rw [Lookup.run_mark, Lookup.run_skip (by rfl), Lookup.run_try (by decide),
    Lookup.run_scripted hshort] at hrun
  change _ = l.run link.noting _ _ (.awaiting .tcp c [d] none) at hrun
  rw [Lookup.run_scripted haccepted] at hrun
  change _ = l.run link.noting _ _ (.storing _) at hrun
  rw [Lookup.run_storing] at hrun
  refine ⟨miss, ?_, ?_, hturns⟩
  · rw [← hsame, hrun]
  · rw [hrun]
    rfl

end StubResolver.Resolver
