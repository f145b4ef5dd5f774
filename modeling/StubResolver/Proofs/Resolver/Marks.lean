import StubResolver.Proofs.Resolver.Fleet
import StubResolver.Proofs.Resolver.Willing

/-!
# How servers become known to lack recursion

Between the look at the servers known to lack recursion and the marking of one stands an exchange,
so several lookups may be about to mark the same server. Still each server is reported and counted
once.

1. A step changes what there is to know of such servers just if it marks one (`step_ledger`).
2. A lookup is about to mark a server just after that server's final reply (`refused_of_marking`).
3. A lookup that passes over a server neither was at this place of the list nor will be
   (`not_calls_of_passed`).
4. From the first, by induction on the acts, what was marked is what was reported and counted
   (`exists_moved`).
-/

namespace StubResolver.Resolver

/-! ## The ledger -/

/-- The servers reported as lacking recursion, the last one first. -/
def warned (log : List Event) : List Endpoint :=
  log.filterMap fun
    | .nonRecursive server => some server
    | _ => none

/-- The servers known to lack recursion, those reported, and how many were counted. -/
structure Ledger where
  known : List Endpoint
  warned : List Endpoint
  counted : UInt64

/-- A server has become known, been reported and been counted. -/
def Ledger.add (g : Ledger) (server : Endpoint) : Ledger :=
  ⟨server :: g.known, server :: g.warned, g.counted + 1⟩

/-- A server has been found to lack recursion. -/
def Ledger.enter (g : Ledger) (server : Endpoint) : Ledger :=
  if server ∈ g.known then g else g.add server

def Shared.ledger (s : Shared) : Ledger :=
  ⟨s.nonRecursive, Resolver.warned s.log, s.metrics.nonRecursiveServers⟩

namespace Lookup

variable (l : Lookup) (s : Shared) (server : Endpoint) (rest : List Endpoint)
  (last : Option ResolverError)

theorem begin_ledger (now : Int64) : (l.begin now s).1.ledger = s.ledger := by
  unfold begin
  dsimp only
  rcases (s.count .countQuery).cache.get l.query now with ⟨cache, found⟩
  cases found <;> rfl

theorem seek_ledger (servers : List Endpoint) : (seek s servers last).1.ledger = s.ledger := by
  unfold seek
  split
  · rfl
  · split <;> rfl

theorem accept_ledger (response : Message) :
    (l.accept s server rest last response).1.ledger = s.ledger := by
  unfold accept
  split
  · rfl
  · split
    · dsimp only
      split <;> rfl
    · rfl

theorem receiveTcp_ledger (answer : Except ResolverError Message) :
    (l.receiveTcp s server rest last answer).1.ledger = s.ledger := by
  cases answer with
  | ok response => exact l.accept_ledger s server rest last response
  | error e => rfl

theorem receiveUdp_ledger (answer : Except ResolverError Message) :
    (l.receiveUdp s server rest last answer).1.ledger = s.ledger := by
  unfold receiveUdp
  split
  · split
    · rfl
    · exact l.accept_ledger s server rest last _
  · split <;> rfl

theorem receive_ledger (transport : Transport) (answer : Except ResolverError Message) :
    (l.receive s transport server rest last answer).1.ledger = s.ledger := by
  cases transport with
  | udp => exact l.receiveUdp_ledger s server rest last answer
  | tcp => exact l.receiveTcp_ledger s server rest last answer

theorem mark_ledger : (mark s server rest last).1.ledger = s.ledger.enter server := by
  by_cases h : s.isMarked server
  · have hmem : server ∈ s.ledger.known := Shared.isMarked_iff.1 h
    rw [mark, if_pos h, Ledger.enter, if_pos hmem]
  · have hmem : server ∉ s.ledger.known := fun hmem => h (Shared.isMarked_iff.2 hmem)
    rw [mark, if_neg h, Ledger.enter, if_neg hmem, Shared.mark, if_neg h]
    rfl

theorem store_ledger (response : Message) : (l.store s response).1.ledger = s.ledger := by
  unfold store
  split
  · rcases s.cache.put l.query response with ⟨cache, put⟩
    cases put with
    | ignored => rfl
    | stored entry => cases entry <;> rfl
  · rfl

/-- **Marking.** No other step changes the ledger. -/
theorem step_ledger (now : Int64) (reply : Except ResolverError Octets) (stage : Stage) :
    (l.step now reply s stage).1.ledger =
      match stage with
      | .marking server _ _ => s.ledger.enter server
      | _ => s.ledger := by
  cases stage with
  | asked => exact l.begin_ledger s now
  | seeking servers last => exact seek_ledger s last servers
  | awaiting transport server rest last => exact l.receive_ledger s server rest last transport _
  | marking server rest last => exact mark_ledger s server rest last
  | storing response => exact l.store_ledger s response
  | finished result => rfl

end Lookup

/-! ## Places in the list of servers -/

/-- The servers still to come are the end of the list. -/
def Stage.Placed (servers : List Endpoint) : Stage → Prop
  | .seeking rest _ => rest <:+ servers
  | .awaiting _ server rest _ | .marking server rest _ => server :: rest <:+ servers
  | _ => True

theorem Stage.Placed.step {l : Lookup} {stage : Stage} (h : stage.Placed l.settings.servers)
    (now : Int64) (reply : Except ResolverError Octets) (s : Shared) :
    (l.step now reply s stage).2.Placed l.settings.servers := by
  have hnext := l.step_next s now reply stage
  generalize (l.step now reply s stage).2 = stage' at hnext
  cases hnext with
  | missed => exact List.suffix_refl _
  | skipped => exact (List.suffix_cons _ _).trans h
  | tried => exact h
  | again => exact h
  | failed => exact (List.suffix_cons _ _).trans h
  | refused => exact h
  | marked => exact (List.suffix_cons _ _).trans h
  | ended => exact h
  | _ => trivial

namespace Job

variable {ι : Type} {job : Job ι} {place : Nat}

/-- The server at this place of the list is to be tried or passed over. -/
def Checks (job : Job ι) (place : Nat) (server : Endpoint) : Prop :=
  job.lookup.settings.servers[place]? = some server ∧
    ∃ last, job.stage = .seeking (job.lookup.settings.servers.drop place) last

/-- A call has been made for this place of the list. -/
def Calls (job : Job ι) (place : Nat) : Prop :=
  ∃ server, job.lookup.settings.servers[place]? = some server ∧
    ∃ transport last,
      job.stage = .awaiting transport server (job.lookup.settings.servers.drop (place + 1)) last

theorem exists_place {servers rest : List Endpoint} {server : Endpoint}
    (h : server :: rest <:+ servers) :
    ∃ place, servers[place]? = some server ∧ servers.drop place = server :: rest := by
  obtain ⟨before, rfl⟩ := h
  refine ⟨before.length, ?_, List.drop_left⟩
  rw [List.getElem?_append_right (Nat.le_refl _), Nat.sub_self]
  rfl

theorem exists_checks {server : Endpoint} {rest : List Endpoint} {last : Option ResolverError}
    (hstage : job.stage = .seeking (server :: rest) last)
    (h : server :: rest <:+ job.lookup.settings.servers) : ∃ place, job.Checks place server := by
  obtain ⟨place, hserver, hdrop⟩ := exists_place h
  exact ⟨place, hserver, last, by rw [hstage, hdrop]⟩

theorem exists_calls {transport : Transport} {server : Endpoint} {rest : List Endpoint}
    {last : Option ResolverError} (hstage : job.stage = .awaiting transport server rest last)
    (h : server :: rest <:+ job.lookup.settings.servers) : ∃ place, job.Calls place := by
  obtain ⟨place, hserver, hdrop⟩ := exists_place h
  refine ⟨place, server, hserver, transport, last, ?_⟩
  rw [hstage, ← List.tail_drop, hdrop]
  rfl

theorem Calls.stepsLeft (h : job.Calls place) :
    let behind := job.lookup.settings.servers.length - (place + 1)
    4 * behind + 5 ≤ job.lookup.stepsLeft job.stage ∧
      job.lookup.stepsLeft job.stage ≤ 4 * behind + 6 := by
  obtain ⟨server, _, transport, last, hstage⟩ := h
  rw [hstage]
  cases transport <;> simp [Lookup.stepsLeft]

end Job

namespace Fleet

variable {ι : Type} [DecidableEq ι] {y : Fleet ι} {acts : Nat → Act ι}

/-! ## Act by act -/

def ledger (y : Fleet ι) : Ledger :=
  ⟨y.nonRecursive, warned y.log, y.metrics.nonRecursiveServers⟩

/-- **One act.** A server becomes known from outside, or a lookup marks it. -/
theorem ledger_act (y : Fleet ι) (a : Act ι) :
    (y.act a).ledger = y.ledger ∨
      (∃ server, a = .mark server ∧ server ∉ y.nonRecursive ∧
        (y.act a).ledger = { y.ledger with known := server :: y.nonRecursive }) ∨
      ∃ k now reply job server rest last, a = .advance k now reply ∧ y.jobs[k]? = some job ∧
        job.stage = .marking server rest last ∧ server ∉ y.nonRecursive ∧
        (y.act a).ledger = y.ledger.add server := by
  cases a with
  | start i l =>
    left
    rfl
  | mark server =>
    by_cases h : server ∈ y.nonRecursive
    · left
      rw [act, if_pos h]
    · right; left
      refine ⟨server, rfl, h, ?_⟩
      rw [act, if_neg h]
      rfl
  | advance k now reply =>
    cases hjob : y.jobs[k]? with
    | none =>
      left
      rw [act, advance_of_none hjob]
    | some job =>
      have hstep := job.lookup.step_ledger (y.shared job.resolver) now reply job.stage
      have hledger : (y.act (.advance k now reply)).ledger =
          (job.lookup.step now reply (y.shared job.resolver) job.stage).1.ledger := by
        rw [act, advance_of_some hjob]
        rfl
      rw [hledger, hstep]
      cases hstage : job.stage with
      | marking server rest last =>
        by_cases h : server ∈ y.nonRecursive
        · left
          exact if_pos h
        · right; right
          exact ⟨k, now, reply, job, server, rest, last, rfl, hjob, hstage, h, if_neg h⟩
      | _ =>
        left
        rfl

theorem nonRecursive_act (y : Fleet ι) (a : Act ι) : y.nonRecursive ⊆ (y.act a).nonRecursive := by
  show y.ledger.known ⊆ (y.act a).ledger.known
  rcases y.ledger_act a with h | ⟨server, _, _, h⟩ | ⟨_, _, _, _, server, _, _, _, _, _, _, h⟩
  · rw [h]
    exact List.Subset.refl _
  · rw [h]
    exact List.subset_cons_self _ _
  · rw [h]
    exact List.subset_cons_self _ _

/-- Servers known to lack recursion stay known. -/
theorem nonRecursive_subset {m n : Nat} (hmn : m ≤ n) :
    (y.after acts m).nonRecursive ⊆ (y.after acts n).nonRecursive := by
  induction hmn with
  | refl => exact List.Subset.refl _
  | @step n _ ih => exact List.Subset.trans ih (nonRecursive_act _ _)

/-! ## Who is marked -/

/-- Before act `m`, a lookup has sent its query to the server. With the act the final reply comes
in; it can be read, is to this query, and shows that the server lacks recursion. -/
def Refused (y : Fleet ι) (acts : Nat → Act ι) (k m : Nat) (server : Endpoint) : Prop :=
  ∃ job transport rest last now reply, (y.after acts m).jobs[k]? = some job ∧
    job.stage = .awaiting transport server rest last ∧ acts m = .advance k now reply ∧
    job.lookup.Final transport (Lookup.read reply now) ∧
    Unwilling job.lookup.query.header.id (Lookup.read reply now)

theorem refused_of_marking (hy : y.jobs = []) {n k : Nat} {job : Job ι} {server : Endpoint}
    {rest : List Endpoint} {last : Option ResolverError}
    (h : (y.after acts n).jobs[k]? = some job) (hstage : job.stage = .marking server rest last) :
    ∃ m < n, Refused y acts k m server := by
  induction n generalizing job with
  | zero =>
    rw [after, hy] at h
    cases h
  | succ n ih =>
    rcases job_act h with h' | ⟨i, l, rfl⟩ | ⟨job', now, reply, hact, h', rfl⟩
    · obtain ⟨m, hm, hrefused⟩ := ih h' hstage
      exact ⟨m, Nat.lt_succ_of_lt hm, hrefused⟩
    · cases hstage
    · have hnext := job'.lookup.step_next ((y.after acts n).shared job'.resolver) now reply
        job'.stage
      dsimp only at hstage
      rw [hstage] at hnext
      generalize hfrom : job'.stage = stage at hnext
      cases hnext with
      | refused final unwilling =>
        exact ⟨n, n.lt_succ_self, job', _, rest, last, now, reply, h', hfrom, hact, final,
          unwilling⟩

/-- Who adds a server: the outside, or a lookup after its refusal. -/
theorem refused_of_added (hy : y.jobs = []) {n : Nat} {server : Endpoint}
    (habsent : server ∉ (y.after acts n).nonRecursive)
    (hpresent : server ∈ (y.after acts (n + 1)).nonRecursive) :
    acts n = .mark server ∨
      ∃ k now reply, acts n = .advance k now reply ∧ ∃ m < n, Refused y acts k m server := by
  have hknown : server ∈ ((y.after acts n).act (acts n)).ledger.known := hpresent
  rcases (y.after acts n).ledger_act (acts n) with
    h | ⟨server', hact, _, h⟩ | ⟨k, now, reply, job, server', rest, last, hact, hjob, hstage, _, h⟩
  · rw [h] at hknown
    exact absurd hknown habsent
  · rw [h] at hknown
    obtain rfl := (List.mem_cons.1 hknown).resolve_right habsent
    left
    exact hact
  · rw [h] at hknown
    obtain rfl := (List.mem_cons.1 hknown).resolve_right habsent
    right
    exact ⟨k, now, reply, hact, refused_of_marking hy hjob hstage⟩

/-- **Passing over.** When a lookup comes to a server that is known by then, it has made no call for
this place of its list, and it never will. -/
theorem not_calls_of_passed {n n' k : Nat} {job job' : Job ι} {now : Int64}
    {reply : Except ResolverError Octets} {place : Nat} {server : Endpoint}
    (h : (y.after acts n).jobs[k]? = some job) (hchecks : job.Checks place server)
    (hact : acts n = .advance k now reply) (hmarked : server ∈ (y.after acts n).nonRecursive)
    (h' : (y.after acts n').jobs[k]? = some job') : ¬ job'.Calls place := by
  intro hcalls
  obtain ⟨hserver, last, hstage⟩ := hchecks
  obtain ⟨hlt, hget⟩ := List.getElem?_eq_some_iff.1 hserver
  obtain ⟨hlower, hupper⟩ := hcalls.stepsLeft
  rcases Nat.lt_or_ge n n' with hn | hn
  · -- the call would come after it
    let s := (y.after acts n).shared job.resolver
    have hmarked' : s.isMarked server := Shared.isMarked_iff.2 hmarked
    have hnext : (job.lookup.step now reply s job.stage).2 =
        .seeking (job.lookup.settings.servers.drop (place + 1)) last := by
      rw [hstage, List.drop_eq_getElem_cons hlt, hget, Lookup.step,
        Lookup.seek_of_marked _ last hmarked']
    have hsucc : (y.after acts (n + 1)).jobs[k]? =
        some { job with stage := (job.lookup.step now reply s job.stage).2 } := by
      rw [after, hact]
      exact act_advance_job h now reply
    obtain ⟨job₁, h₁, hlookup, hle⟩ := job_later hn hsucc
    obtain rfl : job₁ = job' := Option.some.inj (h₁.symm.trans h')
    rw [hlookup] at hlower
    have hle' : job.lookup.stepsLeft job₁.stage ≤
        job.lookup.stepsLeft (job.lookup.step now reply s job.stage).2 := hle
    rw [hnext, Lookup.stepsLeft, List.length_drop] at hle'
    dsimp only at hlower
    omega
  · -- the call would have come before it
    obtain ⟨job₁, h₁, hlookup, hle⟩ := job_later hn h'
    obtain rfl : job₁ = job := Option.some.inj (h₁.symm.trans h)
    rw [hstage, Lookup.stepsLeft, List.length_drop, hlookup] at hle
    rw [hlookup] at hlt
    omega

/-! ## The whole schedule -/

/-- With act `n` a lookup adds the server to those known to lack recursion. -/
def Moves (y : Fleet ι) (acts : Nat → Act ι) (n : Nat) (server : Endpoint) : Prop :=
  (∃ k now reply, acts n = .advance k now reply) ∧
    server ∉ (y.after acts n).nonRecursive ∧ server ∈ (y.after acts (n + 1)).nonRecursive

/-- These servers, each once, have been added by lookups with the first `n` acts, and since then
they have been reported and counted, each once, and no others have. -/
structure Moved (y : Fleet ι) (acts : Nat → Act ι) (n : Nat) (moved : List Endpoint) : Prop where
  nodup : moved.Nodup
  mem_iff : ∀ server, server ∈ moved ↔ ∃ m < n, Moves y acts m server
  warned : warned (y.after acts n).log = moved ++ warned y.log
  counted : (y.after acts n).metrics.nonRecursiveServers =
    y.metrics.nonRecursiveServers + UInt64.ofNat moved.length
  known : (∀ m < n, ∀ server, acts m ≠ .mark server) →
    (y.after acts n).nonRecursive = moved ++ y.nonRecursive

theorem exists_moves_succ (n : Nat) (server : Endpoint) :
    (∃ m < n + 1, Moves y acts m server) ↔
      (∃ m < n, Moves y acts m server) ∨ Moves y acts n server :=
  Nat.exists_lt_succ_right

section Moved

variable {n : Nat} {moved : List Endpoint}

/-- An act by which no lookup adds a server. -/
theorem Moved.same (h : Moved y acts n moved) (hnone : ∀ server, ¬ Moves y acts n server)
    (hwarned : (y.after acts (n + 1)).ledger.warned = (y.after acts n).ledger.warned)
    (hcounted : (y.after acts (n + 1)).ledger.counted = (y.after acts n).ledger.counted)
    (hknown : (∀ server, acts n ≠ .mark server) →
      (y.after acts (n + 1)).ledger.known = (y.after acts n).ledger.known) :
    Moved y acts (n + 1) moved where
  nodup := h.nodup
  mem_iff server := by rw [exists_moves_succ, or_iff_left (hnone server), h.mem_iff]
  warned := hwarned.trans h.warned
  counted := hcounted.trans h.counted
  known hno := (hknown (hno n n.lt_succ_self)).trans
    (h.known fun m hm => hno m (Nat.lt_succ_of_lt hm))

/-- An act by which a lookup adds one. -/
theorem Moved.cons (h : Moved y acts n moved) {server : Endpoint}
    (hact : ∃ k now reply, acts n = .advance k now reply)
    (hnew : server ∉ (y.after acts n).nonRecursive)
    (hledger : (y.after acts (n + 1)).ledger = (y.after acts n).ledger.add server) :
    Moved y acts (n + 1) (server :: moved) := by
  obtain ⟨hknown, hwarned, hcounted⟩ := Ledger.mk.inj hledger
  have hmoves : ∀ x, Moves y acts n x ↔ x = server := by
    intro x
    rw [Moves, hknown]
    constructor
    · rintro ⟨_, habsent, hpresent⟩
      exact (List.mem_cons.1 hpresent).resolve_right habsent
    · rintro rfl
      exact ⟨hact, hnew, List.mem_cons_self⟩
  refine ⟨List.nodup_cons.2 ⟨?_, h.nodup⟩, ?_, ?_, ?_, ?_⟩
  · intro hin
    obtain ⟨m, hm, _, _, hpresent⟩ := (h.mem_iff server).1 hin
    exact hnew (nonRecursive_subset hm hpresent)
  · intro x
    rw [exists_moves_succ, hmoves, List.mem_cons, h.mem_iff, or_comm]
  · rw [hwarned, List.cons_append, ← h.warned]
    rfl
  · rw [hcounted, List.length_cons, UInt64.ofNat_add, ← UInt64.add_assoc, ← h.counted]
    rfl
  · intro hno
    rw [hknown, List.cons_append, ← h.known fun m hm => hno m (Nat.lt_succ_of_lt hm)]
    rfl

end Moved

/-- **Reporting and counting.** By induction on the acts. -/
theorem exists_moved (y : Fleet ι) (acts : Nat → Act ι) (n : Nat) :
    ∃ moved, Moved y acts n moved := by
  induction n with
  | zero => exact ⟨[], List.nodup_nil, by simp, rfl, by simp [after], fun _ => rfl⟩
  | succ n ih =>
    obtain ⟨moved, hmoved⟩ := ih
    rcases (y.after acts n).ledger_act (acts n) with
      h | ⟨server, hact, _, h⟩ | ⟨k, now, reply, _, server, _, _, hact, _, _, hnew, h⟩
    · have hledger : (y.after acts (n + 1)).ledger = (y.after acts n).ledger := h
      refine ⟨moved, hmoved.same ?_ (by rw [hledger]) (by rw [hledger]) fun _ => by rw [hledger]⟩
      rintro server ⟨_, habsent, hpresent⟩
      have hpresent' : server ∈ (y.after acts (n + 1)).ledger.known := hpresent
      rw [hledger] at hpresent'
      exact habsent hpresent'
    · -- from outside
      have hledger : (y.after acts (n + 1)).ledger =
          { (y.after acts n).ledger with known := server :: (y.after acts n).nonRecursive } := h
      refine ⟨moved, hmoved.same ?_ (by rw [hledger]) (by rw [hledger]) ?_⟩
      · rintro _ ⟨⟨_, _, _, hact'⟩, _⟩
        cases hact.symm.trans hact'
      · intro hno
        exact absurd hact (hno server)
    · exact ⟨server :: moved, hmoved.cons ⟨k, now, reply, hact⟩ hnew h⟩

theorem placed_after (hy : y.jobs = []) (n : Nat) :
    ∀ job ∈ (y.after acts n).jobs, job.stage.Placed job.lookup.settings.servers := by
  refine (invariant (fun _ _ => True) (fun job => job.stage.Placed job.lookup.settings.servers)
    ?_ ?_ (fun _ => trivial) ?_ n).2
  · intro i l
    trivial
  · intro i l now reply s stage _ hstage
    exact ⟨trivial, Stage.Placed.step hstage now reply s⟩
  · rw [hy]
    exact fun _ hmem => nomatch hmem

/-- A response came from a server with recursion, or was in the cache from the start. -/
def Sourced (y : Fleet ι) (i : ι) (response : Message) : Prop :=
  Willing response ∨ ∃ e ∈ (y.caches i).entries, e.2.response = response

theorem sourced_after (hy : y.jobs = []) (n : Nat) :
    (∀ i, ((y.after acts n).caches i).Only (y.Sourced i)) ∧
      ∀ job ∈ (y.after acts n).jobs, job.stage.Brings (y.Sourced job.resolver) := by
  refine invariant (fun i c => c.Only (y.Sourced i))
    (fun job => job.stage.Brings (y.Sourced job.resolver)) ?_ ?_ ?_ ?_ n
  · intro i l
    trivial
  · intro i l now reply s stage hs hstage
    have hwilling : ∀ r, Willing r → y.Sourced i r := fun _ => Or.inl
    exact ⟨only_step hs hstage l now reply, hstage.step hwilling hs l now reply⟩
  · intro i e he
    exact Or.inr ⟨e, he, rfl⟩
  · rw [hy]
    exact fun _ hmem => nomatch hmem

/-- What is said of the servers known to lack recursion under a schedule. -/
structure MarksOnce (y : Fleet ι) (acts : Nat → Act ι) : Prop where
  /-- They stay known. -/
  grows : ∀ m n, m ≤ n → (y.after acts m).nonRecursive ⊆ (y.after acts n).nonRecursive
  /-- One that is not marked from outside is marked by a lookup that it has refused. -/
  refused : ∀ n server, server ∉ (y.after acts n).nonRecursive →
    server ∈ (y.after acts (n + 1)).nonRecursive →
      acts n = .mark server ∨
        ∃ k now reply, acts n = .advance k now reply ∧ ∃ m < n, Refused y acts k m server
  /-- Every look at a server, and every call, is for a place of the list of servers. -/
  placed : ∀ (n k : Nat) (job : Job ι) server rest last, (y.after acts n).jobs[k]? = some job →
    (job.stage = .seeking (server :: rest) last → ∃ place, job.Checks place server) ∧
      ∀ transport, job.stage = .awaiting transport server rest last → ∃ place, job.Calls place
  /-- None is ever made for a place whose server is known before the lookup comes to it. -/
  passed : ∀ (m n k : Nat) (job : Job ι) now reply place server, m ≤ n →
    server ∈ (y.after acts m).nonRecursive → (y.after acts n).jobs[k]? = some job →
      job.Checks place server → acts n = .advance k now reply →
        ∀ (n' : Nat) (job' : Job ι), (y.after acts n').jobs[k]? = some job' → ¬ job'.Calls place
  /-- A result from a server without recursion was in the cache from the start. -/
  returned : ∀ (n k : Nat) (job : Job ι) response, (y.after acts n).jobs[k]? = some job →
    job.stage = .finished (.ok response) → y.Sourced job.resolver response
  /-- So was an entry from such a server. -/
  stored : ∀ n i, ∀ e ∈ ((y.after acts n).caches i).entries, y.Sourced i e.2.response
  /-- Each server that a lookup adds is reported and counted once. -/
  once : ∀ n, ∃ moved, Moved y acts n moved
  /-- If only lookups add servers, and there are none at first, as many are counted as there are. -/
  size : y.nonRecursive = [] → ∀ n, (∀ m < n, ∀ server, acts m ≠ .mark server) →
    (y.after acts n).nonRecursive.Nodup ∧
      warned (y.after acts n).log = (y.after acts n).nonRecursive ++ warned y.log ∧
        (y.after acts n).metrics.nonRecursiveServers =
          y.metrics.nonRecursiveServers + UInt64.ofNat (y.after acts n).nonRecursive.length

/-- **Marking.** However the lookups of any number of resolvers interleave, and whatever they are
answered, a server is marked once, after it has refused, and passed over from then on. -/
theorem marksOnce_idle (caches : ι → Cache) (marked : List Endpoint) (metrics : Metrics)
    (log : List Event) (acts : Nat → Act ι) :
    MarksOnce (idle caches marked metrics log) acts where
  grows _ _ hmn := nonRecursive_subset hmn
  refused _ _ habsent hpresent := refused_of_added rfl habsent hpresent
  placed n k job server rest last hjob := by
    have hplaced := placed_after rfl n job (List.mem_of_getElem? hjob)
    constructor
    · intro hstage
      rw [hstage] at hplaced
      exact Job.exists_checks hstage hplaced
    · intro transport hstage
      rw [hstage] at hplaced
      exact Job.exists_calls hstage hplaced
  passed _ _ _ _ _ _ _ _ hmn hmarked hjob hchecks hact _ _ hjob' :=
    not_calls_of_passed hjob hchecks hact (nonRecursive_subset hmn hmarked) hjob'
  returned n k job response hjob hstage := by
    have hbrings := (sourced_after rfl n).2 job (List.mem_of_getElem? hjob)
    rwa [hstage] at hbrings
  stored n i := (sourced_after rfl n).1 i
  once n := exists_moved _ acts n
  size hnone n hno := by
    obtain ⟨moved, h⟩ := exists_moved (idle caches marked metrics log) acts n
    have hknown := h.known hno
    rw [hnone, List.append_nil] at hknown
    rw [hknown]
    exact ⟨h.nodup, h.warned, h.counted⟩

/-- A header and no more: the reply to query 7 of a server without recursion. -/
def refusal : Octets :=
  [0, 7, 0x80, 0, 0, 0, 0, 0, 0, 0, 0, 0]

/-- Two resolvers have called the same server, and the refusals have come in, before either lookup
marks it. Then both do. -/
theorem marksOnce_side_by_side :
    let server : Endpoint := .v4 ⟨[192, 0, 2, 1], rfl⟩ 53
    let l := Lookup.ofQuestion (.ofServers [server]) 7 (.ofName .root (.known .a))
    let acts (n : Nat) : Act Bool :=
      if n = 0 then .start false l
      else if n = 1 then .start true l
      else .advance (n % 2) 1000 (.ok refusal)
    let y := idle (fun _ => .ofCapacity 4) [] .zero []
    ((y.after acts 8).nonRecursive = [] ∧ (y.after acts 8).metrics.udpAttempts = 2) ∧
      (∀ m server, acts m ≠ .mark server) ∧
        (y.after acts 10).nonRecursive = [server] ∧
          (y.after acts 10).metrics.nonRecursiveServers = 1 := by
  intro server l acts y
  have hno : ∀ m server, acts m ≠ .mark server := by
    intro m server
    dsimp only [acts]
    split
    · nofun
    · split <;> nofun
  have hknown : (y.after acts 10).nonRecursive = [server] := by decide +kernel
  have hsound := marksOnce_idle (fun _ => .ofCapacity 4) [] .zero [] acts
  obtain ⟨-, -, hcounted⟩ := hsound.size rfl 10 fun m _ => hno m
  refine ⟨⟨by decide +kernel, by decide +kernel⟩, hno, hknown, ?_⟩
  rw [hcounted, hknown]
  rfl

end Fleet

end StubResolver.Resolver
