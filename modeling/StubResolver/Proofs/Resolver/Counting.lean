import StubResolver.Proofs.Resolver.Calls
import StubResolver.Proofs.Resolver.Reuse

/-!
# What the counters say

Counters are bumped in many places, and they add up. A `Tally` holds what there is to be counted,
as numbers without bound, and `Accounts` says that the counters agree with it modulo 2^64.

1. Each thing that is counted keeps the accounts, the tally with it (`Accounts.attempt` and so on).
2. While a lookup runs, at most one attempt is unsettled, and it belongs to a server that is not
   known to lack recursion. So no step but the first breaks the accounts (`Counted.step`).
3. Hence asking a question keeps them (`Accounts.ask`), and so does a whole session of questions
   (`Session.balanced`).
-/

namespace StubResolver

theorem Cache.stats_get (c : Cache) (query : Message) (now : Int64) :
    (c.get query now).1.stats = (c.get query now).2.count c.stats := by
  have hlookup : (c.lookup query now).1.stats = c.stats := by
    simp only [lookup]
    split
    · rfl
    · split <;> rfl
  show (c.lookup query now).2.count (c.lookup query now).1.stats = _
  rw [hlookup]
  rfl

theorem Cache.stats_put (c : Cache) (query response : Message) :
    (c.put query response).1.stats = c.stats := by
  unfold Cache.put
  split
  · rfl
  · show (c.push _ _).1.stats = c.stats
    unfold Cache.push
    split
    · rfl
    · split <;> rfl

/-- Whether the code is neither that of an answer nor that of a name that does not exist. -/
def Message.earnsWarning (m : Message) : Bool :=
  m.header.rcode != .noError && m.header.rcode != .nxDomain

theorem ResponseCode.isAccepted_eq (m : Message) : m.header.rcode.isAccepted = !m.earnsWarning := by
  unfold isAccepted Message.earnsWarning bne
  rw [Bool.not_and, Bool.not_not, Bool.not_not]

namespace Resolver

variable {σ : Type}

/-! ## Accounts -/

/-- What there is to be counted. -/
structure Tally where
  asked : Nat
  answered : Nat
  udp : Nat
  tcp : Nat
  warned : Nat

/-- The counters agree with the tally and with each other, apart from attempts that are not
settled. -/
structure Accounts (t : Tally) (unsettled : Nat) (m : Metrics) (c : CacheStats) : Prop where
  asked : m.queries = .ofNat t.asked
  looked : m.queries = m.cacheHits + m.cacheMisses
  answered : m.cacheHits + m.responses = .ofNat t.answered
  udp : m.udpAttempts = .ofNat t.udp
  settled : m.udpAttempts =
    m.attemptFailures + m.responses + m.nonRecursiveServers + .ofNat unsettled
  tcp : m.tcpFallbacks = .ofNat t.tcp
  warned : m.warningResponses = .ofNat t.warned
  hits : c.hits = m.cacheHits
  misses : c.misses + c.expired = m.cacheMisses

theorem ofNat_succ (n : Nat) : UInt64.ofNat (n + 1) = .ofNat n + 1 :=
  UInt64.ofNat_add n 1

namespace Accounts

variable {t : Tally} {n : Nat} {m : Metrics} {c : CacheStats}

theorem hit (h : Accounts t n m c) :
    Accounts { t with asked := t.asked + 1, answered := t.answered + 1 } n
      m.countQuery.countCacheHit { c with hits := c.hits + 1 } := {
  h with
  asked := by simp [Metrics.countQuery, Metrics.countCacheHit, h.asked, ofNat_succ]
  looked := by
    have hlooked := h.looked
    simp only [Metrics.countQuery, Metrics.countCacheHit]
    grind
  answered := by
    have hanswered := h.answered
    simp only [Metrics.countQuery, Metrics.countCacheHit, ofNat_succ]
    grind
  hits := by simp [Metrics.countQuery, Metrics.countCacheHit, h.hits] }

/-- A look that finds nothing is a miss, be it for a stale entry. -/
theorem miss (h : Accounts t n m c) {found : Cache.Lookup} (hfound : found.response? = none) :
    Accounts { t with asked := t.asked + 1 } n m.countQuery.countCacheMiss (found.count c) := {
  h with
  asked := by simp [Metrics.countQuery, Metrics.countCacheMiss, h.asked, ofNat_succ]
  looked := by
    have hlooked := h.looked
    simp only [Metrics.countQuery, Metrics.countCacheMiss]
    grind
  hits := by
    cases found with
    | hit response => cases hfound
    | miss | expired => exact h.hits
  misses := by
    have hmisses := h.misses
    cases found with
    | hit response => cases hfound
    | miss | expired =>
      simp only [Cache.Lookup.count, Metrics.countQuery, Metrics.countCacheMiss]
      grind }

theorem attempt (h : Accounts t n m c) :
    Accounts { t with udp := t.udp + 1 } (n + 1) m.countUdpAttempt c := {
  h with
  udp := by simp [Metrics.countUdpAttempt, h.udp, ofNat_succ]
  settled := by
    have hsettled := h.settled
    simp only [Metrics.countUdpAttempt, ofNat_succ]
    grind }

theorem fallback (h : Accounts t n m c) :
    Accounts { t with tcp := t.tcp + 1 } n m.countTcpFallback c := {
  h with
  tcp := by simp [Metrics.countTcpFallback, h.tcp, ofNat_succ] }

theorem failure (h : Accounts t (n + 1) m c) : Accounts t n m.countAttemptFailure c := {
  h with
  settled := by
    have hsettled := h.settled
    simp only [Metrics.countAttemptFailure, ofNat_succ] at hsettled ⊢
    grind }

theorem refusal (h : Accounts t (n + 1) m c) : Accounts t n m.countNonRecursive c := {
  h with
  settled := by
    have hsettled := h.settled
    simp only [Metrics.countNonRecursive, ofNat_succ] at hsettled ⊢
    grind }

theorem response (h : Accounts t (n + 1) m c) (warns : Bool) :
    Accounts { t with
      answered := t.answered + 1
      warned := t.warned + if warns then 1 else 0 } n (m.countResponse !warns) c := {
  h with
  answered := by
    have hanswered := h.answered
    simp only [Metrics.countResponse, ofNat_succ]
    grind
  settled := by
    have hsettled := h.settled
    simp only [Metrics.countResponse, ofNat_succ] at hsettled ⊢
    grind
  warned := by
    cases warns with
    | true => simp [Metrics.countResponse, h.warned, ofNat_succ]
    | false => simp [Metrics.countResponse, h.warned] }

end Accounts

/-! ## What steps count -/

/-- What is counted from one stage to the next, past the cache. -/
def counting (s : Shared) : Stage → Stage → Metrics → Metrics
  | .seeking .., .awaiting .. => .countUdpAttempt
  | .awaiting .., .awaiting .. => .countTcpFallback
  | .awaiting .., .seeking .. => .countAttemptFailure
  | .awaiting .., .storing response => (.countResponse · response.header.rcode.isAccepted)
  | .marking server .., .seeking .. => if s.isMarked server then id else .countNonRecursive
  | _, _ => id

namespace Lookup

variable (l : Lookup) (s : Shared) (server : Endpoint) (rest : List Endpoint)
  (last : Option ResolverError)

theorem seek_metrics (servers : List Endpoint) :
    (seek s servers last).1.metrics =
      counting s (.seeking servers last) (seek s servers last).2 s.metrics := by
  unfold seek
  split
  · rfl
  · split <;> rfl

theorem accept_metrics (transport : Transport) (response : Message) :
    (l.accept s server rest last response).1.metrics =
      counting s (.awaiting transport server rest last)
        (l.accept s server rest last response).2 s.metrics := by
  unfold accept
  split
  · rfl
  · split
    · dsimp only
      split <;> rfl
    · rfl

theorem receive_metrics (transport : Transport) (answer : Except ResolverError Message) :
    (l.receive s transport server rest last answer).1.metrics =
      counting s (.awaiting transport server rest last)
        (l.receive s transport server rest last answer).2 s.metrics := by
  cases transport with
  | udp =>
    unfold receive receiveUdp
    dsimp only
    split
    · split
      · rfl
      · exact l.accept_metrics s server rest last .udp _
    · split <;> rfl
  | tcp =>
    unfold receive receiveTcp
    dsimp only
    split
    · exact l.accept_metrics s server rest last .tcp _
    · rfl

theorem mark_metrics :
    (mark s server rest last).1.metrics =
      counting s (.marking server rest last) (mark s server rest last).2 s.metrics := by
  unfold mark counting
  by_cases h : s.isMarked server
  · simp [h]
  · simp [h, Shared.mark, Shared.report, Shared.count]

theorem store_metrics (response : Message) :
    (l.store s response).1.metrics = s.metrics := by
  unfold store
  split <;> rfl

/-- **Counting.** What a step past the cache counts. -/
theorem step_metrics {stage : Stage} (h : stage ≠ .asked) (now : Int64)
    (reply : Except ResolverError Octets) :
    (l.step now reply s stage).1.metrics =
      counting s stage (l.step now reply s stage).2 s.metrics := by
  cases stage with
  | asked => exact absurd rfl h
  | seeking servers last => exact seek_metrics s last servers
  | awaiting transport server rest last => exact l.receive_metrics s server rest last transport _
  | marking server rest last => exact mark_metrics s server rest last
  | storing response => exact l.store_metrics s response
  | finished result => rfl

theorem step_stats {stage : Stage} (h : stage ≠ .asked) (now : Int64)
    (reply : Except ResolverError Octets) :
    (l.step now reply s stage).1.cache.stats = s.cache.stats := by
  rw [l.step_cache s now reply stage]
  cases stage with
  | asked => exact absurd rfl h
  | storing response =>
    dsimp only
    split
    · exact Cache.stats_put ..
    · rfl
  | _ => rfl

end Lookup

/-! ## Counting along a run -/

namespace Stage

/-- How many calls over a transport are announced, but not made yet. -/
def announced : Transport → Stage → Nat
  | .udp, .awaiting .udp .. | .tcp, .awaiting .tcp .. => 1
  | _, _ => 0

/-- How many attempts are not settled. -/
def unsettled : Stage → Nat
  | .awaiting .. | .marking .. => 1
  | _ => 0

/-- The server of the attempt that is not settled. -/
def tries? : Stage → Option Endpoint
  | .awaiting _ server _ _ | .marking server _ _ => some server
  | _ => none

/-- How many responses were counted. -/
def answered : Stage → Nat
  | .storing _ | .finished (.ok _) => 1
  | _ => 0

/-- How many responses were counted whose codes earn a warning. -/
def warned : Stage → Nat
  | .storing response | .finished (.ok response) => if response.earnsWarning then 1 else 0
  | _ => 0

end Stage

/-- How many calls were made over a transport. -/
def callsOver (transport : Transport) (calls : List Call) : Nat :=
  calls.countP (·.transport = transport)

/-- The tally while a lookup runs, given what it was when the lookup began to seek. A call is
counted when it is announced, and a response before it is returned. -/
def Tally.during (t : Tally) (calls : List Call) (stage : Stage) : Tally where
  asked := t.asked
  answered := t.answered + stage.answered
  udp := t.udp + callsOver .udp calls + stage.announced .udp
  tcp := t.tcp + callsOver .tcp calls + stage.announced .tcp
  warned := t.warned + stage.warned

section Steps

variable {t : Tally} {s : Shared} {calls : List Call} {stage : Stage}
  (l : Lookup) (now : Int64) (reply : Except ResolverError Octets)

theorem callsOver_called (transport : Transport) :
    callsOver transport (calls ++ l.called now reply stage) =
      callsOver transport calls + stage.announced transport := by
  unfold callsOver
  rw [List.countP_append]
  -- what is announced is called in the next step
  cases stage with
  | awaiting transport' server rest last => cases transport <;> cases transport' <;> rfl
  | _ => cases transport <;> rfl

theorem during_called (stage' : Stage) :
    t.during (calls ++ l.called now reply stage) stage' =
      { asked := t.asked
        answered := t.answered + stage'.answered
        udp := (t.during calls stage).udp + stage'.announced .udp
        tcp := (t.during calls stage).tcp + stage'.announced .tcp
        warned := t.warned + stage'.warned } := by
  simp only [Tally.during, callsOver_called, Nat.add_assoc]

/-- What a lookup past the cache keeps. -/
structure Counted (t : Tally) (s : Shared) (calls : List Call) (stage : Stage) : Prop where
  begun : stage ≠ .asked
  accounts : Accounts (t.during calls stage) stage.unsettled s.metrics s.cache.stats
  /-- There is a call over UDP for each over TCP, and one more before the answer comes. -/
  fallbacks : (t.during calls stage).tcp + stage.announced .udp ≤ (t.during calls stage).udp
  unmarked : ∀ server, stage.tries? = some server → server ∉ s.nonRecursive

namespace Counted

theorem begun_step (h : Counted t s calls stage) : (l.step now reply s stage).2 ≠ .asked := by
  have hnext := l.step_next s now reply stage
  generalize (l.step now reply s stage).2 = stage' at hnext
  cases hnext
  all_goals simp

theorem accounts_step (h : Counted t s calls stage) :
    Accounts (t.during (calls ++ l.called now reply stage) (l.step now reply s stage).2)
      (l.step now reply s stage).2.unsettled (l.step now reply s stage).1.metrics
      (l.step now reply s stage).1.cache.stats := by
  have hnext := l.step_next s now reply stage
  rw [l.step_metrics s h.begun, l.step_stats s h.begun, during_called]
  generalize (l.step now reply s stage).2 = stage' at hnext
  have haccounts := h.accounts
  cases hnext with
  | hit | missed => exact absurd rfl h.begun
  | exhausted | skipped | stored | ended => exact haccounts
  | tried => exact haccounts.attempt
  | again => exact haccounts.fallback
  | @accepted _ _ _ _ response =>
    have hcode := ResponseCode.isAccepted_eq response
    show Accounts _ _ (s.metrics.countResponse response.header.rcode.isAccepted) _
    rw [hcode]
    exact haccounts.response response.earnsWarning
  | failed => exact haccounts.failure
  | refused => exact haccounts
  | @marked server =>
    -- the server was not known when it was called, and no other lookup has marked it since
    have hnew : ¬ s.isMarked server := mt Shared.isMarked_iff.1 (h.unmarked server rfl)
    simp only [counting, if_neg hnew]
    exact haccounts.refusal

theorem fallbacks_step (h : Counted t s calls stage) :
    let t' := t.during (calls ++ l.called now reply stage) (l.step now reply s stage).2
    t'.tcp + (l.step now reply s stage).2.announced .udp ≤ t'.udp := by
  have hnext := l.step_next s now reply stage
  have hfallbacks := h.fallbacks
  rw [during_called]
  generalize (l.step now reply s stage).2 = stage' at hnext
  cases hnext with
  | hit | missed => exact absurd rfl h.begun
  | tried => exact Nat.succ_le_succ hfallbacks
  | again => exact hfallbacks
  | _ => exact (Nat.le_add_right _ _).trans hfallbacks

theorem unmarked_step (h : Counted t s calls stage) (server : Endpoint)
    (htries : (l.step now reply s stage).2.tries? = some server) :
    server ∉ (l.step now reply s stage).1.nonRecursive := by
  have hnext := l.step_next s now reply stage
  rw [l.mem_nonRecursive_step]
  generalize (l.step now reply s stage).2 = stage' at hnext htries
  cases hnext with
  | tried unknown =>
    cases htries
    rintro (hmem | hmarks)
    · exact unknown (Shared.isMarked_iff.2 hmem)
    · cases hmarks
  | again | refused =>
    rintro (hmem | hmarks)
    · exact h.unmarked server htries hmem
    · cases hmarks
  | _ => cases htries

/-- **Steps** past the cache keep the accounts. -/
theorem step (h : Counted t s calls stage) :
    Counted t (l.step now reply s stage).1 (calls ++ l.called now reply stage)
      (l.step now reply s stage).2 where
  begun := h.begun_step l now reply
  accounts := h.accounts_step l now reply
  fallbacks := h.fallbacks_step l now reply
  unmarked := h.unmarked_step l now reply

end Counted

end Steps

/-! ## Questions -/

theorem Lookup.begin_counts (l : Lookup) (now : Int64) (s : Shared) :
    (l.begin now s).1.metrics =
        (if (s.cache.get l.query now).2.response?.isSome then s.metrics.countQuery.countCacheHit
          else s.metrics.countQuery.countCacheMiss) ∧
      (l.begin now s).1.cache.stats = (s.cache.get l.query now).2.count s.cache.stats := by
  constructor
  · unfold begin
    dsimp only [Shared.count]
    cases (s.cache.get l.query now).2.response? <;> rfl
  · rw [l.begin_cache, Cache.stats_get]

/-- A question that was asked, and the calls that were made for it. -/
structure Asking extends Inquiry where
  calls : List Call

namespace Asking

def of (settings : Settings) (link : Link σ) (s : Shared) (w : σ) (q : Question) : Asking :=
  { Inquiry.of settings link s w q with
    calls := (ask settings link.noting s (w, []) q).world.2 }

/-- A response was returned. -/
def answered (a : Asking) : Bool :=
  a.result.isOk

/-- A response was returned that came from a server, with a code that earns it a warning. -/
def warned (a : Asking) : Bool :=
  !a.hit && a.result.toOption.any Message.earnsWarning

end Asking

/-- The tally of some questions. -/
def Tally.of (as : List Asking) : Tally where
  asked := as.length
  answered := as.countP Asking.answered
  udp := callsOver .udp (as.flatMap Asking.calls)
  tcp := callsOver .tcp (as.flatMap Asking.calls)
  warned := as.countP Asking.warned

/-- One more question. -/
def Tally.add (t : Tally) (a : Asking) : Tally where
  asked := t.asked + 1
  answered := t.answered + if a.answered then 1 else 0
  udp := t.udp + callsOver .udp a.calls
  tcp := t.tcp + callsOver .tcp a.calls
  warned := t.warned + if a.warned then 1 else 0

theorem Tally.of_concat (as : List Asking) (a : Asking) : of (as ++ [a]) = (of as).add a := by
  simp [of, add, callsOver, List.countP_append, List.countP_singleton]

/-- What is counted for a question that the cache does not answer. -/
theorem Tally.during_finished (t : Tally) {a : Asking} (h : a.hit = false) :
    { t with asked := t.asked + 1 }.during a.calls (.finished a.result) = t.add a := by
  unfold during add Asking.answered Asking.warned
  rw [h]
  cases a.result with
  | error e => rfl
  | ok response => rfl

/-- What is counted for a question that it answers. -/
theorem Tally.add_of_hit (t : Tally) {a : Asking} {response : Message} (hit : a.hit = true)
    (result : a.result = .ok response) (calls : a.calls = []) :
    t.add a = { t with asked := t.asked + 1, answered := t.answered + 1 } := by
  unfold add Asking.answered Asking.warned
  rw [hit, result, calls]
  rfl

/-- **Questions** keep the accounts. -/
theorem Accounts.ask {t : Tally} (settings : Settings) (link : Link σ) {s : Shared} (w : σ)
    (q : Question) (h : Accounts t 0 s.metrics s.cache.stats) (hle : t.tcp ≤ t.udp) :
    let a := Asking.of settings link s w q
    let after := (Resolver.ask settings link s w q).shared
    Accounts (t.add a) 0 after.metrics after.cache.stats ∧ (t.add a).tcp ≤ (t.add a).udp := by
  intro a after
  let l := Lookup.ofQuestion settings (link.id w).1 q
  let now := link.now (link.id w).2
  obtain ⟨hmetrics, hstats⟩ := l.begin_counts now.1 s
  have hhit : a.hit = (s.cache.get l.query now.1).2.response?.isSome := rfl
  cases hfound : (s.cache.get l.query now.1).2.response? with
  | some response =>
    have hplain : Resolver.ask settings link s w q = ⟨(l.begin now.1 s).1, now.2, .ok response⟩ :=
      Lookup.run_asked_of_some hfound
    have hnoted : Resolver.ask settings link.noting s (w, []) q =
        ⟨(l.begin now.1 s).1, (now.2, []), .ok response⟩ :=
      Lookup.run_asked_of_some hfound
    have hafter : after = (l.begin now.1 s).1 := congrArg Outcome.shared hplain
    rw [hfound] at hhit hmetrics
    rw [Cache.Lookup.response?_eq_some_iff.1 hfound] at hstats
    rw [t.add_of_hit hhit (congrArg Outcome.result hplain) (congrArg (·.world.2) hnoted), hafter,
      hmetrics, hstats]
    exact ⟨h.hit, hle⟩
  | none =>
    let ended := l.run link.noting (l.begin now.1 s).1 (now.2, []) (.seeking settings.servers none)
    have hplain : Resolver.ask settings link s w q =
        l.run link (l.begin now.1 s).1 now.2 (.seeking settings.servers none) :=
      Lookup.run_asked_of_none hfound
    have hnoted : Resolver.ask settings link.noting s (w, []) q = ended :=
      Lookup.run_asked_of_none hfound
    have hstart : Counted { t with asked := t.asked + 1 } (l.begin now.1 s).1 []
        (.seeking settings.servers none) := {
      begun := by simp
      accounts := by
        rw [hmetrics, hstats, hfound]
        exact h.miss hfound
      fallbacks := hle
      unmarked := by simp [Stage.tries?] }
    have hended : Counted { t with asked := t.asked + 1 } ended.shared ended.world.2
        (.finished ended.result) :=
      l.run_keeps link (fun now reply _ _ _ h => h.step l now reply) _ _ _ hstart
    obtain ⟨hshared, -, hresult⟩ :=
      l.run_noting link (l.begin now.1 s).1 now.2 (.seeking settings.servers none) []
    rw [hfound] at hhit
    have hafter : after = ended.shared := by
      rw [hshared, ← hplain]
    have hcalls : a.calls = ended.world.2 := congrArg (·.world.2) hnoted
    have hends : a.result = ended.result := by
      rw [hresult, ← hplain]
      rfl
    have haccounts := hended.accounts
    have hfallbacks := hended.fallbacks
    rw [← hcalls, ← hends, t.during_finished hhit] at haccounts hfallbacks
    rw [hafter]
    exact ⟨haccounts, hfallbacks⟩

/-! ## Sessions -/

/-- Questions asked one after another, from fresh counters on. In between everything may change but
the counters: servers may be forgotten to lack recursion, and names asked for that cannot be
read. -/
inductive Session : List Asking → Shared → Prop
  | fresh {s : Shared} (metrics : s.metrics = .zero) (stats : s.cache.stats = ⟨0, 0, 0⟩) :
    Session [] s
  | ask {as : List Asking} {s : Shared} (past : Session as s) {σ : Type} (settings : Settings)
      (link : Link σ) (w : σ) (q : Question) :
    Session (as ++ [.of settings link s w q]) (ask settings link s w q).shared
  | meanwhile {as : List Asking} {s s' : Shared} (past : Session as s)
      (metrics : s'.metrics = s.metrics) (stats : s'.cache.stats = s.cache.stats) :
    Session as s'

section Sessions

variable {as : List Asking} {s : Shared}

theorem Session.accounts (h : Session as s) :
    Accounts (.of as) 0 s.metrics s.cache.stats ∧ (Tally.of as).tcp ≤ (Tally.of as).udp := by
  induction h with
  | fresh metrics stats =>
    rw [metrics, stats]
    exact ⟨⟨rfl, rfl, rfl, rfl, rfl, rfl, rfl, rfl, rfl⟩, Nat.le_refl _⟩
  | ask past settings link w q ih =>
    rw [Tally.of_concat]
    exact ih.1.ask settings link w q ih.2
  | meanwhile past metrics stats ih =>
    rw [metrics, stats]
    exact ih

/-- The counters agree, modulo 2^64, with what was asked and called for, and with each other. -/
structure Balanced (as : List Asking) (m : Metrics) (c : CacheStats) : Prop where
  asked : m.queries = .ofNat as.length
  looked : m.queries = m.cacheHits + m.cacheMisses
  answered : .ofNat (as.countP Asking.answered) = m.cacheHits + m.responses
  udp : m.udpAttempts = .ofNat (callsOver .udp (as.flatMap Asking.calls))
  /-- Every attempt failed, brought the response, or found that the server lacks recursion. -/
  settled : m.udpAttempts = m.attemptFailures + m.responses + m.nonRecursiveServers
  tcp : m.tcpFallbacks = .ofNat (callsOver .tcp (as.flatMap Asking.calls))
  fallbacks : callsOver .tcp (as.flatMap Asking.calls) ≤ callsOver .udp (as.flatMap Asking.calls)
  /-- So are the counters, as long as they have not started over. -/
  tcp_le_udp : callsOver .udp (as.flatMap Asking.calls) < 2 ^ 64 → m.tcpFallbacks ≤ m.udpAttempts
  warned : m.warningResponses = .ofNat (as.countP Asking.warned)
  hits : c.hits = m.cacheHits
  misses : c.misses + c.expired = m.cacheMisses

/-- **Accounting.** After any session the counters are balanced. -/
theorem Session.balanced (h : Session as s) : Balanced as s.metrics s.cache.stats := by
  obtain ⟨haccounts, hle⟩ := h.accounts
  exact {
    asked := haccounts.asked
    looked := haccounts.looked
    answered := haccounts.answered.symm
    udp := haccounts.udp
    settled := by simpa using haccounts.settled
    tcp := haccounts.tcp
    fallbacks := hle
    tcp_le_udp := by
      intro hlt
      have hle' : (Tally.of as).tcp ≤ (Tally.of as).udp := hle
      have hlt' : (Tally.of as).udp < 2 ^ 64 := hlt
      rw [haccounts.tcp, haccounts.udp, UInt64.le_iff_toNat_le, UInt64.toNat_ofNat',
        UInt64.toNat_ofNat', Nat.mod_eq_of_lt hlt', Nat.mod_eq_of_lt (hle'.trans_lt hlt')]
      exact hle'
    warned := haccounts.warned
    hits := haccounts.hits
    misses := haccounts.misses }

end Sessions

/-- The first of two servers is silent and the other answers. Half a minute later, with no server
known to lack recursion, the same question is asked again. -/
theorem balanced_of_two_questions :
    let servers : List Endpoint := [.v4 ⟨[192, 0, 2, 1], rfl⟩ 53, .v4 ⟨[192, 0, 2, 2], rfl⟩ 53]
    let settings := Settings.ofServers servers
    let q := Question.ofName .root (.known .a)
    let script := [.error .timeout, .error .timeout, .ok addressReply.toWire]
    let first := ask settings (scriptedLink 7 1000) (.ofCapacity 1) script q
    let second := ask settings (scriptedLink 8 31000) { first.shared with nonRecursive := [] } [] q
    let m := second.shared.metrics
    (m.queries = 2 ∧ m.cacheHits + m.cacheMisses = 2 ∧
      m.udpAttempts = m.attemptFailures + m.responses + m.nonRecursiveServers) ∧
      m.cacheHits = 1 ∧ m.responses = 1 ∧ m.udpAttempts = 2 ∧ m.tcpFallbacks = 1 := by
  intro servers settings q script first second m
  have hfirst : Session _ first.shared :=
    (Session.fresh rfl rfl).ask settings (scriptedLink 7 1000) script q
  have hcleared : Session _ { first.shared with nonRecursive := [] } := hfirst.meanwhile rfl rfl
  have hsecond : Session _ second.shared := hcleared.ask settings (scriptedLink 8 31000) [] q
  have hbalanced := hsecond.balanced
  have hasked : m.queries = 2 := hbalanced.asked
  refine ⟨⟨hasked, hbalanced.looked.symm.trans hasked, hbalanced.settled⟩, ?_⟩
  let l := Lookup.ofQuestion settings 7 q
  have hrun : ask settings (scriptedLink 7 1000).noting (.ofCapacity 1) (script, []) q =
      l.run (scriptedLink 7 1000).noting (l.begin 1000 (.ofCapacity 1)).1 (script, [])
        (.seeking servers none) :=
    Lookup.run_asked_of_none rfl
  have hsilent : Lookup.read (.error .timeout) 1000 = .error .timeout := rfl
  rw [Lookup.run_try (by decide), Lookup.run_scripted hsilent] at hrun
  change _ = l.run _ _ _ (.awaiting .tcp _ _ none) at hrun
  rw [Lookup.run_scripted hsilent] at hrun
  change _ = l.run _ _ _ (.seeking _ _) at hrun
  rw [Lookup.run_try (by decide), Lookup.run_scripted (read_addressReply 1000)] at hrun
  change _ = l.run _ _ _ (.storing _) at hrun
  rw [Lookup.run_storing] at hrun
  obtain ⟨hnoted, -, -⟩ := l.run_noting (scriptedLink 7 1000) (.ofCapacity 1) script .asked []
  have hshared : first.shared =
      (ask settings (scriptedLink 7 1000).noting (.ofCapacity 1) (script, []) q).shared :=
    hnoted.symm
  rw [hrun] at hshared
  let l' := Lookup.ofQuestion settings 8 q
  let response := addressReply.received 1000
  have hentries : first.shared.cache.entries = [(.ofQuery l.query, ⟨response⟩)] := by
    rw [hshared, Lookup.store_cache]
    rfl
  have hcounted : first.shared.metrics = ⟨1, 0, 1, 2, 1, 1, 0, 1, 0, 0⟩ := by
    rw [hshared, Lookup.store_metrics]
    rfl
  clear_value first
  have hfind : first.shared.cache.find? (.ofQuery l'.query) = some ⟨response⟩ := by
    rw [Cache.find?, hentries]
    exact List.lookup_cons_self
  have hfound : (first.shared.cache.get l'.query 31000).2.response? = some response := by
    rw [Cache.get_of_fresh hfind (by decide)]
    rfl
  let s₂ := { first.shared with nonRecursive := [] }
  have hhit : second = ⟨(l'.begin 31000 s₂).1, [], .ok response⟩ :=
    Lookup.run_asked_of_some hfound
  have hm : m = first.shared.metrics.countQuery.countCacheHit := by
    show second.shared.metrics = _
    rw [hhit, (l'.begin_counts 31000 s₂).1, hfound]
    rfl
  rw [hm, hcounted]
  exact ⟨rfl, rfl, rfl, rfl⟩

end Resolver

end StubResolver
