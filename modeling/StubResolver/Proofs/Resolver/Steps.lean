import StubResolver.Resolver.Lookup

/-!
# What each step of a lookup can do

The steps are told apart by the stage they lead to, and by what they leave as it is. The cache is
touched only when a lookup begins and when it stores; the servers known to lack recursion, only
when one is marked.
-/

namespace StubResolver.Resolver

/-- What lookups read of the shared state is the same: the rest is for its observers. -/
structure Shared.Same (s s' : Shared) : Prop where
  cache : s'.cache = s.cache
  nonRecursive : s'.nonRecursive = s.nonRecursive

theorem Shared.isMarked_iff {s : Shared} {server : Endpoint} :
    s.isMarked server ↔ server ∈ s.nonRecursive := by
  simp [isMarked]

theorem Shared.Same.isMarked {s s' : Shared} (h : s.Same s') (server : Endpoint) :
    s'.isMarked server = s.isMarked server := by
  rw [Shared.isMarked, h.nonRecursive, Shared.isMarked]

theorem Shared.same_count (s : Shared) (f : Metrics → Metrics) : s.Same (s.count f) :=
  ⟨rfl, rfl⟩

/-! ## What an answer amounts to -/

/-- Whether an answer leaves TCP to be tried: there is none, it cannot be read, or it is cut
short. -/
def cutShort : Except ResolverError Message → Bool
  | .ok response => response.header.isTruncated
  | .error _ => true

/-- The response that ends the lookup with this id: it is to this query and from a server with
recursion. -/
def accepted? (id : UInt16) : Except ResolverError Message → Option Message
  | .ok response =>
    if response.header.id = id ∧ response.header.recursionAvailable then some response else none
  | .error _ => none

/-- The failure an answer is. A response to another query is one. -/
def failure? (id : UInt16) : Except ResolverError Message → Option ResolverError
  | .ok response =>
    if response.header.id = id then none else some (.idMismatch id response.header.id)
  | .error e => some e

/-- A response to this query, from a server without recursion. -/
def Unwilling (id : UInt16) (answer : Except ResolverError Message) : Prop :=
  ∃ response, answer = .ok response ∧ response.header.id = id ∧
    ¬ response.header.recursionAvailable

section Answers

variable {id : UInt16} {answer : Except ResolverError Message}

theorem accepted?_eq_some_iff {response : Message} :
    accepted? id answer = some response ↔
      answer = .ok response ∧ response.header.id = id ∧ response.header.recursionAvailable := by
  cases answer with
  | error e => simp [accepted?]
  | ok r =>
    rw [accepted?, Option.ite_none_right_eq_some, Option.some.injEq, Except.ok.injEq, and_comm]
    exact and_congr_right fun h => by rw [h]

theorem accepted?_eq_none_of_failure? {e : ResolverError} (h : failure? id answer = some e) :
    accepted? id answer = none := by
  cases answer with
  | error e => rfl
  | ok r =>
    simp only [failure?, Option.ite_none_left_eq_some] at h
    rw [accepted?, if_neg (fun both => h.1 both.1)]

theorem Unwilling.accepted? (h : Unwilling id answer) : accepted? id answer = none := by
  obtain ⟨r, rfl, _, hr⟩ := h
  simp [Resolver.accepted?, hr]

theorem not_unwilling_of_failure? {e : ResolverError} (h : failure? id answer = some e) :
    ¬ Unwilling id answer := by
  rintro ⟨r, rfl, hid, _⟩
  rw [Resolver.failure?, if_pos hid] at h
  cases h

theorem Unwilling.failure? (h : Unwilling id answer) : failure? id answer = none := by
  obtain ⟨r, rfl, hid, _⟩ := h
  rw [Resolver.failure?, if_pos hid]

end Answers

namespace Lookup

variable (l : Lookup) (s : Shared) (server : Endpoint) (rest : List Endpoint)
  (last : Option ResolverError) (answer : Except ResolverError Message)

/-! ## Beginning -/

theorem begin_cache (now : Int64) : (l.begin now s).1.cache = (s.cache.get l.query now).1 := by
  unfold begin
  dsimp only
  split <;> rfl

theorem begin_nonRecursive (now : Int64) : (l.begin now s).1.nonRecursive = s.nonRecursive := by
  unfold begin
  dsimp only
  split <;> rfl

/-- A response in the cache is the result, and without one the servers are tried. -/
theorem begin_stage (now : Int64) :
    (l.begin now s).2 =
      match (s.cache.get l.query now).2.response? with
      | some response => .finished (.ok response)
      | none => .seeking l.settings.servers none := by
  unfold begin
  dsimp only [Shared.count]
  cases (s.cache.get l.query now).2.response? <;> rfl

/-! ## Seeking -/

theorem seek_nil : seek s [] last = (s, .finished (.error (last.getD .noQueryableServer))) := rfl

variable {s server} in
theorem seek_of_marked (h : s.isMarked server) :
    seek s (server :: rest) last = (s.report (.skipped server), .seeking rest last) := by
  rw [seek, if_pos h]

variable {s server} in
theorem seek_of_unmarked (h : ¬ s.isMarked server) :
    seek s (server :: rest) last =
      (s.count .countUdpAttempt, .awaiting .udp server rest last) := by
  rw [seek, if_neg h]

theorem seek_same (servers : List Endpoint) : s.Same (seek s servers last).1 := by
  unfold seek
  split
  · exact ⟨rfl, rfl⟩
  · split <;> exact ⟨rfl, rfl⟩

/-! ## Receiving -/

theorem accept_same (response : Message) : s.Same (l.accept s server rest last response).1 := by
  unfold accept
  split
  · exact ⟨rfl, rfl⟩
  · split
    · dsimp only
      split <;> exact ⟨rfl, rfl⟩
    · exact ⟨rfl, rfl⟩

theorem receiveTcp_same : s.Same (l.receiveTcp s server rest last answer).1 := by
  cases answer with
  | error e => exact ⟨rfl, rfl⟩
  | ok response => exact l.accept_same s server rest last response

theorem receiveUdp_same : s.Same (l.receiveUdp s server rest last answer).1 := by
  unfold receiveUdp
  split
  · split
    · exact ⟨rfl, rfl⟩
    · exact l.accept_same s server rest last _
  · split <;> exact ⟨rfl, rfl⟩

theorem receive_same (transport : Transport) :
    s.Same (l.receive s transport server rest last answer).1 := by
  cases transport with
  | udp => exact l.receiveUdp_same s server rest last answer
  | tcp => exact l.receiveTcp_same s server rest last answer

/-- An answer over UDP leads to TCP, or is settled as one over TCP is. -/
theorem receiveUdp_cases :
    (l.settings.useTcpFallback = true ∧ cutShort answer = true ∧
      (l.receiveUdp s server rest last answer).2 = .awaiting .tcp server rest last) ∨
    (¬(l.settings.useTcpFallback = true ∧ cutShort answer = true) ∧
      l.receiveUdp s server rest last answer = l.receiveTcp s server rest last answer) := by
  cases answer with
  | ok response =>
    by_cases h : response.header.isTruncated ∧ l.settings.useTcpFallback
    · left
      refine ⟨h.2, h.1, ?_⟩
      rw [receiveUdp, if_pos h]
    · right
      constructor
      · rintro ⟨hfallback, hcut⟩
        exact h ⟨hcut, hfallback⟩
      · rw [receiveUdp, if_neg h]
        rfl
  | error e =>
    by_cases h : l.settings.useTcpFallback
    · left
      refine ⟨h, rfl, ?_⟩
      rw [receiveUdp, if_pos h]
    · right
      constructor
      · rintro ⟨hfallback, _⟩
        exact h hfallback
      · rw [receiveUdp, if_neg h]
        rfl

/-- **Settling.** A final answer is accepted, a failure, or the server lacks recursion. -/
theorem receiveTcp_cases :
    (∃ response, accepted? l.query.header.id answer = some response ∧
      (l.receiveTcp s server rest last answer).2 = .storing response) ∨
    (∃ e, failure? l.query.header.id answer = some e ∧
      (l.receiveTcp s server rest last answer).2 = .seeking rest (some e)) ∨
    (Unwilling l.query.header.id answer ∧
      (l.receiveTcp s server rest last answer).2 = .marking server rest last) := by
  cases answer with
  | error e =>
    right; left
    exact ⟨e, rfl, rfl⟩
  | ok response =>
    by_cases hid : response.header.id = l.query.header.id
    · have hskip : ¬ response.header.id ≠ l.query.header.id := not_not_intro hid
      by_cases hra : response.header.recursionAvailable
      · left
        refine ⟨response, accepted?_eq_some_iff.mpr ⟨rfl, hid, hra⟩, ?_⟩
        rw [receiveTcp, accept, if_neg hskip, if_pos hra]
      · right; right
        refine ⟨⟨response, rfl, hid, hra⟩, ?_⟩
        rw [receiveTcp, accept, if_neg hskip, if_neg hra]
    · right; left
      refine ⟨.idMismatch l.query.header.id response.header.id, ?_, ?_⟩
      · rw [failure?, if_neg hid]
      · rw [receiveTcp, accept, if_pos hid]
        rfl

/-! ## Marking and storing -/

theorem mark_stage : (mark s server rest last).2 = .seeking rest last := by
  unfold mark
  split <;> rfl

theorem mark_cache : (mark s server rest last).1.cache = s.cache := by
  unfold mark
  split
  · rfl
  · show (s.mark server).cache = s.cache
    unfold Shared.mark
    split <;> rfl

variable {s server} in
theorem mark_of_unmarked (h : ¬ s.isMarked server) :
    (mark s server rest last).1.nonRecursive = server :: s.nonRecursive := by
  rw [mark, if_neg h]
  show (s.mark server).nonRecursive = _
  rw [Shared.mark, if_neg h]

theorem store_stage (response : Message) : (l.store s response).2 = .finished (.ok response) := by
  unfold store
  split <;> rfl

/-- A response is put into the cache just if it answers the question. -/
theorem store_cache (response : Message) :
    (l.store s response).1.cache =
      if response.answersQuestion l.question then (s.cache.put l.query response).1
      else s.cache := by
  unfold store
  split <;> rfl

end Lookup

end StubResolver.Resolver
