import StubResolver.Proofs.Resolver.Interleaving
import StubResolver.Proofs.Resolver.Steps

/-!
# From stage to stage

Which stage a step leads to, and under what condition (`Lookup.step_next`), and what it does to the
cache (`Lookup.step_cache`). What is to be shown of the stages of a lookup follows from the first by
cases.
-/

namespace StubResolver.Resolver

namespace Lookup

/-- What has come in over a transport leaves nothing more to be tried. -/
def Final (l : Lookup) (transport : Transport) (answer : Except ResolverError Message) : Prop :=
  transport = .udp → ¬(l.settings.useTcpFallback = true ∧ cutShort answer = true)

/-- One step may lead from the first of two stages to the second. -/
inductive Next (l : Lookup) (s : Shared) (now : Int64) (answer : Except ResolverError Message) :
    Stage → Stage → Prop
  | hit {response : Message} (found : (s.cache.get l.query now).2.response? = some response) :
    Next l s now answer .asked (.finished (.ok response))
  | missed (found : (s.cache.get l.query now).2.response? = none) :
    Next l s now answer .asked (.seeking l.settings.servers none)
  | exhausted {last : Option ResolverError} :
    Next l s now answer (.seeking [] last) (.finished (.error (last.getD .noQueryableServer)))
  | skipped {server : Endpoint} {rest : List Endpoint} {last : Option ResolverError}
      (known : s.isMarked server) :
    Next l s now answer (.seeking (server :: rest) last) (.seeking rest last)
  | tried {server : Endpoint} {rest : List Endpoint} {last : Option ResolverError}
      (unknown : ¬ s.isMarked server) :
    Next l s now answer (.seeking (server :: rest) last) (.awaiting .udp server rest last)
  | again {server : Endpoint} {rest : List Endpoint} {last : Option ResolverError}
      (fallback : l.settings.useTcpFallback = true) (cut : cutShort answer = true) :
    Next l s now answer (.awaiting .udp server rest last) (.awaiting .tcp server rest last)
  | accepted {transport : Transport} {server : Endpoint} {rest : List Endpoint}
      {last : Option ResolverError} {response : Message} (final : l.Final transport answer)
      (is_accepted : accepted? l.query.header.id answer = some response) :
    Next l s now answer (.awaiting transport server rest last) (.storing response)
  | failed {transport : Transport} {server : Endpoint} {rest : List Endpoint}
      {last : Option ResolverError} {e : ResolverError} (final : l.Final transport answer)
      (is_failure : failure? l.query.header.id answer = some e) :
    Next l s now answer (.awaiting transport server rest last) (.seeking rest (some e))
  | refused {transport : Transport} {server : Endpoint} {rest : List Endpoint}
      {last : Option ResolverError} (final : l.Final transport answer)
      (unwilling : Unwilling l.query.header.id answer) :
    Next l s now answer (.awaiting transport server rest last) (.marking server rest last)
  | marked {server : Endpoint} {rest : List Endpoint} {last : Option ResolverError} :
    Next l s now answer (.marking server rest last) (.seeking rest last)
  | stored {response : Message} :
    Next l s now answer (.storing response) (.finished (.ok response))
  | ended {result : Except ResolverError Message} :
    Next l s now answer (.finished result) (.finished result)

section Next

variable (l : Lookup) (s : Shared) (now : Int64) (answer : Except ResolverError Message)

theorem begin_next : l.Next s now answer .asked (l.begin now s).2 := by
  rw [begin_stage]
  split
  · next found => exact .hit found
  · next found => exact .missed found

theorem seek_next (servers : List Endpoint) (last : Option ResolverError) :
    l.Next s now answer (.seeking servers last) (seek s servers last).2 := by
  cases servers with
  | nil => exact .exhausted
  | cons server rest =>
    by_cases h : s.isMarked server
    · rw [seek_of_marked rest last h]
      exact .skipped h
    · rw [seek_of_unmarked rest last h]
      exact .tried h

theorem receiveTcp_next {transport : Transport} (final : l.Final transport answer)
    (server : Endpoint) (rest : List Endpoint) (last : Option ResolverError) :
    l.Next s now answer (.awaiting transport server rest last)
      (l.receiveTcp s server rest last answer).2 := by
  rcases l.receiveTcp_cases s server rest last answer with ⟨r, hr, h⟩ | ⟨e, he, h⟩ | ⟨hu, h⟩
  · rw [h]
    exact .accepted final hr
  · rw [h]
    exact .failed final he
  · rw [h]
    exact .refused final hu

theorem receive_next (transport : Transport) (server : Endpoint) (rest : List Endpoint)
    (last : Option ResolverError) :
    l.Next s now answer (.awaiting transport server rest last)
      (l.receive s transport server rest last answer).2 := by
  cases transport with
  | tcp =>
    have final : l.Final .tcp answer := nofun
    exact l.receiveTcp_next s now answer final server rest last
  | udp =>
    rw [receive]
    rcases l.receiveUdp_cases s server rest last answer with ⟨hfallback, hcut, h⟩ | ⟨hno, h⟩
    · rw [h]
      exact .again hfallback hcut
    · have final : l.Final .udp answer := fun _ => hno
      rw [h]
      exact l.receiveTcp_next s now answer final server rest last

/-- **Stages.** Where a step leads. -/
theorem step_next (reply : Except ResolverError Octets) (stage : Stage) :
    l.Next s now (read reply now) stage (l.step now reply s stage).2 := by
  cases stage with
  | asked => exact l.begin_next s now _
  | seeking servers last => exact l.seek_next s now _ servers last
  | awaiting transport server rest last => exact l.receive_next s now _ transport server rest last
  | marking server rest last =>
    rw [step, mark_stage]
    exact .marked
  | storing response =>
    rw [step, store_stage]
    exact .stored
  | finished result => exact .ended

/-- **The cache.** What a step does to it. -/
theorem step_cache (reply : Except ResolverError Octets) (stage : Stage) :
    (l.step now reply s stage).1.cache =
      match stage with
      | .asked => (s.cache.get l.query now).1
      | .storing response =>
        if response.answersQuestion l.question then (s.cache.put l.query response).1 else s.cache
      | _ => s.cache := by
  cases stage with
  | asked => exact l.begin_cache s now
  | seeking servers last => exact (seek_same s last servers).cache
  | awaiting transport server rest last =>
    exact (l.receive_same s server rest last _ transport).cache
  | marking server rest last => exact mark_cache s server rest last
  | storing response => exact l.store_cache s response
  | finished result => rfl

end Next

end Lookup

end StubResolver.Resolver
