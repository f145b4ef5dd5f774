import StubResolver.Proofs.Resolver.Marks
import StubResolver.Proofs.Resolver.Turns

/-!
# What runs leave behind

What every step of a lookup keeps, of the shared state, the calls made so far and the stage, holds
when the lookup is over (`Lookup.run_keeps`). So the servers known to lack recursion afterwards are
those known before and those whose final reply in the run showed it (`Lookup.mem_nonRecursive_run`).
-/

namespace StubResolver.Resolver

variable {σ : Type}

namespace Lookup

/-! ## Steps and their calls -/

/-- The call that a step makes. -/
def called (l : Lookup) (now : Int64) (reply : Except ResolverError Octets) : Stage → List Call
  | .awaiting transport server _ _ => [⟨transport, server, l.query.toWire, reply, now⟩]
  | _ => []

/-- **Runs.** What the steps of a lookup keep, its run keeps. -/
theorem run_keeps (l : Lookup) (link : Link σ) {inv : Shared → List Call → Stage → Prop}
    (keep : ∀ now reply s calls stage, inv s calls stage →
      inv (l.step now reply s stage).1 (calls ++ l.called now reply stage)
        (l.step now reply s stage).2)
    (s : Shared) (w : σ × List Call) (stage : Stage) (h : inv s w.2 stage) :
    let ended := l.run link.noting s w stage
    inv ended.shared ended.world.2 (.finished ended.result) := by
  -- only the steps that await a reply make a call
  have quiet : ∀ now reply s calls stage, l.called now reply stage = [] → inv s calls stage →
      inv (l.step now reply s stage).1 calls (l.step now reply s stage).2 := by
    intro now reply s calls stage hnone h
    have hnext := keep now reply s calls stage h
    rwa [hnone, List.append_nil] at hnext
  induction s, w, stage using Lookup.run.induct l link.noting with
  | case1 s w result =>
    rw [run]
    exact h
  | case2 s w now w' hn this next ih =>
    obtain ⟨rfl, rfl⟩ := Prod.mk.inj hn
    rw [run]
    exact ih (quiet (link.now w.1).1 (.error .timeout) s _ .asked rfl h)
  | case3 s w servers last this next ih =>
    rw [run]
    exact ih (quiet 0 (.error .timeout) s _ (.seeking servers last) rfl h)
  | case4 s w transport server rest last reply w' hr now w'' hn this next ih =>
    obtain ⟨rfl, rfl⟩ := Prod.mk.inj hr
    obtain ⟨rfl, rfl⟩ := Prod.mk.inj hn
    rw [run]
    exact ih (keep _ _ s _ (.awaiting transport server rest last) h)
  | case5 s w server rest last this next ih =>
    rw [run]
    exact ih (quiet 0 (.error .timeout) s _ (.marking server rest last) rfl h)
  | case6 s w response this next ih =>
    rw [run]
    exact ih (quiet 0 (.error .timeout) s _ (.storing response) rfl h)

end Lookup

/-! ## Refusals -/

/-- What the call brought is final for its server, is to the query, and shows that the server lacks
recursion. -/
def Call.Refused (l : Lookup) (c : Call) : Prop :=
  l.Final c.transport c.answer ∧ Unwilling l.query.header.id c.answer

/-- The server that is about to be marked. -/
def Stage.marks? : Stage → Option Endpoint
  | .marking server _ _ => some server
  | _ => none

namespace Lookup

variable (l : Lookup) (s : Shared) (now : Int64) (reply : Except ResolverError Octets)
  (stage : Stage) (x : Endpoint)

/-- A step marks the server that was about to be marked. -/
theorem mem_nonRecursive_step :
    x ∈ (l.step now reply s stage).1.nonRecursive ↔
      x ∈ s.nonRecursive ∨ stage.marks? = some x := by
  show x ∈ (l.step now reply s stage).1.ledger.known ↔ x ∈ s.ledger.known ∨ _
  rw [step_ledger]
  cases stage with
  | marking server rest last =>
    by_cases h : server ∈ s.ledger.known
    · simp only [Ledger.enter, if_pos h, Stage.marks?, Option.some.injEq]
      constructor
      · exact .inl
      · rintro (hx | rfl)
        · exact hx
        · exact h
    · simp only [Ledger.enter, if_neg h, Ledger.add, Stage.marks?, Option.some.injEq,
        List.mem_cons]
      rw [or_comm, eq_comm]
  | _ => simp [Stage.marks?]

/-- A step leads to marking a server just if it makes a call that is refused. -/
theorem marks?_step :
    (l.step now reply s stage).2.marks? = some x ↔
      ∃ c ∈ l.called now reply stage, c.server = x ∧ c.Refused l := by
  have hnext := l.step_next s now reply stage
  generalize (l.step now reply s stage).2 = stage' at hnext
  cases hnext with
  | again fallback cut =>
    have hnot : ¬ l.Final .udp (read reply now) := fun h => h rfl ⟨fallback, cut⟩
    simp [Stage.marks?, called, Call.Refused, ← read_eq_answer, hnot]
  | accepted final is_accepted =>
    have hnot : ¬ Unwilling l.query.header.id (read reply now) := fun h => by
      rw [h.accepted?] at is_accepted
      cases is_accepted
    simp [Stage.marks?, called, Call.Refused, ← read_eq_answer, hnot]
  | failed final is_failure =>
    have hnot := not_unwilling_of_failure? is_failure
    simp [Stage.marks?, called, Call.Refused, ← read_eq_answer, hnot]
  | refused final unwilling =>
    simp [Stage.marks?, called, Call.Refused, ← read_eq_answer, final, unwilling]
  | _ => simp [Stage.marks?, called]

/-- Who is known to lack recursion, or about to be marked, was known before or has refused. -/
def Knows (l : Lookup) (marked : List Endpoint) (s : Shared) (calls : List Call)
    (stage : Stage) : Prop :=
  ∀ x, (x ∈ s.nonRecursive ∨ stage.marks? = some x) ↔
    x ∈ marked ∨ ∃ c ∈ calls, c.server = x ∧ c.Refused l

variable {l s stage} in
theorem Knows.step {marked : List Endpoint} {calls : List Call}
    (h : l.Knows marked s calls stage) :
    l.Knows marked (l.step now reply s stage).1 (calls ++ l.called now reply stage)
      (l.step now reply s stage).2 := by
  intro x
  -- who was about to be marked is known now, and who refuses now is about to be marked
  rw [mem_nonRecursive_step, marks?_step, h x]
  simp only [List.mem_append, or_and_right, exists_or, or_assoc]

/-- **Refusals.** A lookup adds the servers that refuse to those known to lack recursion. -/
theorem mem_nonRecursive_run (link : Link σ) (w : σ) :
    x ∈ (l.run link s w .asked).shared.nonRecursive ↔
      x ∈ s.nonRecursive ∨
        ∃ c ∈ (l.run link.noting s (w, []) .asked).world.2, c.server = x ∧ c.Refused l := by
  have hstart : l.Knows s.nonRecursive s [] .asked := by simp [Knows, Stage.marks?]
  have hended := l.run_keeps link (fun now reply _ _ _ => Knows.step now reply) s (w, []) .asked
    hstart x
  rw [← (l.run_noting link s w .asked []).1, ← hended]
  simp [Stage.marks?]

end Lookup

end StubResolver.Resolver
