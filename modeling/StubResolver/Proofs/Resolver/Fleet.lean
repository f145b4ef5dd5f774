import Mathlib.Logic.Function.Basic
import StubResolver.Proofs.Resolver.Transitions

/-!
# Resolvers side by side

Resolvers share the servers known to lack recursion, the counters and the log, and each has a cache
of its own. A schedule says what happens first, second and so on: a resolver starts a lookup, one of
the lookups takes a step, or a server is marked from outside. It may be any.

1. A lookup was there before an act, or is started by it, or takes a step in it (`job_act`).
2. What every step keeps holds of all lookups and caches after any number of acts (`invariant`).
3. A lookup stays where it was or comes nearer to its end (`job_later`), so it comes to each place
   in the list of servers once.
-/

namespace StubResolver.Resolver

theorem Lookup.stepsLeft_step_le (l : Lookup) (now : Int64) (reply : Except ResolverError Octets)
    (s : Shared) (stage : Stage) :
    l.stepsLeft (l.step now reply s stage).2 ≤ l.stepsLeft stage := by
  cases stage with
  | asked => exact Nat.le_of_lt (l.stepsLeft_begin_lt now s)
  | seeking servers last => exact Nat.le_of_lt (l.stepsLeft_seek_lt s servers last)
  | awaiting transport server rest last => exact Nat.le_of_lt (l.stepsLeft_receive_lt s ..)
  | marking server rest last => exact Nat.le_of_lt (l.stepsLeft_mark_lt s server rest last)
  | storing response => exact Nat.le_of_lt (l.stepsLeft_store_lt s response)
  | finished result => exact Nat.le_refl _

/-- A lookup of one of several resolvers, and the stage it has come to. -/
structure Job (ι : Type) where
  resolver : ι
  lookup : Lookup
  stage : Stage

/-- Resolvers and their lookups, the one started last at the end. -/
structure Fleet (ι : Type) where
  caches : ι → Cache
  nonRecursive : List Endpoint
  metrics : Metrics
  log : List Event
  jobs : List (Job ι)

/-- What can happen to resolvers. A step of a lookup has a clock reading and a reply, which only
some steps need. -/
inductive Act (ι : Type) where
  | start (resolver : ι) (lookup : Lookup)
  | advance (k : Nat) (now : Int64) (reply : Except ResolverError Octets)
  | mark (server : Endpoint)

namespace Fleet

variable {ι : Type}

/-- Resolvers without lookups. -/
def idle (caches : ι → Cache) (marked : List Endpoint) (metrics : Metrics) (log : List Event) :
    Fleet ι :=
  ⟨caches, marked, metrics, log, []⟩

/-- What the lookups of one resolver share. -/
def shared (y : Fleet ι) (i : ι) : Shared :=
  ⟨y.caches i, y.nonRecursive, y.metrics, y.log⟩

variable [DecidableEq ι]

/-- One of the lookups takes a step. -/
def advance (y : Fleet ι) (k : Nat) (now : Int64) (reply : Except ResolverError Octets) :
    Fleet ι :=
  match y.jobs[k]? with
  | none => y
  | some job =>
    let (s, stage) := job.lookup.step now reply (y.shared job.resolver) job.stage
    { caches := Function.update y.caches job.resolver s.cache
      nonRecursive := s.nonRecursive
      metrics := s.metrics
      log := s.log
      jobs := y.jobs.set k { job with stage } }

/-- One thing happens. -/
def act (y : Fleet ι) : Act ι → Fleet ι
  | .start resolver lookup => { y with jobs := y.jobs ++ [⟨resolver, lookup, .asked⟩] }
  | .advance k now reply => y.advance k now reply
  | .mark server =>
    if server ∈ y.nonRecursive then y else { y with nonRecursive := server :: y.nonRecursive }

/-- What has become of resolvers after the first acts of a schedule. -/
def after (y : Fleet ι) (acts : Nat → Act ι) : Nat → Fleet ι
  | 0 => y
  | n + 1 => (y.after acts n).act (acts n)

variable {y : Fleet ι} {acts : Nat → Act ι} {k : Nat} {job job' : Job ι}

theorem advance_of_none (h : y.jobs[k]? = none) (now : Int64)
    (reply : Except ResolverError Octets) : y.advance k now reply = y := by
  unfold advance
  rw [h]

theorem advance_of_some (h : y.jobs[k]? = some job) (now : Int64)
    (reply : Except ResolverError Octets) :
    y.advance k now reply =
      let next := job.lookup.step now reply (y.shared job.resolver) job.stage
      { caches := Function.update y.caches job.resolver next.1.cache
        nonRecursive := next.1.nonRecursive
        metrics := next.1.metrics
        log := next.1.log
        jobs := y.jobs.set k { job with stage := next.2 } } := by
  unfold advance
  rw [h]

/-- Marking from outside touches no lookup and no cache. -/
theorem act_mark_same (y : Fleet ι) (server : Endpoint) :
    (y.act (.mark server)).jobs = y.jobs ∧ (y.act (.mark server)).caches = y.caches := by
  unfold act
  dsimp only
  split <;> exact ⟨rfl, rfl⟩

/-! ## One lookup -/

/-- **Before.** Where a lookup comes from. -/
theorem job_act {a : Act ι} (h : (y.act a).jobs[k]? = some job') :
    y.jobs[k]? = some job' ∨ (∃ i l, job' = ⟨i, l, .asked⟩) ∨
      ∃ job now reply, a = .advance k now reply ∧ y.jobs[k]? = some job ∧
        job' = { job with
          stage := (job.lookup.step now reply (y.shared job.resolver) job.stage).2 } := by
  cases a with
  | start i l =>
    have h' : (y.jobs ++ [⟨i, l, .asked⟩])[k]? = some job' := h
    rw [List.getElem?_append] at h'
    split at h'
    · left
      exact h'
    · right; left
      obtain rfl := List.mem_singleton.1 (List.mem_of_getElem? h')
      exact ⟨i, l, rfl⟩
  | mark server =>
    left
    rwa [(y.act_mark_same server).1] at h
  | advance k' now reply =>
    cases hjob : y.jobs[k']? with
    | none =>
      left
      rwa [act, advance_of_none hjob] at h
    | some job =>
      rw [act, advance_of_some hjob] at h
      by_cases hk : k' = k
      · subst hk
        right; right
        have hlt : k' < y.jobs.length := (List.getElem?_eq_some_iff.1 hjob).1
        rw [List.getElem?_set_self hlt] at h
        exact ⟨job, now, reply, rfl, hjob, (Option.some.inj h).symm⟩
      · left
        rwa [List.getElem?_set_ne hk] at h

/-- **Since.** A lookup is still there after an act, at its stage or one step on. -/
theorem act_job (h : y.jobs[k]? = some job) (a : Act ι) :
    ∃ job', (y.act a).jobs[k]? = some job' ∧ job'.lookup = job.lookup ∧
      job.lookup.stepsLeft job'.stage ≤ job.lookup.stepsLeft job.stage := by
  have hlt : k < y.jobs.length := (List.getElem?_eq_some_iff.1 h).1
  cases a with
  | start i l =>
    refine ⟨job, ?_, rfl, Nat.le_refl _⟩
    show (y.jobs ++ [⟨i, l, .asked⟩])[k]? = some job
    rw [List.getElem?_append_left hlt]
    exact h
  | mark server =>
    refine ⟨job, ?_, rfl, Nat.le_refl _⟩
    rw [(y.act_mark_same server).1]
    exact h
  | advance k' now reply =>
    cases hjob : y.jobs[k']? with
    | none =>
      rw [act, advance_of_none hjob]
      exact ⟨job, h, rfl, Nat.le_refl _⟩
    | some other =>
      rw [act, advance_of_some hjob]
      by_cases hk : k' = k
      · subst hk
        obtain rfl : other = job := Option.some.inj (hjob.symm.trans h)
        exact ⟨_, List.getElem?_set_self hlt, rfl, Lookup.stepsLeft_step_le ..⟩
      · refine ⟨job, ?_, rfl, Nat.le_refl _⟩
        rw [List.getElem?_set_ne hk]
        exact h

/-- A lookup that takes a step goes on to the next stage. -/
theorem act_advance_job (h : y.jobs[k]? = some job) (now : Int64)
    (reply : Except ResolverError Octets) :
    (y.act (.advance k now reply)).jobs[k]? = some { job with
      stage := (job.lookup.step now reply (y.shared job.resolver) job.stage).2 } := by
  rw [act, advance_of_some h]
  exact List.getElem?_set_self (List.getElem?_eq_some_iff.1 h).1

/-- A lookup never goes back. -/
theorem job_later {m n : Nat} (hmn : m ≤ n) (h : (y.after acts m).jobs[k]? = some job) :
    ∃ job', (y.after acts n).jobs[k]? = some job' ∧ job'.lookup = job.lookup ∧
      job.lookup.stepsLeft job'.stage ≤ job.lookup.stepsLeft job.stage := by
  induction hmn with
  | refl => exact ⟨job, h, rfl, Nat.le_refl _⟩
  | @step n _ ih =>
    obtain ⟨job₁, h₁, hl₁, hle₁⟩ := ih
    obtain ⟨job₂, h₂, hl₂, hle₂⟩ := act_job h₁ (acts n)
    rw [hl₁] at hl₂ hle₂
    exact ⟨job₂, h₂, hl₂, Nat.le_trans hle₂ hle₁⟩

/-! ## All lookups and caches -/

section Invariant

variable (holds : ι → Cache → Prop) (good : Job ι → Prop) (start : ∀ i l, good ⟨i, l, .asked⟩)
  (keep : ∀ i l now reply s stage, holds i s.cache → good ⟨i, l, stage⟩ →
    holds i (l.step now reply s stage).1.cache ∧ good ⟨i, l, (l.step now reply s stage).2⟩)

include start keep

theorem invariant_act (hcaches : ∀ i, holds i (y.caches i)) (hjobs : ∀ job ∈ y.jobs, good job)
    (a : Act ι) : (∀ i, holds i ((y.act a).caches i)) ∧ ∀ job ∈ (y.act a).jobs, good job := by
  cases a with
  | start i l =>
    refine ⟨hcaches, fun job hmem => ?_⟩
    rcases List.mem_append.1 hmem with hmem | hmem
    · exact hjobs job hmem
    · rw [List.mem_singleton.1 hmem]
      exact start i l
  | mark server =>
    rw [(y.act_mark_same server).1, (y.act_mark_same server).2]
    exact ⟨hcaches, hjobs⟩
  | advance k now reply =>
    cases hjob : y.jobs[k]? with
    | none =>
      rw [act, advance_of_none hjob]
      exact ⟨hcaches, hjobs⟩
    | some job =>
      rw [act, advance_of_some hjob]
      have hstep := keep job.resolver job.lookup now reply (y.shared job.resolver) job.stage
        (hcaches job.resolver) (hjobs job (List.mem_of_getElem? hjob))
      constructor
      · intro i
        by_cases hi : i = job.resolver
        · subst hi
          simpa using hstep.1
        · simpa [Function.update_of_ne hi] using hcaches i
      · intro job' hmem
        rcases List.mem_or_eq_of_mem_set hmem with hmem | rfl
        · exact hjobs job' hmem
        · exact hstep.2

/-- **Invariants.** What holds of the caches at first and of every lookup when it starts holds
forever if steps keep it. -/
theorem invariant (hcaches : ∀ i, holds i (y.caches i)) (hjobs : ∀ job ∈ y.jobs, good job)
    (n : Nat) :
    (∀ i, holds i ((y.after acts n).caches i)) ∧ ∀ job ∈ (y.after acts n).jobs, good job := by
  induction n with
  | zero => exact ⟨hcaches, hjobs⟩
  | succ n ih => exact invariant_act holds good start keep ih.1 ih.2 (acts n)

end Invariant

end Fleet

end StubResolver.Resolver
