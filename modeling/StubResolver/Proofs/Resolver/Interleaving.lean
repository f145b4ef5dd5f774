import StubResolver.Resolver.Run

/-!
# Lookups side by side

A system is what lookups share, and the lookups with the stages they have come to. It changes when
a lookup starts, when one takes a step, and when something outside changes what is shared. The
steps of the lookups come in any order; clock readings and replies may be any.

1. What every step keeps holds of all reachable systems (`Reachable.invariant`).
2. Running a lookup to its end is one order among these (`Reachable.run`, `Reachable.ask`).
-/

namespace StubResolver.Resolver

/-- The next step of a lookup, at a clock reading and with a reply, which only some steps need. -/
def Lookup.step (l : Lookup) (now : Int64) (reply : Except ResolverError Octets) (s : Shared)
    (stage : Stage) : Shared × Stage :=
  match stage with
  | .asked => l.begin now s
  | .seeking servers last => seek s servers last
  | .awaiting transport server rest last =>
    l.receive s transport server rest last (read reply now)
  | .marking server rest last => mark s server rest last
  | .storing response => l.store s response
  | .finished result => (s, .finished result)

/-- Lookups over what they share. -/
structure System where
  shared : Shared
  lookups : List (Lookup × Stage)

section System

variable {starts : Lookup → Prop} {outside : Shared → Shared → Prop} {s₀ : Shared}

/-- One step of a system in which some lookups may start, and the shared state may change from
outside in some ways. -/
inductive Step (starts : Lookup → Prop) (outside : Shared → Shared → Prop) :
    System → System → Prop
  | start {s : Shared} {lookups : List (Lookup × Stage)} {l : Lookup} (h : starts l) :
    Step starts outside ⟨s, lookups⟩ ⟨s, (l, .asked) :: lookups⟩
  | advance (s : Shared) (before : List (Lookup × Stage)) (l : Lookup) (stage : Stage)
      (after : List (Lookup × Stage)) (now : Int64) (reply : Except ResolverError Octets) :
    Step starts outside ⟨s, before ++ (l, stage) :: after⟩
      ⟨(l.step now reply s stage).1, before ++ (l, (l.step now reply s stage).2) :: after⟩
  | disturb {s s' : Shared} {lookups : List (Lookup × Stage)} (h : outside s s') :
    Step starts outside ⟨s, lookups⟩ ⟨s', lookups⟩

/-- A system comes about by steps, from a shared state without any lookup. -/
inductive Reachable (starts : Lookup → Prop) (outside : Shared → Shared → Prop) (s₀ : Shared) :
    System → Prop
  | initial : Reachable starts outside s₀ ⟨s₀, []⟩
  | step {y y' : System} (h : Reachable starts outside s₀ y) (next : Step starts outside y y') :
    Reachable starts outside s₀ y'

/-- **Invariants.** What holds of the shared state at first, and what holds of every lookup when it
starts, holds forever if steps keep it and nothing outside breaks it. -/
theorem Reachable.invariant {inv : Shared → Prop} {good : Lookup → Stage → Prop}
    (init : inv s₀) (start : ∀ l, starts l → good l .asked)
    (keep : ∀ l now reply s stage, inv s → good l stage →
      inv (l.step now reply s stage).1 ∧ good l (l.step now reply s stage).2)
    (steady : ∀ s s', outside s s' → inv s → inv s') {y : System}
    (h : Reachable starts outside s₀ y) : inv y.shared ∧ ∀ p ∈ y.lookups, good p.1 p.2 := by
  induction h with
  | initial => exact ⟨init, fun _ h => nomatch h⟩
  | step _ next ih =>
    obtain ⟨hinv, hgood⟩ := ih
    cases next with
    | start hl => exact ⟨hinv, List.forall_mem_cons.2 ⟨start _ hl, hgood⟩⟩
    | disturb hs => exact ⟨steady _ _ hs hinv, hgood⟩
    | advance s before l stage after now reply =>
      obtain ⟨hbefore, hrest⟩ := List.forall_mem_append.1 hgood
      obtain ⟨hl, hafter⟩ := List.forall_mem_cons.1 hrest
      obtain ⟨hinv', hl'⟩ := keep l now reply s stage hinv hl
      exact ⟨hinv', List.forall_mem_append.2 ⟨hbefore, List.forall_mem_cons.2 ⟨hl', hafter⟩⟩⟩

/-- A lookup may take all its steps while the others wait. -/
theorem Reachable.run {σ : Type} (l : Lookup) (link : Link σ) (s : Shared) (w : σ) (stage : Stage)
    {before after : List (Lookup × Stage)}
    (h : Reachable starts outside s₀ ⟨s, before ++ (l, stage) :: after⟩) :
    Reachable starts outside s₀ ⟨(l.run link s w stage).shared,
      before ++ (l, .finished (l.run link s w stage).result) :: after⟩ := by
  induction s, w, stage using Lookup.run.induct l link with
  | case1 s w result =>
    rw [Lookup.run]
    exact h
  | case2 s w now w' hn this next ih =>
    rw [Lookup.run]
    simp only [hn]
    exact ih (h.step (.advance s before l .asked after now (.error .timeout)))
  | case3 s w servers last this next ih =>
    rw [Lookup.run]
    exact ih (h.step (.advance s before l (.seeking servers last) after 0 (.error .timeout)))
  | case4 s w transport server rest last reply w' hr now w'' hn this next ih =>
    rw [Lookup.run]
    simp only [hr, hn]
    exact ih (h.step (.advance s before l (.awaiting transport server rest last) after now reply))
  | case5 s w server rest last this next ih =>
    rw [Lookup.run]
    exact ih (h.step (.advance s before l (.marking server rest last) after 0 (.error .timeout)))
  | case6 s w response this next ih =>
    rw [Lookup.run]
    exact ih (h.step (.advance s before l (.storing response) after 0 (.error .timeout)))

/-- Asking one question after another is a way of reaching systems. -/
theorem Reachable.ask {σ : Type} {settings : Settings} {link : Link σ} {s : Shared} {w : σ}
    {q : Question} {lookups : List (Lookup × Stage)} (h : Reachable starts outside s₀ ⟨s, lookups⟩)
    (hq : starts (.ofQuestion settings (link.id w).1 q)) :
    Reachable starts outside s₀ ⟨(ask settings link s w q).shared,
      (.ofQuestion settings (link.id w).1 q, .finished (ask settings link s w q).result) ::
        lookups⟩ := by
  let l := Lookup.ofQuestion settings (link.id w).1 q
  have hstart : Reachable starts outside s₀ ⟨s, [] ++ (l, .asked) :: lookups⟩ :=
    h.step (.start hq)
  exact hstart.run l link s (link.id w).2 .asked

end System

end StubResolver.Resolver
