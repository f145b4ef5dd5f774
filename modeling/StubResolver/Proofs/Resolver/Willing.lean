import StubResolver.Proofs.Cache.Entries
import StubResolver.Proofs.Resolver.Transitions

/-!
# Responses from servers with recursion

A lookup takes its response from a server after a look at the flag, or from the cache. So if all
responses from servers with recursion have a property, and all in the cache, then one step stores
none without it (`only_step`) and brings up none without it (`Stage.Brings.step`).
-/

namespace StubResolver

/-- All responses in the cache have a property. -/
def Cache.Only (good : Message → Prop) (c : Cache) : Prop :=
  ∀ e ∈ c.entries, good e.2.response

namespace Resolver

/-- A response came from a server with recursion. -/
def Willing (response : Message) : Prop :=
  response.header.recursionAvailable = true

/-- A response that is to be stored or is the result has a property. -/
def Stage.Brings (good : Message → Prop) : Stage → Prop
  | .storing response | .finished (.ok response) => good response
  | _ => True

variable {good : Message → Prop} {s : Shared} {stage : Stage}

/-- **Responses.** One step brings up none without the property. -/
theorem Stage.Brings.step (h : stage.Brings good) (willing : ∀ r, Willing r → good r)
    (hs : s.cache.Only good) (l : Lookup) (now : Int64) (reply : Except ResolverError Octets) :
    (l.step now reply s stage).2.Brings good := by
  have hnext := l.step_next s now reply stage
  generalize (l.step now reply s stage).2 = stage' at hnext
  cases hnext with
  | hit found =>
    obtain ⟨hmem, _⟩ := Cache.get_response? found
    exact hs _ hmem
  | accepted _ is_accepted => exact willing _ (accepted?_eq_some_iff.1 is_accepted).2.2
  | stored => exact h
  | ended => exact h
  | _ => trivial

/-- **Entries.** One step stores no response without the property. -/
theorem only_step (hs : s.cache.Only good) (h : stage.Brings good) (l : Lookup) (now : Int64)
    (reply : Except ResolverError Octets) : (l.step now reply s stage).1.cache.Only good := by
  intro e he
  rw [Lookup.step_cache] at he
  split at he
  · exact hs e (Cache.mem_get he)
  · split at he
    · rcases Cache.mem_put he with ⟨rfl, _⟩ | he
      · exact h
      · exact hs e he
    · exact hs e he
  · exact hs e he

end Resolver

end StubResolver
