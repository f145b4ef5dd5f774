import StubResolver.Name.Text
import StubResolver.Resolver.Lookup

/-!
# Running lookups

A link to the world gives ids and clock readings and carries exchanges. Over it a lookup runs from
its first step to its result.
-/

namespace StubResolver.Resolver

/-- What a lookup needs of a world with states `σ`. -/
structure Link (σ : Type) where
  /-- A fresh query id. -/
  id : σ → UInt16 × σ
  /-- The time in milliseconds since 1970. -/
  now : σ → Int64 × σ
  /-- The reply of a server to a query. -/
  exchange : Transport → Endpoint → Octets → σ → Except ResolverError Octets × σ

/-- What is left when a lookup is over. -/
structure Outcome (σ α : Type) where
  shared : Shared
  world : σ
  result : Except ResolverError α

variable {σ α : Type}

namespace Lookup

/-- Runs a lookup from a stage to its end. -/
def run (l : Lookup) (link : Link σ) (s : Shared) (w : σ) (stage : Stage) :
    Outcome σ Message :=
  match stage with
  | .finished result => ⟨s, w, result⟩
  | .asked =>
    let (now, w) := link.now w
    have := l.stepsLeft_begin_lt now s
    let next := l.begin now s
    run l link next.1 w next.2
  | .seeking servers last =>
    have := l.stepsLeft_seek_lt s servers last
    let next := seek s servers last
    run l link next.1 w next.2
  | .awaiting transport server rest last =>
    let (reply, w) := link.exchange transport server l.query.toWire w
    let (now, w) := link.now w
    have := l.stepsLeft_receive_lt s transport server rest last (read reply now)
    let next := l.receive s transport server rest last (read reply now)
    run l link next.1 w next.2
  | .marking server rest last =>
    have := l.stepsLeft_mark_lt s server rest last
    let next := mark s server rest last
    run l link next.1 w next.2
  | .storing response =>
    have := l.stepsLeft_store_lt s response
    let next := l.store s response
    run l link next.1 w next.2
termination_by l.stepsLeft stage

end Lookup

/-- Asks a question. -/
def ask (settings : Settings) (link : Link σ) (s : Shared) (w : σ) (question : Question) :
    Outcome σ Message :=
  let (id, w) := link.id w
  (Lookup.ofQuestion settings id question).run link s w .asked

/-- Asks for the records of a type under a name. -/
def query (settings : Settings) (link : Link σ) (s : Shared) (w : σ) (name : String)
    (type : TypeCode) : Outcome σ Message :=
  match Name.ofText name with
  | .ok name => ask settings link s w (.ofName name type)
  | .error e => ⟨s, w, .error (.protocol e)⟩

end StubResolver.Resolver
