import StubResolver.Cache.Key
import StubResolver.Proofs.Message.RoundTrip

/-!
# Keys give questions away

The wire form of a query is read back, so the key of a query determines its question and payload
size as these are read back. For a regular question that is the question itself, in lower case; and
lower case is all that a key sees of a name.
-/

namespace StubResolver

/-- The same questions have the same answers. -/
theorem Record.isAnswer_of_same (r : Record) {q q' : Question} (h : q.same q' = true) :
    r.isAnswer q = r.isAnswer q' := by
  obtain ⟨hname, htype, hclass, -⟩ := Question.same_iff.1 h
  rw [Name.same_iff] at hname
  unfold isAnswer Name.same
  rw [hname, htype, hclass]

theorem Message.writable_query (id : UInt16) (q : Question) (size : UInt16) :
    (query id q size).Writable := by
  have hflags : ((Header.ofId 0).setFlag .rd true).FlagsDefined := by decide
  refine Built.writable (.inr ⟨id, q, size, rfl⟩) hflags ?_
  intro r hr
  obtain rfl := List.mem_singleton.1 (records_query id q size ▸ hr)
  exact ⟨rfl, trivial⟩

namespace CacheKey

variable {id id' size size' : UInt16} {q q' : Question}

/-- Queries with one key are read back alike. -/
theorem received_eq_of_ofQuery_eq (h : ofQuery (.query id q size) = ofQuery (.query id' q' size')) :
    (Message.query 0 q size).received 0 = (Message.query 0 q' size').received 0 := by
  have hwire : (Message.query 0 q size).toWire = (Message.query 0 q' size').toWire :=
    congrArg wire h
  have hread := (Message.writable_query 0 q size).ofWire_toWire 0
  rw [hwire, (Message.writable_query 0 q' size').ofWire_toWire 0, Except.ok.injEq] at hread
  exact hread.symm

/-- **Keys are injective.** Regular questions under one key are the same. -/
theorem same_of_ofQuery_eq (hq : q.Regular) (hq' : q'.Regular)
    (h : ofQuery (.query id q size) = ofQuery (.query id' q' size')) : q.same q' = true := by
  have hquestions := congrArg Message.questions (received_eq_of_ofQuery_eq h)
  exact hq.same_of_received_eq hq' (List.singleton_inj.1 hquestions)

/-- The payload size is the class field of the OPT record, and no record loses that. -/
theorem size_eq_of_ofQuery_eq (h : ofQuery (.query id q size) = ofQuery (.query id' q' size')) :
    size = size' := by
  have hadditional := congrArg Message.additional (received_eq_of_ofQuery_eq h)
  exact congrArg Record.classField (List.singleton_inj.1 hadditional)

/-- Neither the id nor the case of letters makes a difference. -/
theorem ofQuery_eq_of_same (h : q.same q' = true) :
    ofQuery (.query id q size) = ofQuery (.query id' q' size) := by
  obtain ⟨hname, htype, hclass, hunicast⟩ := Question.same_iff.1 h
  have hfield : q.classField = q'.classField := by
    unfold Question.classField
    rw [hclass, hunicast]
  have hagrees : q.Agrees q' := ⟨hname, congrArg TypeCode.code htype, hfield⟩
  refine eq_of_wire_eq ?_
  show (Message.query 0 q size).toWire = (Message.query 0 q' size).toWire
  unfold Message.toWire
  show _ ++ [q].flatMap Question.toWire ++ _ = _ ++ [q'].flatMap Question.toWire ++ _
  rw [List.flatMap_singleton, List.flatMap_singleton, hagrees.toWire_eq]
  rfl

/-- **What a key tells apart.** Queries for regular questions have one key exactly if the questions
are the same and the payload sizes are. -/
theorem ofQuery_query_eq_iff (hq : q.Regular) (hq' : q'.Regular) :
    ofQuery (.query id q size) = ofQuery (.query id' q' size') ↔
      q.same q' = true ∧ size = size' := by
  constructor
  · intro h
    exact ⟨same_of_ofQuery_eq hq hq' h, size_eq_of_ofQuery_eq h⟩
  · rintro ⟨h, rfl⟩
    exact ofQuery_eq_of_same h

/-- The name `a.b`, once with upper-case letters, and a name whose one label holds the octets that
the wire form of `a.b` has between its ends. -/
theorem ofQuery_query_eq_iff_dotted :
    let two := Question.ofName
      (.ofLabels [⟨[98], by decide⟩, ⟨[97], by decide⟩] (by decide) (by decide)) (.known .a)
    let upper := Question.ofName
      (.ofLabels [⟨[66], by decide⟩, ⟨[65], by decide⟩] (by decide) (by decide)) (.known .a)
    let one := Question.ofName
      (.ofLabels [⟨[97, 1, 98], by decide⟩] (by decide) (by decide)) (.known .a)
    (two.Regular ∧ upper.Regular ∧ one.Regular) ∧
      ofQuery (.query 7 two 512) = ofQuery (.query 8 upper 512) ∧
      ofQuery (.query 7 two 512) ≠ ofQuery (.query 8 upper 1024) ∧
      ofQuery (.query 7 two 512) ≠ ofQuery (.query 7 one 512) := by
  intro two upper one
  have htwo : two.Regular := ⟨by decide, by decide⟩
  have hupper : upper.Regular := ⟨by decide, by decide⟩
  have hone : one.Regular := ⟨by decide, by decide⟩
  refine ⟨⟨htwo, hupper, hone⟩, (ofQuery_query_eq_iff htwo hupper).2 ⟨by decide, rfl⟩, ?_, ?_⟩
  · intro h
    obtain ⟨_, hsize⟩ := (ofQuery_query_eq_iff htwo hupper).1 h
    exact absurd hsize (by decide)
  · intro h
    obtain ⟨hsame, _⟩ := (ofQuery_query_eq_iff htwo hone).1 h
    exact absurd hsame (by decide)

end CacheKey

end StubResolver
