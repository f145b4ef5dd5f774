import StubResolver.Proofs.Decoder.Truncation
import StubResolver.Proofs.Message.Reading

/-!
# Octets behind a message, and messages that are cut

No reading that succeeds has looked at where the message ends, so octets behind a message change
nothing. The wire form of a message is no longer than it has to be: a strict prefix of it ends
within some label, field or payload, and the reading fails there, for the message's sake.
-/

namespace StubResolver

open Decoder

variable {message : Array UInt8} {pos n : Nat}

/-! ## Names -/

namespace Name

variable (read : List Label) (visited : Targets) (resume : Option Nat)

theorem readFrom_at_end (h : message.size ≤ pos) :
    readFrom message pos read visited resume = .error (.unexpectedEnd pos) := by
  rw [readFrom, dif_neg (Nat.not_lt.2 h)]

theorem readFrom_label_short {length : UInt8} (hlength : message[pos]? = some length)
    (hpos : 1 ≤ length.toNat) (hle : length.toNat ≤ 63)
    (hstop : message.size < pos + 1 + length.toNat) :
    readFrom message pos read visited resume =
      .error (.unexpectedEnd (pos + 1 + length.toNat)) := by
  obtain ⟨hlt, rfl⟩ := Array.getElem?_eq_some_iff.1 hlength
  rw [readFrom, dif_pos hlt, dif_neg (by omega), dif_pos (by omega), dif_neg (Nat.not_le.2 hstop)]

/-- Labels that are cut end early, within a label or where its length would stand. -/
theorem readFrom_cut {ls : List Label} (hne : ∀ l ∈ ls, l.octets ≠ [])
    (hcount : read.length + ls.length ≤ 128)
    (h : Cut message pos (ls.flatMap Label.toWire ++ [0]) n) :
    ∃ offset, readFrom message pos read visited resume = .error (.unexpectedEnd offset) := by
  induction ls generalizing read pos n with
  | nil =>
    have hsize : message.size < pos + 1 := h.size_lt
    exact ⟨pos, readFrom_at_end read visited resume (by omega)⟩
  | cons l ls ih =>
    rw [List.length_cons] at hcount
    have hle := l.length_le
    have hpos := List.length_pos_iff.2 (hne l (List.mem_cons_self ..))
    have hnat := l.toNat_length
    rw [List.flatMap_cons, List.append_assoc, Label.toWire] at h
    -- either the length of this label or some octet of it is missing, or it is read
    rcases h.append_cases with hcut | ⟨hstands, k, hrest⟩
    · have hsize := hcut.size_lt
      rw [List.length_cons] at hsize
      obtain ⟨_, hstands, hend⟩ := hcut
      cases n with
      | zero => exact ⟨pos, readFrom_at_end read visited resume (by omega)⟩
      | succ n =>
        rw [List.take_succ_cons] at hstands
        obtain ⟨hlength, _⟩ := Stands.cons_iff.1 hstands
        exact ⟨_, readFrom_label_short read visited resume hlength (by omega) (by omega) (by omega)⟩
    · obtain ⟨hlength, hoctets⟩ := Stands.cons_iff.1 hstands
      have hstop := hoctets.le_size
      obtain ⟨label, -, hstep⟩ := readFrom_label read resume visited hlength (by omega)
        (by omega) (by omega) (by omega)
      rw [List.length_cons, Nat.add_comm _ 1, ← Nat.add_assoc, ← hnat] at hrest
      rw [hstep]
      exact ih (label :: read) (fun x hx => hne x (List.mem_cons_of_mem _ hx))
        (by rw [List.length_cons]; omega) hrest

theorem breaks_toWire (m : Name) : decode.Breaks m.toWire := by
  intro message pos n h
  have hcount : 0 + m.labels.reverse.length ≤ 128 := by
    rw [Nat.zero_add, List.length_reverse, length_labels]
    exact m.count_le
  obtain ⟨offset, herror⟩ := readFrom_cut [] .empty none
    (fun l hl => labels_ne_nil l (List.mem_reverse.1 hl)) hcount h
  refine ⟨.unexpectedEnd offset, pos, ?_, rfl⟩
  unfold decode
  rw [readAt_eq_error_iff.2 herror]

end Name

/-! ## Headers, questions and records -/

theorem Header.breaks_toWire (h : Header) : decode.Breaks h.toWire := by
  intro message pos n hcut
  have hsize : message.size < pos + size := hcut.size_lt
  have hleft : Decoder.remaining message pos = .ok (message.size - pos) pos := rfl
  refine .of_bind hleft ?_
  rw [if_pos (show message.size - pos < size by have := hcut.size_eq; omega)]
  exact ⟨_, pos, rfl, rfl⟩

theorem Question.breaks_toWire (q : Question) : decode.Breaks q.toWire := by
  unfold decode toWire
  rw [List.append_assoc]
  exact .bind q.name.restores_toWire q.name.breaks_toWire <|
    .bind (.word16 _) (.word16 _) <| .bind_end (.word16 _)

/-- A payload of a length that fits is missed where it is cut. -/
theorem Record.breaks_toWire {r : Record} (hlen : r.rdata.wireLength ≤ 65535) :
    decode.Breaks r.toWire := by
  have hfield := EdnsOption.lengthField_toNat hlen
  unfold decode toWire
  simp only [List.append_assoc]
  refine .bind r.name.restores_toWire r.name.breaks_toWire <| .bind (.word16 _) (.word16 _) <|
    .bind (.word16 _) (.word16 _) <| .bind (.word32 _) (.word32 _) <|
    .bind (.word16 _) (.word16 _) ?_
  refine .bind_silent fun message start => ⟨start, rfl, .bind_silent fun message _ =>
    ⟨message.size, rfl, ?_⟩⟩
  rw [hfield, ← RData.length_toWire]
  exact .bind_end (.takeOr rfl)

/-! ## Messages -/

namespace Message

variable {m : Message}

theorem Writable.breaks_section (h : m.Writable) {rs : List Record} {n : Nat} (hn : n = rs.length)
    (hrs : rs ⊆ m.records) : (Record.decode.times n).Breaks (rs.flatMap Record.toWire) :=
  .times hn (fun r hr => (h.faithful r (hrs hr)).restores_toWire (h.fits r (hrs hr)))
    fun r hr => Record.breaks_toWire (h.fits r (hrs hr))

/-- **Cuts.** Wherever the wire form of a writable message is cut, the reading fails. -/
theorem Writable.breaks_toWire (h : m.Writable) : decode.Breaks m.toWire := by
  unfold decode toWire records
  simp only [List.flatMap_append, List.append_assoc]
  exact .bind (Header.restores_toWire h.flags) m.header.breaks_toWire <|
    .bind (.times h.questionCount fun q _ => q.restores_toWire)
      (.times h.questionCount (fun q _ => q.restores_toWire) fun q _ => q.breaks_toWire) <|
    .bind (h.restores_section h.answerCount m.answers_subset)
      (h.breaks_section h.answerCount m.answers_subset) <|
    .bind (h.restores_section h.authorityCount m.authority_subset)
      (h.breaks_section h.authorityCount m.authority_subset) <|
    .bind_end (h.breaks_section h.additionalCount m.additional_subset)

theorem Writable.malformed_of_cut (h : m.Writable) {p : Octets} (hp : p <+: m.toWire)
    (hne : p ≠ m.toWire) (time : Int64) :
    ∃ e, ofWire p time = .error e ∧ e.isMalformed = true := by
  obtain ⟨e, next, hread, he⟩ := h.breaks_toWire _ _ _ (Cut.of_isPrefix hp hne)
  refine ⟨e, ?_, he⟩
  unfold ofWire ofArray valueAt
  rw [hread]
  rfl

theorem ofWire_append {w : Octets} {time : Int64} (h : ofWire w time = .ok m) (rest : Octets) :
    ofWire (w ++ rest) time = .ok m := by
  obtain ⟨read, next, hread, rfl⟩ := ofWire_eq_ok_iff.1 h
  refine ofWire_eq_ok_iff.2 ⟨read, next, ?_, rfl⟩
  rw [← List.append_toArray]
  exact decode_extend hread rest.toArray

/-- **Prefixes.** Octets behind a message that is read do not change it, and what comes before the
end of a message that was made here, with defined flags and faithful records, is malformed. -/
theorem ofWire_append_and_cut :
    (∀ (w rest : Octets) (time : Int64) (m : Message),
      ofWire w time = .ok m → ofWire (w ++ rest) time = .ok m) ∧
    ∀ m : Message, m.Built → m.header.FlagsDefined → (∀ r ∈ m.records, r.Faithful) →
      ∀ (p : Octets) (time : Int64), p <+: m.toWire → p ≠ m.toWire →
        ∃ e, ofWire p time = .error e ∧ e.isMalformed = true :=
  ⟨fun _ rest _ _ h => ofWire_append h rest, fun _ hbuilt hflags hrecords _ time hp hne =>
    (hbuilt.writable hflags hrecords).malformed_of_cut hp hne time⟩

/-- A query for the name servers of the root. -/
def rootProbe : Message :=
  query 0x1234 (.ofName .root (.known .ns)) 1232

/-- The query is read in front of another octet, and not without its last seven. -/
theorem rootProbe_append_and_cut :
    ofWire (rootProbe.toWire ++ [0xFF]) 5 = .ok (rootProbe.received 5) ∧
      ∃ e, ofWire (rootProbe.toWire.take 21) 5 = .error e ∧ e.isMalformed = true := by
  have hbuilt : rootProbe.Built := .inr ⟨_, _, _, rfl⟩
  have hflags : rootProbe.header.FlagsDefined := by decide
  have hrecords : ∀ r ∈ rootProbe.records, r.Faithful := by
    intro r hr
    obtain rfl : r = (Edns.ofSize 1232).toRecord := by
      simpa [records, rootProbe, query, counted] using hr
    exact ⟨rfl, trivial⟩
  have hread := (hbuilt.writable hflags hrecords).ofWire_toWire 5
  exact ⟨ofWire_append_and_cut.1 _ [0xFF] 5 _ hread, ofWire_append_and_cut.2 rootProbe hbuilt
    hflags hrecords _ 5 (List.take_prefix 21 _) (by decide)⟩

end Message

end StubResolver
