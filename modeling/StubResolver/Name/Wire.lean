import StubResolver.Decoder
import StubResolver.Name.Basic
import StubResolver.Name.Targets

/-!
# Names on the wire

A name on the wire is a run of labels that ends at the root or in a pointer to another place of
the message, where it goes on. A pointer target that comes up twice means a cycle.

The reading ends because each pointer followed leaves fewer of the 16384 targets, and between two
pointers the position moves on.
-/

namespace StubResolver.Name

/-- The place that a pointer of two octets leads to. -/
def pointerTarget (high low : UInt8) : Nat :=
  high.toNat % 64 * 256 + low.toNat

theorem pointerTarget_lt (high low : UInt8) : pointerTarget high low < pointerTargets := by
  have := low.toNat_lt
  unfold pointerTarget pointerTargets
  omega

theorem length_extract_le {message : Array UInt8} {pos length : Nat} (h : length < 64) :
    (message.extract pos (pos + length)).toList.length ≤ 63 := by
  simp
  omega

/-- Reads on at `pos`: the labels, root first, and where what follows the name begins. `read` is the
labels so far, `visited` the targets followed, `resume` the place behind the first pointer. -/
def readFrom (message : Array UInt8) (pos : Nat) (read : List Label) (visited : Targets)
    (resume : Option Nat) : Except ProtocolError (List Label × Nat) :=
  if hpos : pos < message.size then
    let octet := message[pos]
    let length := octet.toNat
    if hroot : length = 0 then .ok (read, resume.getD (pos + 1))
    else if hlabel : length < 64 then
      let stop := pos + 1 + length
      if hstop : stop ≤ message.size then
        if read.length = 128 then .error (.tooManyLabels 129)
        else
          let label : Label := ⟨(message.extract (pos + 1) stop).toList, length_extract_le hlabel⟩
          readFrom message stop (label :: read) visited resume
      else .error (.unexpectedEnd stop)
    else if length < 192 then .error (.unsupportedLabelType pos octet)
    else if hlow : pos + 1 < message.size then
      let target := pointerTarget octet message[pos + 1]
      if hseen : visited.contains target then .error (.compressionLoop target)
      else
        have : (visited.insert target).missing < visited.missing :=
          Targets.missing_insert_lt (pointerTarget_lt _ _) (Bool.not_eq_true _ ▸ hseen)
        readFrom message target read (visited.insert target) (resume.or (some (pos + 2)))
    else .error (.unexpectedEnd (pos + 1))
  else .error (.unexpectedEnd pos)
termination_by (visited.missing, message.size - pos)
decreasing_by
  · exact Prod.Lex.right _ (by omega)
  · exact Prod.Lex.left _ _ this

/-- The labels that are read are within the limits if those read so far are. -/
theorem bounds_of_readFrom {message : Array UInt8} {pos next : Nat} {read ls : List Label}
    {visited : Targets} {resume : Option Nat}
    (h : readFrom message pos read visited resume = .ok (ls, next)) (hcount : read.length ≤ 128)
    (hne : ∀ l ∈ read, l.octets ≠ []) : ls.length ≤ 128 ∧ ∀ l ∈ ls, l.octets ≠ [] := by
  fun_induction readFrom message pos read visited resume
  case case1 =>
    cases h
    exact ⟨hcount, hne⟩
  case case3 hroot _ _ hstop hfull label ih =>
    refine ih h (Nat.lt_of_le_of_ne hcount hfull) (List.forall_mem_cons.2 ⟨?_, hne⟩)
    refine List.ne_nil_of_length_pos ?_
    simp [label]
    omega
  case case7 ih => exact ih h hcount hne
  all_goals cases h

/-- The forms of the name at `pos`, and where what follows it begins. -/
def Forms.readAt (message : Array UInt8) (pos : Nat) : Except ProtocolError (Forms × Nat) := do
  let (labels, next) ← readFrom message pos [] .empty none
  return (ofRawLabels labels, next)

theorem Forms.valid_of_readAt {message : Array UInt8} {pos : Nat} {read : Forms × Nat}
    (h : readAt message pos = .ok read) : read.1.Valid := by
  obtain ⟨⟨ls, next⟩, hread, h⟩ := bind_eq_ok_iff.1 h
  cases h
  obtain ⟨hcount, hne⟩ := bounds_of_readFrom hread (Nat.zero_le _) (fun _ hl => nomatch hl)
  exact valid_ofRawLabels hcount hne

/-- A name that was read, and where what follows it begins. -/
structure Reading where
  name : Name
  next : Nat
  deriving Repr

/-- The name at `pos`. -/
def readAt (message : Array UInt8) (pos : Nat) : Except ProtocolError Reading :=
  pmapExcept (fun read valid => ⟨⟨read.1, valid⟩, read.2⟩) (Forms.readAt message pos) fun _ =>
    Forms.valid_of_readAt

/-- The name at the position; where it cannot be read, nothing is consumed. -/
def decode : Decoder Name := fun message pos =>
  match readAt message pos with
  | .ok reading =>
    if reading.next ≤ message.size then .ok reading.name reading.next
    else .error (Decoder.short pos (reading.next - pos)) pos
  | .error e => .error e pos

end StubResolver.Name
