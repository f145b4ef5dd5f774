import StubResolver.Error

/-!
# Reading a message

A decoder reads a whole message from a position on and leaves the position behind what it read.
A failing read names the position it would have had to reach. What a composite decoder consumed
before its failing read stays consumed.
-/

namespace StubResolver

/-- A reading of the message at hand, with the position as state. -/
abbrev Decoder := ReaderT (Array UInt8) (EStateM ProtocolError Nat)

namespace Decoder

variable {α : Type}

/-- What comes of a reading: a value or a failure, and the position behind it. -/
abbrev Outcome (α : Type) := EStateM.Result ProtocolError Nat α

/-- The outcome of reading `message` from `pos` on. -/
def runAt (d : Decoder α) (message : Array UInt8) (pos : Nat) : Outcome α :=
  d message pos

/-- The value read, or the failure, without the position. -/
def valueAt (d : Decoder α) (message : Array UInt8) (pos : Nat) : Except ProtocolError α :=
  match d message pos with
  | .ok a _ => .ok a
  | .error e _ => .error e

/-- The error of a read of `n` octets at `pos` that the message is too short for. -/
def short (pos n : Nat) : ProtocolError :=
  .unexpectedEnd (min (pos + n) ProtocolError.maxOffset)

/-- The next `n` octets; if they are not there, the failure `e`, and nothing is consumed. -/
def takeOr (n : Nat) (e : ProtocolError) : Decoder Octets := fun message pos =>
  if pos + n ≤ message.size then .ok (message.extract pos (pos + n)).toList (pos + n)
  else .error e pos

/-- The next `n` octets. -/
def take (n : Nat) : Decoder Octets := fun message pos =>
  takeOr n (short pos n) message pos

/-- Passes over `n` octets. -/
def skip (n : Nat) : Decoder Unit :=
  discard (take n)

/-- The next octet. -/
def octet : Decoder UInt8 := fun message pos =>
  if h : pos < message.size then .ok message[pos] (pos + 1)
  else .error (short pos 1) pos

/-- The next two octets, as a word. -/
def word16 : Decoder UInt16 := fun message pos =>
  if h : pos + 2 ≤ message.size then .ok (Octets.word16 message[pos] message[pos + 1]) (pos + 2)
  else .error (short pos 2) pos

/-- The next four octets, as a word. -/
def word32 : Decoder UInt32 := fun message pos =>
  if h : pos + 4 ≤ message.size then
    .ok (Octets.word32 message[pos] message[pos + 1] message[pos + 2] message[pos + 3]) (pos + 4)
  else .error (short pos 4) pos

/-- Where the reading stands. -/
def position : Decoder Nat := fun _ pos =>
  .ok pos pos

/-- How many octets the whole message has. -/
def messageSize : Decoder Nat := fun message pos =>
  .ok message.size pos

/-- How many octets are left. -/
def remaining : Decoder Nat := fun message pos =>
  .ok (message.size - pos) pos

/-- A value, or the failure with its error; nothing is consumed. -/
def ofExcept : Except ProtocolError α → Decoder α
  | .ok a => pure a
  | .error e => throw e

/-- `n` values in a row, onto those of `done`, which has the last one first. -/
def timesOnto (d : Decoder α) : Nat → List α → Decoder (List α)
  | 0, done => pure done.reverse
  | n + 1, done => do timesOnto d n ((← d) :: done)

/-- `n` values in a row. -/
def times (n : Nat) (d : Decoder α) : Decoder (List α) :=
  timesOnto d n []

end Decoder

end StubResolver
