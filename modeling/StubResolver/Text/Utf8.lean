import StubResolver.Octets

/-!
# UTF-8

Octets as text. Reading is a machine fed one octet at a time; where the octets break the syntax
it puts one replacement character for the longest run that could have begun a character.
-/

namespace StubResolver.Utf8

/-- A character begun: the tails it still owes, the bounds of the next, and the bits so far. -/
structure Pending where
  owed : Nat
  low : UInt8
  high : UInt8
  bits : Nat
  deriving DecidableEq, Repr

/-- What octet `b` begins, if it may begin a character of several octets. -/
def begins? (b : UInt8) : Option Pending :=
  if 0xC2 ≤ b ∧ b ≤ 0xDF then some ⟨0, 0x80, 0xBF, b.toNat % 32⟩
  else if b = 0xE0 then some ⟨1, 0xA0, 0xBF, 0⟩
  else if b = 0xED then some ⟨1, 0x80, 0x9F, 13⟩
  else if 0xE1 ≤ b ∧ b ≤ 0xEF then some ⟨1, 0x80, 0xBF, b.toNat % 16⟩
  else if b = 0xF0 then some ⟨2, 0x90, 0xBF, 0⟩
  else if 0xF1 ≤ b ∧ b ≤ 0xF3 then some ⟨2, 0x80, 0xBF, b.toNat % 8⟩
  else if b = 0xF4 then some ⟨2, 0x80, 0x8F, 4⟩
  else none

/-- The machine: characters read so far (last first), the one begun, and whether all was sound. -/
structure State where
  read : List Char
  pending : Option Pending
  sound : Bool
  deriving Repr

/-- The character that stands for octets which are no text. -/
def replacement : Char := Char.ofNat 0xFFFD

namespace State

/-- Nothing read yet. -/
def start : State := ⟨[], none, true⟩

/-- A broken character. -/
def broken (s : State) : State :=
  ⟨replacement :: s.read, none, false⟩

/-- One octet between characters. -/
def first (s : State) (b : UInt8) : State :=
  if b < 0x80 then { s with read := Char.ofNat b.toNat :: s.read, pending := none }
  else match begins? b with
    | some p => { s with pending := some p }
    | none => s.broken

/-- One octet. -/
def feed (s : State) (b : UInt8) : State :=
  match s.pending with
  | none => s.first b
  | some p =>
    if p.low ≤ b ∧ b ≤ p.high then
      let bits := 64 * p.bits + b.toNat % 64
      match p.owed with
      | 0 => { s with read := Char.ofNat bits :: s.read, pending := none }
      | n + 1 => { s with pending := some ⟨n, 0x80, 0xBF, bits⟩ }
    else s.broken.first b

/-- The end of the octets. -/
def finish (s : State) : State :=
  if s.pending.isSome then s.broken else s

end State

/-- The machine after all of `bytes`. -/
def run (bytes : Octets) : State :=
  (bytes.foldl State.feed State.start).finish

/-- The text of `bytes`, broken runs replaced. -/
def lossy (bytes : Octets) : String :=
  String.ofList (run bytes).read.reverse

/-- The text of `bytes`, if they are UTF-8 throughout. -/
def decode? (bytes : Octets) : Option String :=
  if (run bytes).sound then some (lossy bytes) else none

/-- The octets of a text. -/
def encode (text : String) : Octets :=
  text.toList.flatMap String.utf8EncodeChar

/-- How many octets some characters take. -/
def size (cs : List Char) : Nat :=
  cs.foldr (fun c n => c.utf8Size + n) 0

/-- The characters in front that take at most `n` octets, and the others. -/
def splitAt : Nat → List Char → List Char × List Char
  | _, [] => ([], [])
  | n, c :: rest =>
    if n < c.utf8Size then ([], c :: rest)
    else
      let (front, back) := splitAt (n - c.utf8Size) rest
      (c :: front, back)

end StubResolver.Utf8
