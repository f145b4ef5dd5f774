import StubResolver.Error
import StubResolver.Text.Utf8

/-!
# Text payloads

The payload of a TXT record is a blob of character strings of at most 255 octets, each behind its
length. The boundaries are checked when a payload is received and walked when it is used.
-/

namespace StubResolver

/-- The blob of a TXT record. -/
structure TextStrings where
  blob : Octets
  deriving DecidableEq, Repr

namespace TextStrings

/-- Pieces of 255 octets and a shorter last one. -/
def pieces (s : Octets) : List Octets :=
  if s.isEmpty then []
  else s.take 255 :: pieces (s.drop 255)
termination_by s.length
decreasing_by
  rename_i h
  rw [List.isEmpty_iff] at h
  rw [List.length_drop]
  exact Nat.sub_lt (List.length_pos_iff.2 h) (by decide)

/-- The character strings for one string: its pieces, or a single empty one. -/
def stringsOf (s : Octets) : List Octets :=
  if s.isEmpty then [[]] else pieces s

/-- Character strings behind their lengths. -/
def blobOf (strings : List Octets) : Octets :=
  strings.flatMap fun s => UInt8.ofNat s.length :: s

/-- The payload of strings of any length; longer ones than 255 octets are cut. -/
def ofStrings (strings : List Octets) : TextStrings :=
  ⟨blobOf (strings.flatMap stringsOf)⟩

/-- Whether character strings fill the octets, or else the length of the one that is too long. -/
def check : Octets → Except ProtocolError Unit
  | [] => .ok ()
  | n :: rest =>
    if Octets.atLeast n.toNat rest then check (rest.drop n.toNat)
    else .error (.stringOverrun n.toNat)
termination_by data => data.length

/-- The payload in received octets. -/
def ofOctets (data : Octets) : Except ProtocolError TextStrings := do
  check data
  return ⟨data⟩

/-- The character strings at the front of some octets, up to the first that is too long. -/
def segmentsOf : Octets → List Octets
  | [] => []
  | n :: rest =>
    if Octets.atLeast n.toNat rest then rest.take n.toNat :: segmentsOf (rest.drop n.toNat)
    else []
termination_by data => data.length

/-- The character strings. -/
def segments (t : TextStrings) : List Octets :=
  segmentsOf t.blob

/-- All character strings in one. -/
def characters (t : TextStrings) : Octets :=
  t.segments.flatten

/-- The character strings as text, with slashes between. -/
def text (t : TextStrings) : String :=
  " / ".intercalate (t.segments.map Utf8.lossy)

/-- A number below 1000 in three decimal digits. -/
def threeDigits (n : Nat) : List Char :=
  [Nat.digitChar (n / 100), Nat.digitChar (n / 10 % 10), Nat.digitChar (n % 10)]

/-- One octet of a presented string: printable ASCII, or an escape. -/
def presentOctet (b : UInt8) : List Char :=
  if b = 34 ∨ b = 92 then ['\\', Char.ofNat b.toNat]
  else if 32 ≤ b ∧ b ≤ 126 then [Char.ofNat b.toNat]
  else '\\' :: threeDigits b.toNat

/-- A presented string, in quotes. -/
def presentString (s : Octets) : List Char :=
  '"' :: s.flatMap presentOctet ++ ['"']

/-- Presented strings with spaces between. -/
def presentStrings (strings : List Octets) : List Char :=
  List.intercalate [' '] (strings.map presentString)

/-- The presentation of a payload. -/
def toText (t : TextStrings) : String :=
  String.ofList (presentStrings t.segments)

end TextStrings

end StubResolver
