import StubResolver.Error
import StubResolver.Text.Utf8

/-!
# Labels

A label is one component of a domain name: at most 63 octets of any value. Its safe text replaces
every octet that could mislead a reader or a terminal by a visible substitute.
-/

namespace StubResolver

/-- A piece of what a hash function is fed with. -/
inductive HashInput where
  | length (n : Nat)
  | octets (bytes : Octets)
  deriving DecidableEq, Repr

/-- Up to 63 octets. -/
structure Label where
  octets : Octets
  length_le : octets.length ≤ 63
  deriving DecidableEq, Repr

namespace Label

/-- The label of some octets. -/
def ofOctets (octets : Octets) : Except ProtocolError Label :=
  if h : octets.length ≤ 63 then .ok ⟨octets, h⟩ else .error (.labelTooLong octets.length)

/-- The octets of characters up to U+00FF, one each; `position` counts the characters before. -/
def octetsOfText (position : Nat) : List Char → Except ProtocolError Octets
  | [] => .ok []
  | c :: cs =>
    if c.toNat < 256 then
      return UInt8.ofNat c.toNat :: (← octetsOfText (position + 1) cs)
    else .error (.invalidLabelCharacter c position)

/-- The label whose octets are the characters of a text. -/
def ofText (text : List Char) : Except ProtocolError Label :=
  octetsOfText 0 text >>= ofOctets

theorem octets_of_ofOctets {octets : Octets} {l : Label} (h : ofOctets octets = .ok l) :
    l.octets = octets := by
  unfold ofOctets at h
  split at h
  · cases h; rfl
  · cases h

theorem length_octetsOfText {position : Nat} {cs : List Char} {octets : Octets}
    (h : octetsOfText position cs = .ok octets) : octets.length = cs.length := by
  induction cs generalizing position octets with
  | nil => cases h; rfl
  | cons c cs ih =>
    unfold octetsOfText at h
    split at h
    · obtain ⟨rest, hrest, h⟩ := bind_eq_ok_iff.1 h
      cases h
      rw [List.length_cons, List.length_cons, ih hrest]
    · cases h

theorem length_of_ofText {cs : List Char} {l : Label} (h : ofText cs = .ok l) :
    l.octets.length = cs.length := by
  obtain ⟨octets, hoctets, h⟩ := bind_eq_ok_iff.1 h
  rw [octets_of_ofOctets h, length_octetsOfText hoctets]

/-- The label with its ASCII letters in lower case. -/
def lower (l : Label) : Label :=
  ⟨l.octets.map Octets.lowerOctet, by simpa using l.length_le⟩

/-- Whether the label has no octets. -/
def isEmpty (l : Label) : Bool :=
  l.octets.isEmpty

/-- An ASCII letter, digit or hyphen. -/
def isLdhOctet (b : UInt8) : Bool :=
  (48 ≤ b && b ≤ 57) || (65 ≤ b && b ≤ 90) || (97 ≤ b && b ≤ 122) || b == 45

/-- Letters, digits and hyphens, and no hyphen at either end. -/
def isLdh (l : Label) : Bool :=
  !l.octets.isEmpty && l.octets.head? != some 45 && l.octets.getLast? != some 45 &&
    l.octets.all isLdhOctet

/-- Hyphens in third and fourth place. -/
def isReservedLdh (l : Label) : Bool :=
  l.isLdh && l.octets[2]? == some 45 && l.octets[3]? == some 45

/-- A reserved label that begins with `xn`, in any case. -/
def isXn (l : Label) : Bool :=
  l.isReservedLdh && (l.octets.take 2).map Octets.lowerOctet == [120, 110]

/-- A label that begins with an underscore. -/
def isUnderscore (l : Label) : Bool :=
  l.octets.head? == some 95

/-- An octet that needs no look at its substitute: a letter, digit, hyphen or underscore. -/
def isPlain (b : UInt8) : Bool :=
  isLdhOctet b || b == 95

/-- The substitute of an octet, or the character itself where it is harmless. -/
def safeOctet (b : UInt8) : List Char :=
  if isPlain b then [Char.ofNat b.toNat]
  else if b = 46 then ['●']
  else if b = 92 then ['⧷']
  else if b = 127 then ['␡']
  else if b = 32 then ['␣']
  else if b < 32 then [Char.ofNat (0x2400 + b.toNat)]
  else if b < 127 then [Char.ofNat b.toNat]
  else '〚' :: Octets.hexPairUpper b ++ ['〛']

/-- The safe characters of a label. A label of plain octets is its own safe text. -/
def safeChars (l : Label) : List Char :=
  if l.octets.all isPlain then l.octets.map fun b => Char.ofNat b.toNat
  else l.octets.flatMap safeOctet

/-- The safe text of a label. -/
def safe (l : Label) : String :=
  String.ofList l.safeChars

/-- The safe text marked as that of a label. -/
def describe (l : Label) : String :=
  "Label(\"" ++ l.safe ++ "\")"

/-- Octet-wise comparison in lower case, a label before its extensions. -/
def compareCanonical (a b : Label) : Ordering :=
  List.compareLex compare a.lower.octets b.lower.octets

/-- What a hash function is fed with: the length, and the octets. -/
def hashInput (l : Label) : List HashInput :=
  [.length l.octets.length, .octets l.octets]

/-- The length octet and the octets. -/
def toWire (l : Label) : Octets :=
  UInt8.ofNat l.octets.length :: l.octets

end Label

end StubResolver
