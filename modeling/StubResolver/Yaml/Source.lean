/-! YAML text while it is read: characters with the place where they start. -/

namespace StubResolver.Yaml

/-- A place in a text; lines and columns count from 0. -/
structure Place where
  line : Nat
  column : Nat
  /-- How many octets stand before it. -/
  offset : Nat
  deriving DecidableEq, Repr

/-- What is left of a text, and where that starts. -/
structure Source where
  rest : List Char
  place : Place

/-- A line break: that of a line feed, or one of Unicode's two separators. -/
def isBreak (c : Char) : Bool :=
  c == '\n' || c.toNat == 0x2028 || c.toNat == 0x2029

/-- A byte order mark. At the start of a line it says nothing, but takes a column. -/
def isByteOrderMark (c : Char) : Bool :=
  c.toNat == 0xFEFF

/-- A space or a tab. -/
def isBlank (c : Char) : Bool :=
  c == ' ' || c == '\t'

/-- Whether a word ends where `cs` starts. -/
def endsWord : List Char → Bool
  | [] => true
  | c :: _ => isBlank c || isBreak c

/-- A character that has a meaning of its own between brackets or braces. -/
def isFlowIndicator (c : Char) : Bool :=
  c == ',' || c == '[' || c == ']' || c.toNat == 123 || c.toNat == 125

/-- The place behind a character. -/
def Place.after (p : Place) (c : Char) : Place :=
  let offset := p.offset + c.utf8Size
  if isBreak c then ⟨p.line + 1, 0, offset⟩ else ⟨p.line, p.column + 1, offset⟩

/-- Whether a line starts with three dashes. -/
def startsDocument (cs : List Char) (p : Place) : Bool :=
  p.column == 0 && ['-', '-', '-'].isPrefixOf cs && endsWord (cs.drop 3)

/-- Whether a line starts with three dots. -/
def endsDocument (cs : List Char) (p : Place) : Bool :=
  p.column == 0 && ['.', '.', '.'].isPrefixOf cs && endsWord (cs.drop 3)

/-- Whether a document starts or ends. -/
def isBoundary (cs : List Char) (p : Place) : Bool :=
  startsDocument cs p || endsDocument cs p

/-- A character that may stand in YAML text. -/
def isAllowed (c : Char) : Bool :=
  let n := c.toNat
  n == 0x09 || n == 0x0A || n == 0x0D || (0x20 ≤ n && n ≤ 0x7E) || n == 0x85 ||
    (0xA0 ≤ n && n ≤ 0xD7FF) || (0xE000 ≤ n && n ≤ 0xFFFD) || 0x10000 ≤ n

/-- A text with a line feed for each carriage return, pair of both and next-line character. -/
def withLineFeeds : List Char → List Char
  | [] => []
  | '\r' :: '\n' :: rest => '\n' :: withLineFeeds rest
  | c :: rest => (if c = '\r' ∨ c.toNat = 0x85 then '\n' else c) :: withLineFeeds rest

namespace Source

/-- The source behind its first `n` characters. -/
def skip : Nat → Source → Source
  | 0, s => s
  | n + 1, s =>
    match s.rest with
    | [] => s
    | c :: rest => skip n ⟨rest, s.place.after c⟩

/-- A whole text; a character that may not stand in it fails. -/
def ofText? (text : String) : Option Source :=
  let cs := text.toList
  if cs.all isAllowed then some ⟨withLineFeeds cs, ⟨0, 0, 0⟩⟩ else none

end Source

end StubResolver.Yaml
