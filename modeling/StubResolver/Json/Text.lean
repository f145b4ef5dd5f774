import StubResolver.Json.Token

/-!
# JSON text

A value is built from tokens by a machine that holds the containers under way; it is written
without white space.
-/

namespace StubResolver.Json

/-- A container under way; its contents have the last one first. -/
inductive Frame where
  | list (items : List Json)
  | object (members : List (Option String × Json))
  /-- An object with the name of its next member. -/
  | member (members : List (Option String × Json)) (name : Option String)

/-- What the next token may be. -/
inductive Expectation where
  | value
  /-- A value or the end of the list. -/
  | firstItem
  | name
  /-- A name or the end of the object. -/
  | firstName
  | colon
  /-- A comma or the end of the container. -/
  | separator
  /-- Nothing: the value is complete. -/
  | nothing (value : Json)

/-- The machine, with the innermost container first. -/
structure Builder where
  frames : List Frame
  expects : Expectation

namespace Builder

/-- A complete value in its place. -/
def deliver (frames : List Frame) (v : Json) : Option Builder :=
  match frames with
  | [] => some ⟨[], .nothing v⟩
  | .list items :: rest => some ⟨.list (v :: items) :: rest, .separator⟩
  | .member members name :: rest => some ⟨.object ((name, v) :: members) :: rest, .separator⟩
  | .object _ :: _ => none

/-- The end of the innermost container. -/
def close (frames : List Frame) (t : Token) : Option Builder :=
  match frames, t with
  | .list items :: rest, .closeList => deliver rest (.list items.reverse)
  | .object members :: rest, .closeObject => deliver rest (.ofMembers members.reverse)
  | _, _ => none

/-- A token where a value stands. -/
def value (frames : List Frame) (t : Token) : Option Builder :=
  match t with
  | .openList => some ⟨.list [] :: frames, .firstItem⟩
  | .openObject => some ⟨.object [] :: frames, .firstName⟩
  | .text s => deliver frames (s.elim .broken .text)
  | .scalar v => deliver frames v
  | _ => none

/-- A token where the name of a member stands. -/
def name (frames : List Frame) (t : Token) : Option Builder :=
  match frames, t with
  | .object members :: rest, .text s => some ⟨.member members s :: rest, .colon⟩
  | _, _ => none

/-- One token. -/
def feed (b : Builder) (t : Token) : Option Builder :=
  match b.expects, t with
  | .value, t => value b.frames t
  | .firstItem, .closeList => close b.frames t
  | .firstItem, t => value b.frames t
  | .name, t => name b.frames t
  | .firstName, .closeObject => close b.frames t
  | .firstName, t => name b.frames t
  | .colon, .colon => some { b with expects := .value }
  | .separator, .comma =>
    match b.frames with
    | .list _ :: _ => some { b with expects := .value }
    | .object _ :: _ => some { b with expects := .name }
    | _ => none
  | .separator, t => close b.frames t
  | _, _ => none

end Builder

/-- The value of a text. -/
def ofText? (text : String) : Option Json := do
  let tokens ← Token.scan? text.toList
  let b ← tokens.foldlM Builder.feed ⟨[], .value⟩
  match b.expects with
  | .nothing v => some v
  | _ => none

/-- One character between quotes. -/
def escapeChar (c : Char) : List Char :=
  let n := c.toNat
  if c = '"' then ['\\', '"']
  else if c = '\\' then ['\\', '\\']
  else if n = 8 then ['\\', 'b']
  else if n = 12 then ['\\', 'f']
  else if c = '\n' then ['\\', 'n']
  else if c = '\r' then ['\\', 'r']
  else if c = '\t' then ['\\', 't']
  else if n < 32 then ['\\', 'u', '0', '0', Octets.hexDigit (n / 16), Octets.hexDigit (n % 16)]
  else [c]

/-- A text in quotes. -/
def quoted (s : String) : String :=
  String.ofList ('"' :: s.toList.flatMap escapeChar ++ ['"'])

/-- Texts between an opening and a closing character, with commas. -/
def enclosed (first last : Nat) (parts : List String) : String :=
  (Char.ofNat first).toString ++ ",".intercalate parts ++ (Char.ofNat last).toString

/-- The spelling of a number that is no integer, with an exponent if nothing else shows that. -/
def decimalText (literal : String) : String :=
  if literal.toList.any fun c => c == '.' || c == 'e' || c == 'E' then literal
  else literal ++ "e0"

mutual

/-- The text of a value; what nothing can read is written as if it were nothing. -/
def toText : Json → String
  | .null => "null"
  | .bool b => if b then "true" else "false"
  | .integer n => toString n
  | .decimal literal => decimalText literal
  | .text s => quoted s
  | .list items => enclosed 91 93 (itemTexts items)
  | .object members => enclosed 123 125 (memberTexts members)
  | .broken => "null"

/-- The texts of the items of a list. -/
def itemTexts : List Json → List String
  | [] => []
  | v :: rest => toText v :: itemTexts rest

/-- The texts of the members of an object. -/
def memberTexts : List (String × Json) → List String
  | [] => []
  | (name, v) :: rest => (quoted name ++ ":" ++ toText v) :: memberTexts rest

end

end StubResolver.Json
