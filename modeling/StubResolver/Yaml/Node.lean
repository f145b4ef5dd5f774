import StubResolver.Yaml.Token

/-!
# YAML documents

A document is built from its tokens by recursive descent. What is left out where a value could
stand is an empty scalar.
-/

namespace StubResolver.Yaml

/-- A document, or a part of one. -/
inductive Node where
  /-- A scalar, and whether it stands without quotes. -/
  | scalar (text : String) (plain : Bool)
  | sequence (items : List Node)
  | mapping (members : List (Node × Node))
  deriving Repr

namespace Node

/-- What stands where nothing stands. -/
def empty : Node := scalar "" true

instance : Inhabited Node := ⟨empty⟩

/-- Reads some of the tokens at hand. -/
abbrev Reader := StateT (List Token) Option

/-- The next token. -/
def peek : Reader (Option Token) := do
  return (← get).head?

/-- Passes over a token. -/
def advance : Reader Unit :=
  modify List.tail

/-- Passes over `t` if it comes next, and says whether it does. -/
def accept (t : Token) : Reader Bool := do
  if (← peek) = some t then
    advance
    return true
  else return false

/-- Passes over `t`, which has to come next. -/
def expect (t : Token) : Reader Unit := do
  if !(← accept t) then failure

/-- Whether one of some tokens comes next. -/
def isNextIn (ts : List Token) : Reader Bool := do
  return (← peek).any ts.contains

/-- Where a node stands. -/
inductive Position where
  | inFlow | inBlock
  /-- In a block, as the name or value of a member, where dashes may stand without indentation. -/
  | ofMember
  deriving DecidableEq

mutual

/-- A node. The number bounds the depth of the reading, here as below. -/
def read : Nat → Position → Reader Node
  | 0, _ => failure
  | depth + 1, position => do
    match ← peek with
    | some (.scalar text plain) =>
      advance
      return .scalar text plain
    | some .openSequence =>
      advance
      return .sequence (← readFlowItems depth [])
    | some .openMapping =>
      advance
      return .mapping (← readFlowMembers depth [])
    | some .entry =>
      if position = .ofMember then return .sequence (← readDashes depth []) else failure
    | some .blockSequence =>
      if position = .inFlow then failure
      advance
      return .sequence (← readItems depth [])
    | some .blockMapping =>
      if position = .inFlow then failure
      advance
      return .mapping (← readMembers depth [])
    | _ => failure

/-- A node, or nothing before one of the tokens that can follow it. -/
def readBefore : Nat → Position → List Token → Reader Node
  | 0, _, _ => failure
  | depth + 1, position, followers => do
    if ← isNextIn followers then return .empty else read depth position

/-- The items of a block, onto those of `done`. -/
def readItems : Nat → List Node → Reader (List Node)
  | 0, _ => failure
  | depth + 1, done => do
    if ← accept .entry then
      let item ← readBefore depth .inBlock [.entry, .blockEnd]
      readItems depth (item :: done)
    else
      expect .blockEnd
      return done.reverse

/-- The items of a block that is not indented, onto those of `done`. -/
def readDashes : Nat → List Node → Reader (List Node)
  | 0, _ => failure
  | depth + 1, done => do
    if ← accept .entry then
      let item ← readBefore depth .inBlock [.entry, .key, .value, .blockEnd]
      readDashes depth (item :: done)
    else return done.reverse

/-- The members of a block, onto those of `done`. -/
def readMembers : Nat → List (Node × Node) → Reader (List (Node × Node))
  | 0, _ => failure
  | depth + 1, done => do
    if ← accept .key then
      let name ← readBefore depth .ofMember [.key, .value, .blockEnd]
      let value ← readValue depth .ofMember [.key, .value, .blockEnd]
      readMembers depth ((name, value) :: done)
    else
      expect .blockEnd
      return done.reverse

/-- The value of a member, if there is a colon before it. -/
def readValue : Nat → Position → List Token → Reader Node
  | 0, _, _ => failure
  | depth + 1, position, followers => do
    if ← accept .value then readBefore depth position followers else return .empty

/-- The name of a member between brackets. A token that stands in place of the name is passed over
with it. -/
def readFlowItemName : Nat → Reader Node
  | 0 => failure
  | depth + 1 => do
    if ← isNextIn [.value, .comma, .closeSequence] then
      advance
      return .empty
    else read depth .inFlow

/-- The items between brackets, onto those of `done`. An item may be a single member. -/
def readFlowItems : Nat → List Node → Reader (List Node)
  | 0, _ => failure
  | depth + 1, done => do
    if ← accept .closeSequence then return done.reverse
    if !done.isEmpty then
      expect .comma
    if ← accept .closeSequence then return done.reverse
    if ← accept .key then
      let name ← readFlowItemName depth
      let value ← readValue depth .inFlow [.comma, .closeSequence]
      readFlowItems depth (.mapping [(name, value)] :: done)
    else
      let item ← read depth .inFlow
      readFlowItems depth (item :: done)

/-- The members between braces, onto those of `done`. -/
def readFlowMembers : Nat → List (Node × Node) → Reader (List (Node × Node))
  | 0, _ => failure
  | depth + 1, done => do
    if ← accept .closeMapping then return done.reverse
    if !done.isEmpty then
      expect .comma
    if ← accept .closeMapping then return done.reverse
    if ← accept .key then
      let name ← readBefore depth .inFlow [.value, .comma, .closeMapping]
      let value ← readValue depth .inFlow [.comma, .closeMapping]
      readFlowMembers depth ((name, value) :: done)
    else
      let name ← read depth .inFlow
      readFlowMembers depth ((name, .empty) :: done)

end

/-- Passes over the ends of a document. -/
def skipEnds : Nat → Reader Unit
  | 0 => failure
  | n + 1 => do if ← accept .documentEnd then skipEnds n

/-- A whole document and nothing behind it; none if there are no tokens. -/
def readDocument (depth : Nat) : Reader (Option Node) := do
  if (← peek).isNone then return none
  let node ← if ← accept .documentStart then do
      if (← peek).isNone || (← isNextIn [.documentStart, .documentEnd]) then pure .empty
      else read depth .inBlock
    else read depth .inBlock
  skipEnds depth
  if (← peek).isSome then failure
  return some node

/-- The document of a text, if there is one. -/
def ofText? (text : String) : Option (Option Node) := do
  let tokens ← Token.scan? text
  let (node, _) ← readDocument (4 * tokens.length + 4) tokens
  return node

end Node

end StubResolver.Yaml
