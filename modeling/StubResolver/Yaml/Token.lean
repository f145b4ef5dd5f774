import StubResolver.Yaml.Scalar

/-!
# Tokens of YAML text

A block starts where the indentation grows and ends where it shrinks. That a word is the name of a
member shows only at the colon behind it; its place is kept until then, on one line and for at
most 1024 octets. Directives, anchors, aliases and tags are not read.
-/

namespace StubResolver.Yaml

/-- The smallest piece of YAML text. -/
inductive Token where
  | documentStart | documentEnd
  | blockSequence | blockMapping | blockEnd
  | openSequence | closeSequence | openMapping | closeMapping
  /-- The dash before an item of a block. -/
  | entry
  | comma
  /-- What stands before the name of a member, and before its value. -/
  | key | value
  | scalar (text : String) (plain : Bool)
  deriving DecidableEq, Repr

/-- Where the name of a member may have started. -/
structure KeyCandidate where
  /-- How many tokens there are before it. -/
  index : Nat
  place : Place
  /-- Whether nothing else can stand there. -/
  isRequired : Bool

/-- The reading of YAML text so far. -/
structure Scanner where
  source : Source
  /-- The tokens, last first. -/
  tokens : List Token
  /-- How many tokens there are. -/
  count : Nat
  /-- The indentations of the open blocks, innermost first. -/
  indents : List Nat
  /-- The candidate in the block. -/
  blockCandidate : Option KeyCandidate
  /-- The candidate in each open bracket or brace, innermost first. -/
  flowCandidates : List (Option KeyCandidate)
  /-- Whether the name of a member may start here. -/
  allowsKey : Bool

namespace Scanner

/-- Before the first token. -/
def start (source : Source) : Scanner :=
  ⟨source, [], 0, [], none, [], true⟩

/-- Whether a bracket or brace is open. -/
def inFlow (s : Scanner) : Bool :=
  !s.flowCandidates.isEmpty

/-- The column of the next character. -/
def column (s : Scanner) : Nat :=
  s.source.place.column

/-- The least column of what belongs to the innermost block. -/
def innerIndent (s : Scanner) : Nat :=
  match s.indents with
  | [] => 0
  | indent :: _ => indent + 1

/-- With one more token. -/
def push (s : Scanner) (t : Token) : Scanner :=
  { s with tokens := t :: s.tokens, count := s.count + 1 }

/-- With a token put before those from `index` on. -/
def insertAt (s : Scanner) (index : Nat) (t : Token) : Scanner :=
  let later := s.count - index
  { s with
    tokens := s.tokens.take later ++ t :: s.tokens.drop later
    count := s.count + 1 }

/-- With the next `n` characters read as a token. -/
def pushOver (s : Scanner) (n : Nat) (t : Token) : Scanner :=
  { s.push t with source := s.source.skip n }

/-- A candidate that the reading has not left behind. -/
def keepsCandidate (s : Scanner) (k : KeyCandidate) : Bool :=
  s.source.place.line ≤ k.place.line && s.source.place.offset ≤ k.place.offset + 1024

/-- Whether a candidate is left behind that was required. Between brackets none is. -/
def lacksKey (s : Scanner) : Bool :=
  s.blockCandidate.any fun k => k.isRequired && !s.keepsCandidate k

/-- The innermost candidate, unless it is left behind. -/
def candidate? (s : Scanner) : Option KeyCandidate :=
  (s.flowCandidates.head?.getD s.blockCandidate).filter s.keepsCandidate

/-- With another innermost candidate. -/
def setCandidate (s : Scanner) (candidate : Option KeyCandidate) : Scanner :=
  match s.flowCandidates with
  | [] => { s with blockCandidate := candidate }
  | _ :: outer => { s with flowCandidates := candidate :: outer }

/-- Without the innermost candidate, which must not be required. -/
def dropCandidate (s : Scanner) : Option Scanner :=
  if s.candidate?.any (·.isRequired) then none else some (s.setCandidate none)

/-- With a candidate where the next token starts, if it may be a name. -/
def addCandidate (s : Scanner) : Option Scanner :=
  if s.allowsKey then do
    let isRequired := !s.inFlow && s.indents.head? == some s.column
    let s ← s.dropCandidate
    return s.setCandidate (some ⟨s.count, s.source.place, isRequired⟩)
  else some s

/-- In a block of indentation `column`, which starts with the token `t` at `index` if it is new. -/
def indentTo (s : Scanner) (column index : Nat) (t : Token) : Scanner :=
  if !s.inFlow && s.innerIndent ≤ column then
    { s.insertAt index t with indents := column :: s.indents }
  else s

/-- With the open blocks of the indentations given, up to the first that stays open. -/
def closeBlocks (staysOpen : Nat → Bool) : List Nat → Scanner → Scanner
  | [], s => { s with indents := [] }
  | indent :: rest, s =>
    if staysOpen indent then { s with indents := indent :: rest }
    else closeBlocks staysOpen rest (s.push .blockEnd)

/-- Without the open blocks that are indented by more than the next character. -/
def outdent (s : Scanner) : Scanner :=
  if s.inFlow then s else closeBlocks (· ≤ s.column) s.indents s

/-- Without any open block, unless a bracket or brace is open. -/
def outdentAll (s : Scanner) : Scanner :=
  if s.inFlow then s else closeBlocks (fun _ => false) s.indents s

/-- Without white space and comments before the next token. A tab is white space where it cannot
be indentation, and a byte order mark where a line starts. -/
def skipSpace (flow : Bool) : List Char → Place → Bool → Bool → Source × Bool
  | [], p, allowsKey, _ => (⟨[], p⟩, allowsKey)
  | c :: rest, p, allowsKey, inComment =>
    if isBreak c then skipSpace flow rest (p.after c) (allowsKey || !flow) false
    else if isByteOrderMark c && p.column == 0 then skipSpace flow rest (p.after c) allowsKey false
    else if inComment || c == ' ' || (c == '\t' && (flow || !allowsKey)) then
      skipSpace flow rest (p.after c) allowsKey inComment
    else if c = '#' then skipSpace flow rest (p.after c) allowsKey true
    else (⟨c :: rest, p⟩, allowsKey)

/-- At the next token. -/
def advance (s : Scanner) : Scanner :=
  let (source, allowsKey) := skipSpace s.inFlow s.source.rest s.source.place s.allowsKey false
  { s with source := source, allowsKey := allowsKey }

/-- The start or end of a document. -/
def boundary (s : Scanner) (t : Token) : Option Scanner := do
  let s ← s.outdentAll.dropCandidate
  return { s.pushOver 3 t with allowsKey := false }

/-- An opening bracket or brace. -/
def openFlow (s : Scanner) (t : Token) : Option Scanner := do
  let s ← s.addCandidate
  return { s.pushOver 1 t with flowCandidates := none :: s.flowCandidates, allowsKey := true }

/-- A closing bracket or brace. -/
def closeFlow (s : Scanner) (t : Token) : Option Scanner := do
  let s ← s.dropCandidate
  return { s.pushOver 1 t with flowCandidates := s.flowCandidates.tail, allowsKey := false }

/-- A comma. -/
def comma (s : Scanner) : Option Scanner := do
  let s ← s.dropCandidate
  return { s.pushOver 1 .comma with allowsKey := true }

/-- The dash before an item of a block. -/
def entry (s : Scanner) : Option Scanner := do
  if !s.inFlow && !s.allowsKey then none
  let s := s.indentTo s.column s.count .blockSequence
  let s ← s.dropCandidate
  return { s.pushOver 1 .entry with allowsKey := true }

/-- A question mark before the name of a member. -/
def explicitKey (s : Scanner) : Option Scanner := do
  if !s.inFlow && !s.allowsKey then none
  let s := s.indentTo s.column s.count .blockMapping
  let s ← s.dropCandidate
  return { s.pushOver 1 .key with allowsKey := !s.inFlow }

/-- The colon before the value of a member. -/
def value (s : Scanner) : Option Scanner :=
  match s.candidate? with
  | some k =>
    let s := (s.insertAt k.index .key).setCandidate none
    let s := s.indentTo k.place.column k.index .blockMapping
    some { s.pushOver 1 .value with allowsKey := false }
  | none =>
    if !s.inFlow && !s.allowsKey then none
    else
      let s := s.indentTo s.column s.count .blockMapping
      some { s.pushOver 1 .value with allowsKey := !s.inFlow }

/-- A scalar that was read. -/
def pushScalar (s : Scanner) (e : Extent) (plain allowsKey : Bool) : Scanner :=
  { s.push (.scalar (String.ofList e.text) plain) with
    source := e.source
    allowsKey := allowsKey }

/-- A scalar in quotes. -/
def quoted (s : Scanner) (isSingle : Bool) : Option Scanner := do
  let s ← s.addCandidate
  let inner := s.source.skip 1
  let e ← if isSingle then singleQuotedExtent inner.rest inner.place .none
    else doubleQuotedExtent inner.rest inner.place .none .none
  return s.pushScalar e false false

/-- A scalar of lines. -/
def block (s : Scanner) (folds : Bool) : Option Scanner := do
  let s ← s.dropCandidate
  let e ← blockScalar? folds s.innerIndent (s.source.skip 1)
  return s.pushScalar e false true

/-- A scalar without quotes. -/
def plain (s : Scanner) : Option Scanner := do
  let s ← s.addCandidate
  let (e, isBroken) ←
    plainExtent s.inFlow s.innerIndent s.source.rest s.source.place .none
  return s.pushScalar e true isBroken

/-- A character that starts no scalar without quotes, whatever follows. -/
def isIndicator (c : Char) : Bool :=
  isFlowIndicator c || c == '#' || c == '&' || c == '*' || c == '!' || c == '|' || c == '>' ||
    c == '\'' || c == '"' || c == '%' || c == '@' || c.toNat == 96

/-- Whether a scalar without quotes starts with `c` before `rest`. -/
def startsPlain (flow : Bool) (c : Char) (rest : List Char) : Bool :=
  if c == '-' then !rest.head?.any isBlank
  else if c == '?' || c == ':' then !flow && !endsWord rest
  else !isBlank c && !isBreak c && !isIndicator c

/-- The next token, which starts with `c` before `rest`. -/
def next (s : Scanner) (c : Char) (rest : List Char) : Option Scanner :=
  if startsDocument (c :: rest) s.source.place then s.boundary .documentStart
  else if endsDocument (c :: rest) s.source.place then s.boundary .documentEnd
  else if c = '[' then s.openFlow .openSequence
  else if c.toNat = 123 then s.openFlow .openMapping
  else if c = ']' then s.closeFlow .closeSequence
  else if c.toNat = 125 then s.closeFlow .closeMapping
  else if c = ',' then s.comma
  else if c = '-' ∧ endsWord rest then s.entry
  else if c = '?' ∧ (s.inFlow ∨ endsWord rest) then s.explicitKey
  else if c = ':' ∧ (s.inFlow ∨ endsWord rest) then s.value
  else if c = '|' ∧ !s.inFlow then s.block false
  else if c = '>' ∧ !s.inFlow then s.block true
  else if c = '\'' then s.quoted true
  else if c = '"' then s.quoted false
  else if s.column = 0 ∧ c = '%' then none
  else if startsPlain s.inFlow c rest then s.plain
  else none

/-- The tokens at the end of the text. -/
def finish (s : Scanner) : Option (List Token) := do
  let s ← s.outdentAll.dropCandidate
  return s.tokens.reverse

/-- All tokens. The number bounds the steps, of which each passes over at least one character. -/
def run : Nat → Scanner → Option (List Token)
  | 0, _ => none
  | n + 1, s => do
    let s := s.advance
    if s.lacksKey then none
    let s := s.outdent
    match s.source.rest with
    | [] => s.finish
    | c :: rest => run n (← s.next c rest)

end Scanner

/-- The tokens of a text. -/
def Token.scan? (text : String) : Option (List Token) := do
  let source ← Source.ofText? text
  (Scanner.start source).run (source.rest.length + 1)

end StubResolver.Yaml
