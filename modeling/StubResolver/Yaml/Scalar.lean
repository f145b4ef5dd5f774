import StubResolver.Octets
import StubResolver.Yaml.Source

/-!
# Scalars of YAML text

A scalar runs over several lines: one line break between two words is a space, and of several
breaks all but the first are kept. What a scalar holds is gathered with its last character first.
-/

namespace StubResolver.Yaml

/-- What stands between two words of a scalar. -/
inductive Gap where
  | blanks (read : List Char)
  /-- A line break, which is missing if it was escaped, and those behind it. -/
  | breaks (first : Option Char) (more : List Char)
  deriving DecidableEq

namespace Gap

/-- Nothing. -/
def nothing : Gap := blanks []

/-- Whether it has a line break. -/
def isBroken : Gap → Bool
  | blanks _ => false
  | breaks .. => true

/-- The gap with one more blank or break. Blanks count only before the first break. -/
def extend : Gap → Char → Gap
  | blanks read, c => if isBreak c then breaks (some c) [] else blanks (c :: read)
  | breaks first more, c => if isBreak c then breaks first (c :: more) else breaks first more

/-- What the gap stands for. -/
def folded : Gap → List Char
  | blanks read => read
  | breaks none more => more
  | breaks (some c) more =>
    if c = '\n' then (if more.isEmpty then [' '] else more) else more ++ [c]

end Gap

/-- The words of a scalar so far, and the gap behind them. -/
structure Words where
  read : List Char
  gap : Gap

namespace Words

/-- A scalar at its start. -/
def none : Words := ⟨[], .nothing⟩

/-- With the gap as part of the text. -/
def joined (w : Words) : List Char :=
  w.gap.folded ++ w.read

/-- With one more character. -/
def push (w : Words) (c : Char) : Words :=
  ⟨c :: w.joined, .nothing⟩

/-- With one more blank or break. -/
def pause (w : Words) (c : Char) : Words :=
  ⟨w.read, w.gap.extend c⟩

end Words

/-- A text that was read, and what is left. -/
structure Extent where
  text : List Char
  source : Source

/-- Whether a scalar without quotes ends behind the gap: at a comment, a new document or, in a
block, a line that is not indented enough. -/
def Gap.endsPlain (g : Gap) (flow : Bool) (indent : Nat) (cs : List Char) (p : Place) : Bool :=
  g != .nothing && (isBoundary cs p || cs.head? == some '#') ||
    g.isBroken && !flow && p.column < indent

/-- A scalar without quotes that ends where `rest` starts, and whether it ran into a line break. -/
def Words.plainExtent (w : Words) (rest : Source) : Extent × Bool :=
  (⟨w.read.reverse, rest⟩, w.gap.isBroken)

/-- A scalar without quotes; `flow` says whether it stands between brackets or braces, and `indent`
is the least column of its further lines if not. It fails where a tab stands for indentation, and
where a colon has one of six characters behind it in brackets. Says too whether it ran into a line
break. -/
def plainExtent (flow : Bool) (indent : Nat) :
    List Char → Place → Words → Option (Extent × Bool)
  | [], p, w => some (w.plainExtent ⟨[], p⟩)
  | c :: rest, p, w =>
    if isBlank c || isBreak c then
      if w.gap.isBroken && c == '\t' && p.column < indent then none
      else plainExtent flow indent rest (p.after c) (w.pause c)
    else if w.gap.endsPlain flow indent (c :: rest) p then
      some (w.plainExtent ⟨c :: rest, p⟩)
    else if flow && c == ':' && rest.head?.any fun d => isFlowIndicator d || d == '?' then none
    else if c == ':' && endsWord rest || flow && isFlowIndicator c then
      some (w.plainExtent ⟨c :: rest, p⟩)
    else plainExtent flow indent rest (p.after c) (w.push c)

/-- A scalar behind its opening single quote; a quote in it is written twice. -/
def singleQuotedExtent : List Char → Place → Words → Option Extent
  | [], _, _ => none
  | '\'' :: '\'' :: rest, p, w =>
    singleQuotedExtent rest ((p.after '\'').after '\'') (w.push '\'')
  | c :: rest, p, w =>
    if c = '\'' then some ⟨w.joined.reverse, ⟨rest, p.after c⟩⟩
    else if isBlank c || isBreak c then singleQuotedExtent rest (p.after c) (w.pause c)
    else if isBoundary (c :: rest) p then none
    else singleQuotedExtent rest (p.after c) (w.push c)

/-- Where a double-quoted scalar stands in an escape. -/
inductive Escape where
  | none
  /-- Behind a backslash. -/
  | started
  /-- Before so many hexadecimal digits, with the value of those before. -/
  | hexadecimal (digitsLeft value : Nat)

/-- The character of a one-letter escape. -/
def simpleEscape? (c : Char) : Option Char :=
  match c with
  | '0' => some (Char.ofNat 0)
  | 'a' => some (Char.ofNat 7)
  | 'b' => some (Char.ofNat 8)
  | 't' | '\t' => some '\t'
  | 'n' => some '\n'
  | 'v' => some (Char.ofNat 11)
  | 'f' => some (Char.ofNat 12)
  | 'r' => some '\r'
  | 'e' => some (Char.ofNat 27)
  | ' ' => some ' '
  | '"' => some '"'
  | '/' => some '/'
  | '\\' => some '\\'
  | 'N' => some (Char.ofNat 0x85)
  | '_' => some (Char.ofNat 0xA0)
  | 'L' => some (Char.ofNat 0x2028)
  | 'P' => some (Char.ofNat 0x2029)
  | _ => none

/-- How many hexadecimal digits an escape has. -/
def hexadecimalLength? (c : Char) : Option Nat :=
  match c with
  | 'x' => some 2
  | 'u' => some 4
  | 'U' => some 8
  | _ => none

/-- The character of a number. -/
def character? (n : Nat) : Option Char :=
  if n.isValidChar then some (Char.ofNat n) else none

/-- A scalar behind its opening double quote. -/
def doubleQuotedExtent : List Char → Place → Words → Escape → Option Extent
  | [], _, _, _ => none
  | c :: rest, p, w, .none =>
    if c = '"' then some ⟨w.joined.reverse, ⟨rest, p.after c⟩⟩
    else if isBlank c || isBreak c then doubleQuotedExtent rest (p.after c) (w.pause c) .none
    else if isBoundary (c :: rest) p then none
    else if c = '\\' then doubleQuotedExtent rest (p.after c) ⟨w.joined, .nothing⟩ .started
    else doubleQuotedExtent rest (p.after c) (w.push c) .none
  | c :: rest, p, w, .started =>
    if isBreak c then doubleQuotedExtent rest (p.after c) ⟨w.read, .breaks none []⟩ .none
    else match simpleEscape? c, hexadecimalLength? c with
      | some x, _ => doubleQuotedExtent rest (p.after c) (w.push x) .none
      | none, some n => doubleQuotedExtent rest (p.after c) w (.hexadecimal n 0)
      | none, none => none
  | c :: rest, p, w, .hexadecimal digitsLeft value => do
    let value := 16 * value + (← Octets.hexValue? c)
    if digitsLeft ≤ 1 then
      doubleQuotedExtent rest (p.after c) (w.push (← character? value)) .none
    else doubleQuotedExtent rest (p.after c) w (.hexadecimal (digitsLeft - 1) value)

/-! ### Block scalars -/

/-- What is kept of the line breaks at the end of a block scalar. -/
inductive Chomping where
  | strip | clip | keep
  deriving DecidableEq

/-- The first line of a block scalar. -/
structure BlockHeader where
  folds : Bool
  chomping : Chomping
  /-- The indentation beyond that of the surroundings, if it is given. -/
  indent? : Option Nat

/-- The sign of a chomping. -/
def chomping? (c : Char) : Option Chomping :=
  if c = '+' then some .keep else if c = '-' then some .strip else none

/-- A digit from 1 to 9. -/
def indentHint? (c : Char) : Option Nat :=
  if c.isDigit && c != '0' then some (c.toNat - 48) else none

/-- The header at the start of some characters, with its length. -/
def BlockHeader.ofChars (folds : Bool) (cs : List Char) : BlockHeader × Nat :=
  match cs with
  | [] => (⟨folds, .clip, none⟩, 0)
  | c :: rest =>
    match chomping? c, indentHint? c with
    | some chomping, _ =>
      match rest.head?.bind indentHint? with
      | some n => (⟨folds, chomping, some n⟩, 2)
      | none => (⟨folds, chomping, none⟩, 1)
    | none, some n =>
      match rest.head?.bind chomping? with
      | some chomping => (⟨folds, chomping, some n⟩, 2)
      | none => (⟨folds, .clip, some n⟩, 1)
    | none, none => (⟨folds, .clip, none⟩, 0)

/-- The indentation of a block scalar: that of its first line with text, if no blank line before it
has more. Fails if a tab comes first. -/
def blockIndent? : List Char → Place → Nat → Option Nat
  | [], p, widest => some (max p.column widest)
  | c :: rest, p, widest =>
    if c = '\t' then none
    else if c = ' ' || isBreak c then blockIndent? rest (p.after c) (max p.column widest)
    else some (max p.column widest)

/-- A block scalar under way. -/
structure Lines where
  read : List Char
  /-- The break behind the last line with text. -/
  lastBreak : Option Char
  /-- The breaks of the blank lines behind it. -/
  blankLines : List Char
  /-- Whether the last line with text starts with a blank. -/
  wasIndented : Bool
  /-- Whether a line with text is under way. -/
  inLine : Bool

namespace Lines

/-- Before the first line. -/
def none : Lines := ⟨[], .none, [], false, false⟩

/-- The start of a line with text, of which `c` is the first character. -/
def beginLine (l : Lines) (folds : Bool) (c : Char) : Lines :=
  let isFolded := folds && l.lastBreak == some '\n' && !l.wasIndented && !isBlank c
  let seam :=
    if isFolded then (if l.blankLines.isEmpty then [' '] else [])
    else l.lastBreak.toList
  ⟨c :: (l.blankLines ++ seam ++ l.read), .none, [], isBlank c, true⟩

/-- One more character of a line. -/
def push (l : Lines) (c : Char) : Lines :=
  if isBreak c then { l with lastBreak := some c, inLine := false }
  else { l with read := c :: l.read }

/-- The text of the scalar. -/
def text (l : Lines) (chomping : Chomping) : List Char :=
  let ended := if chomping = .strip then l.read else l.lastBreak.toList ++ l.read
  (if chomping = .keep then l.blankLines ++ ended else ended).reverse

end Lines

/-- The lines of a block scalar of some indentation. -/
def blockExtent (header : BlockHeader) (indent : Nat) :
    List Char → Place → Lines → Option Extent
  | [], p, l => some ⟨l.text header.chomping, ⟨[], p⟩⟩
  | c :: rest, p, l =>
    if l.inLine then blockExtent header indent rest (p.after c) (l.push c)
    else if c = ' ' ∧ p.column < indent then blockExtent header indent rest (p.after c) l
    else if c = '\t' ∧ p.column < indent then none
    else if isBreak c then
      blockExtent header indent rest (p.after c) { l with blankLines := c :: l.blankLines }
    else if p.column = indent then
      blockExtent header indent rest (p.after c) (l.beginLine header.folds c)
    else some ⟨l.text header.chomping, ⟨c :: rest, p⟩⟩

/-- A block scalar behind its indicator, in surroundings of which `parentIndent` is one more than
the indentation. -/
def blockScalar? (folds : Bool) (parentIndent : Nat) (s : Source) : Option Extent := do
  let (header, length) := BlockHeader.ofChars folds s.rest
  let s := s.skip length
  let s := s.skip (s.rest.takeWhile isBlank).length
  let s := if s.rest.head? = some '#' then
      s.skip (s.rest.takeWhile fun c => !isBreak c).length else s
  match s.rest with
  | [] => blockExtent header 1 s.rest s.place .none
  | c :: _ =>
    if isBreak c then
      let s := s.skip 1
      let indent ← match header.indent? with
        | some n => some (parentIndent - 1 + n)
        | none => (blockIndent? s.rest s.place 0).map fun n => max n (max parentIndent 1)
      blockExtent header indent s.rest s.place .none
    else none

end StubResolver.Yaml
