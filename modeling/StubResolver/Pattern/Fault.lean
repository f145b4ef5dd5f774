import StubResolver.Pattern.Set
import StubResolver.Text.Alphanumeric

/-!
# Faults of patterns

A pattern is read to find out whether it can be matched, and nothing else is kept of it. It holds no
closing brace, so that nothing in braces, such as how often a part is repeated, is ever complete.
Its parts must not be nested too deep, and a word ends where letters of some script do, which takes
a table of characters to find.
-/

namespace StubResolver.Pattern

/-- Why a pattern cannot be matched. -/
inductive Fault where
  /-- It has not the form of a pattern, or a part without a meaning. -/
  | form
  /-- It asks for the end of a word. -/
  | wordBoundary
  deriving DecidableEq, Repr

/-- What is wrong with a pattern. -/
def Fault.message : Fault → String
  | form => "error building NFA"
  | wordBoundary =>
    "unsupported regex feature for DFAs: cannot build DFAs for regexes with Unicode word " ++
      "boundaries; switch to ASCII word boundaries, or heuristically enable Unicode word " ++
      "boundaries or use a different regex engine"

/-- How many parts may stand one in the other. -/
def depthLimit : Nat := 250

/-- A pattern that is being read. -/
structure Reading where
  rest : List Char
  flags : Flags
  /-- The names of its groups. -/
  names : List (List Char)
  /-- Whether it asks for the end of a word of characters. -/
  hasWordBoundary : Bool

namespace Reading

/-- Behind the characters in front of `rest`. -/
def skipTo (s : Reading) (rest : List Char) : Reading :=
  { s with rest := rest }

/-- Whether a character may stand in the name of a group. -/
def isNameChar (c : Char) : Bool :=
  c == '_' || c == '.' || c == '[' || c == ']' || Text.isAlphanumeric c

/-- Behind the name of a group, which no other group has. -/
def named? (s : Reading) (cs : List Char) : Option Reading :=
  let name := cs.takeWhile (· != '>')
  let startsWell := name.head?.any fun c => c == '_' || Text.isAlphabetic c
  if startsWell && name.all isNameChar && !s.names.contains name then
    match cs.drop name.length with
    | [] => none
    | _ :: rest => some { s with rest := rest, names := name :: s.names }
  else none

/-- Behind the start of a group or of flags for what follows, after the parenthesis; says whether it
is a group. -/
def opened? (s : Reading) (cs : List Char) : Option (Reading × Bool) :=
  match s.flags.skip cs with
  | '?' :: 'P' :: '<' :: rest => (s.named? rest).map fun s => (s, true)
  | '?' :: '<' :: rest => (s.named? rest).map fun s => (s, true)
  | '?' :: rest => do
    let (items, rest) ← Flags.letters? rest []
    let isGroup := rest.head? == some ':'
    if items.isEmpty && !isGroup then none
    else some ({ s with rest := rest.tail, flags := s.flags.set items }, isGroup)
  | cs => some (s.skipTo cs, true)

/-- Behind an atom. -/
def passed? (s : Reading) (a : Atom) (rest : List Char) : Option Reading :=
  if a.isUsable s.flags then
    some { s with
      rest := rest
      hasWordBoundary := s.hasWordBoundary || (a == .wordBoundary && s.flags.unicode) }
  else none

/-- Behind the atom that starts with `c`. -/
def atom? (s : Reading) (c : Char) (rest : List Char) : Option Reading :=
  if c = '\\' then do
    let (a, rest) ← Atom.ofEscape? s.flags rest
    s.passed? a rest
  else if c = '.' then s.passed? .any rest
  else if c = '^' ∨ c = '$' then s.passed? .anchor rest
  else s.passed? (.literal c false) rest

/-- Reads up to the end or a closing parenthesis, which is left: how deep the alternatives are
nested, and what is left. Those that are complete are counted by `alternatives`, the parts of the
one under way by `parts`, of which the last can be repeated if its depth is given. The number bounds
the depth of the reading. -/
def alternatives? : Nat → Row → Row → Option Nat → Reading → Option (Nat × Reading)
  | 0, _, _, _, _ => none
  | n + 1, alternatives, parts, last?, s =>
    match s.flags.skip s.rest with
    | [] => some ((alternatives.add parts.total).total, s.skipTo [])
    | c :: rest =>
      if c = ')' then some ((alternatives.add parts.total).total, s.skipTo (c :: rest))
      else if c = '|' then
        alternatives? n (alternatives.add parts.total) .empty none (s.skipTo rest)
      else if c = '(' then
        match s.opened? rest with
        | none => none
        | some (inner, false) => alternatives? n alternatives (parts.add 0) none inner
        | some (inner, true) => do
          let (depth, behind) ← alternatives? n .empty .empty none inner
          if behind.rest.isEmpty then none
          else
            alternatives? n alternatives (parts.add (depth + 1)) (some (depth + 1))
              { behind with rest := behind.rest.tail, flags := s.flags }
      else if c = '[' then do
        let (depth, rest) ← set? s.flags rest
        alternatives? n alternatives (parts.add depth) (some depth) (s.skipTo rest)
      else if c = '?' ∨ c = '*' ∨ c = '+' then do
        let depth := (← last?) + 1
        let rest := if rest.head? = some '?' then rest.tail else rest
        alternatives? n alternatives ⟨parts.count, max parts.depth depth⟩ (some depth)
          (s.skipTo rest)
      else if c.toNat = 123 then none
      else do alternatives? n alternatives (parts.add 0) (some 0) (← s.atom? c rest)

end Reading

/-- What is wrong with a pattern. -/
def fault? (cs : List Char) : Option Fault :=
  match Reading.alternatives? (cs.length + 1) .empty .empty none ⟨cs, .standard, [], false⟩ with
  | none => some .form
  | some (depth, s) =>
    if !s.rest.isEmpty || depthLimit < depth then some .form
    else if s.hasWordBoundary then some .wordBoundary
    else none

end StubResolver.Pattern
