import StubResolver.Pattern.Atom

/-!
# Sets in patterns

A set of characters stands in brackets. Its items are atoms, ranges, classes with a name, and sets;
two of the signs `&&`, `--` and `~~` combine the items on either side.
-/

namespace StubResolver.Pattern

/-- Parts of a pattern that stand beside each other: how many there are, and how deep the deepest
of them is nested. -/
structure Row where
  count : Nat
  depth : Nat
  deriving DecidableEq, Repr

namespace Row

/-- No parts. -/
def empty : Row := ⟨0, 0⟩

/-- With one more part. -/
def add (r : Row) (depth : Nat) : Row :=
  ⟨r.count + 1, max r.depth depth⟩

/-- How deep the whole is nested: a level more than the deepest part, unless there is only one. -/
def total (r : Row) : Nat :=
  if 1 < r.count then r.depth + 1 else r.depth

end Row

/-- The classes that have a name. -/
def classNames : List String :=
  ["alnum", "alpha", "ascii", "blank", "cntrl", "digit", "graph", "lower", "print", "punct",
    "space", "upper", "word", "xdigit"]

/-- Whether a class with a name is negated, and what is left behind it. -/
def namedClass? : List Char → Option (Bool × List Char)
  | ':' :: cs =>
    let isNegated := cs.head? == some '^'
    let cs := if isNegated then cs.tail else cs
    let name := cs.takeWhile (· != ':')
    match cs.drop name.length with
    | ':' :: ']' :: rest =>
      if classNames.contains (String.ofList name) then some (isNegated, rest) else none
    | _ => none
  | _ => none

/-- The atom in front in a set, and what is left. -/
def setAtom? (f : Flags) : List Char → Option (Atom × List Char)
  | [] => none
  | '\\' :: rest => Atom.ofEscape? f rest
  | c :: rest => some (.literal c false, rest)

/-- What is left behind an atom or a range. -/
def setRange? (f : Flags) (cs : List Char) : Option (List Char) := do
  let (low, rest) ← setAtom? f cs
  match f.skip rest with
  | [] => none
  | c :: rest =>
    if c != '-' || f.peek? rest == some ']' || f.peek? rest == some '-' then
      if low.isUsableInSet f then some (c :: rest) else none
    else do
      let (high, rest) ← setAtom? f (f.skip rest)
      match low, high with
      | .literal a _, .literal b _ =>
        if a ≤ b ∧ low.isUsableInSet f ∧ high.isUsableInSet f then some rest else none
      | _, _ => none

/-- The dashes in front, at most `n`, which stand for themselves, behind the items of `r`; and what
is left. -/
def leadingDashes (f : Flags) : Nat → Row → List Char → Row × List Char
  | 0, r, cs => (r, cs)
  | n + 1, r, cs =>
    match f.skip cs with
    | '-' :: rest => leadingDashes f n (r.add 0) rest
    | cs => (r, cs)

/-- The start of a set behind its bracket: the dashes, or a closing bracket, that are its first
items, and what is left. In octets, no set is negated. -/
def setStart? (f : Flags) (cs : List Char) : Option (Row × List Char) :=
  let cs := f.skip cs
  let isNegated := cs.head? == some '^'
  let cs := if isNegated then f.skip cs.tail else cs
  let (r, cs) := leadingDashes f cs.length .empty cs
  let (r, cs) := if r.count = 0 ∧ cs.head? = some ']' then (r.add 0, f.skip cs.tail) else (r, cs)
  if (isNegated && !f.unicode) || (r.count != 0 && f.unicode && f.ignoresCase) then none
  else some (r, cs)

/-- How deep a combination is nested, of which the second part is a row. -/
def combined (first : Option Nat) (second : Row) : Nat :=
  match first with
  | none => second.total
  | some depth => max depth second.total + 1

/-- The items of a set up to its closing bracket, behind those of `r` and the part `first` of a
combination: how deep they are nested, and what is left. The number bounds the depth of the
reading. -/
def setItems? (f : Flags) : Nat → Option Nat → Row → List Char → Option (Nat × List Char)
  | 0, _, _, _ => none
  | n + 1, first, r, cs =>
    match f.skip cs with
    | [] => none
    | c :: rest =>
      if c = ']' then some (combined first r, rest)
      else if c = '[' then
        match namedClass? rest with
        | some (isNegated, rest) =>
          if (if f.unicode then f.ignoresCase else isNegated) then none
          else setItems? f n first (r.add 0) rest
        | none => do
          let (start, rest) ← setStart? f rest
          let (depth, rest) ← setItems? f n none start rest
          setItems? f n first (r.add (depth + 1)) rest
      else if ['&', '-', '~'].contains c ∧ rest.head? = some c then
        setItems? f n (some (combined first r)) .empty rest.tail
      else do setItems? f n first (r.add 0) (← setRange? f (c :: rest))

/-- A set behind its opening bracket: how deep it is nested, and what is left. -/
def set? (f : Flags) (cs : List Char) : Option (Nat × List Char) := do
  let (start, rest) ← setStart? f cs
  let (depth, rest) ← setItems? f (rest.length + 1) none start rest
  return (depth + 1, rest)

end StubResolver.Pattern
