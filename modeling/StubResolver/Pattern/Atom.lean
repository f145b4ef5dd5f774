import StubResolver.Pattern.Flags
import StubResolver.Text.Numeral

/-!
# Atoms of patterns

An atom is what a single character or an escape stands for. There is no table of characters, so
that an atom of which the meaning hangs on one has none: letters in either case, and the digits,
blanks or letters of all scripts. Where a pattern speaks of octets, it must not match one that is
no character by itself.
-/

namespace StubResolver.Pattern

/-- What a character or an escape stands for. -/
inductive Atom where
  /-- A character, and whether it is written as an octet, in two hexadecimal digits. -/
  | literal (value : Char) (isOctet : Bool)
  /-- Any character but a line feed. -/
  | any
  /-- The start or end of the text or of a line. -/
  | anchor
  /-- The start or end of a word, or no such place. -/
  | wordBoundary
  /-- A digit, blank or letter, or everything else. -/
  | kind (isNegated : Bool)
  deriving DecidableEq, Repr

namespace Atom

/-- Whether a character behind a backslash stands for itself. -/
def isEscapable (c : Char) : Bool :=
  c.toNat < 128 && !c.isAlphanum && c != '<' && c != '>'

/-- The character of `n` hexadecimal digits behind those of `value`, and what is left. -/
def hexadecimal? (f : Flags) : Nat → Nat → List Char → Option (Char × List Char)
  | 0, value, cs =>
    if value.isValidChar then some (Char.ofNat value, f.skip cs) else none
  | n + 1, value, cs =>
    match f.skip cs with
    | [] => none
    | c :: rest => do hexadecimal? f n (16 * value + (← Text.digitValue? 16 c)) rest

/-- The control character of an escape. -/
def control? (c : Char) : Option Char :=
  match c with
  | 'a' => some (Char.ofNat 7)
  | 'f' => some (Char.ofNat 12)
  | 't' => some '\t'
  | 'n' => some '\n'
  | 'r' => some '\r'
  | 'v' => some (Char.ofNat 11)
  | _ => none

/-- The atom behind a backslash, and what is left. Nothing refers back to a group, and no class of
characters is named by a letter behind `p`. -/
def ofEscape? (f : Flags) : List Char → Option (Atom × List Char)
  | [] => none
  | c :: rest =>
    if c = 'x' then (hexadecimal? f 2 0 rest).map fun (x, rest) => (literal x true, rest)
    else if c = 'u' then (hexadecimal? f 4 0 rest).map fun (x, rest) => (literal x false, rest)
    else if c = 'U' then (hexadecimal? f 8 0 rest).map fun (x, rest) => (literal x false, rest)
    else if ['d', 's', 'w'].contains c then some (kind false, rest)
    else if ['D', 'S', 'W'].contains c then some (kind true, rest)
    else if c = 'A' ∨ c = 'z' then some (anchor, rest)
    else if c = 'b' ∧ rest.head?.map Char.toNat = some 123 then none
    else if ['b', 'B', '<', '>'].contains c then some (wordBoundary, rest)
    else match control? c with
      | some x => some (literal x false, rest)
      | none => if isEscapable c then some (literal c false, rest) else none

/-- Whether the atom has a meaning. -/
def isUsable (f : Flags) : Atom → Bool
  | literal x isOctet => if f.unicode then !f.ignoresCase else !(isOctet && 128 ≤ x.toNat)
  | any => f.unicode
  | anchor | wordBoundary => true
  | kind isNegated => !f.unicode && !isNegated

/-- Whether the atom has a meaning in a set of characters or, if the pattern speaks of octets, of
ASCII characters. -/
def isUsableInSet (f : Flags) : Atom → Bool
  | literal x _ => if f.unicode then !f.ignoresCase else x.toNat < 128
  | kind isNegated => !f.unicode && !isNegated
  | any | anchor | wordBoundary => false

end Atom

end StubResolver.Pattern
