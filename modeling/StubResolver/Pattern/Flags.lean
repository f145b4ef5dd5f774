import StubResolver.Text.Blank

/-!
# Flags of patterns

A pattern is a regular expression. Its flags say how what follows is read: they are set by letters
between `(?` and a colon or parenthesis, those behind a dash are unset, and no letter comes twice.
-/

namespace StubResolver.Pattern

/-- The flags that decide whether a pattern can be used. -/
structure Flags where
  ignoresCase : Bool
  /-- Whether it speaks of characters; if not, it speaks of octets. -/
  unicode : Bool
  /-- Whether white space and comments are left out. -/
  extended : Bool
  deriving DecidableEq, Repr

namespace Flags

/-- The flags at the start of a pattern. -/
def standard : Flags := ⟨false, true, false⟩

/-- The letters that name flags, four of which change nothing that counts here. -/
def letters : List Char := ['i', 'm', 's', 'U', 'u', 'R', 'x']

/-- The letters and the dash in front of a colon or parenthesis, behind those of `before`, with
what is left. -/
def letters? : List Char → List Char → Option (List Char × List Char)
  | [], _ => none
  | c :: rest, before =>
    if c = ':' ∨ c = ')' then
      if before.getLast? = some '-' then none else some (before, c :: rest)
    else if (c = '-' ∨ letters.contains c) ∧ !before.contains c then letters? rest (before ++ [c])
    else none

/-- The flags as some letters with a dash among them set them. -/
def set (f : Flags) (items : List Char) : Flags :=
  let on := items.takeWhile (· != '-')
  let isSet (c : Char) (before : Bool) := on.contains c || (before && !items.contains c)
  ⟨isSet 'i' f.ignoresCase, isSet 'u' f.unicode, isSet 'x' f.extended⟩

/-- What is left behind white space and comments, each of which runs to the end of its line. -/
def skipBlanks : List Char → Bool → List Char
  | [], _ => []
  | c :: rest, true => skipBlanks rest (c != '\n')
  | c :: rest, false =>
    if c = '#' then skipBlanks rest true
    else if Text.isBlank c then skipBlanks rest false
    else c :: rest

/-- What is left where the next character counts. -/
def skip (f : Flags) (cs : List Char) : List Char :=
  if f.extended then skipBlanks cs false else cs

/-- The first character that is neither white space nor the first number sign. -/
def firstVisible? : List Char → Bool → Option Char
  | [], _ => none
  | c :: rest, inComment =>
    if Text.isBlank c then firstVisible? rest inComment
    else if c = '#' ∧ !inComment then firstVisible? rest true
    else some c

/-- The next character, as a glance ahead finds it: in a comment too, and a blank one if there is
no other. -/
def peek? (f : Flags) (cs : List Char) : Option Char :=
  if f.extended then (firstVisible? cs false).or cs.head? else cs.head?

end Flags

end StubResolver.Pattern
