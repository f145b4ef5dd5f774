import StubResolver.Octets

/-!
# Paths

A path is told from others by the names on it. Empty names and single dots do not count, except
that at the end of a path they say that it leads to a directory.
-/

namespace StubResolver

/-- A path to a file or directory. -/
structure Path where
  /-- Whether it starts at the root, and not in the working directory. -/
  isAbsolute : Bool
  names : List String
  /-- Whether it can only lead to a directory. -/
  endsInDirectory : Bool
  deriving DecidableEq, Repr

namespace Path

/-- The path that a text spells. -/
def ofText (text : String) : Path :=
  let parts := (text.toList.splitOn '/').map String.ofList
  let isSilent (part : String) := part.isEmpty || part == "."
  ⟨text.toList.head? == some '/', parts.filter fun part => !isSilent part,
    (parts.getLast?.map isSilent).getD true⟩

/-- What follows the last dot in the last name, if something stands before that dot. -/
def extension? (p : Path) : Option String := do
  let name ← p.names.getLast?
  let parts := name.toList.splitOn '.'
  if name = ".." ∨ parts.length < 2 ∨ parts.dropLast = [[]] then none
  else parts.getLast?.map String.ofList

/-- Whether it leads to the working directory, or only upwards from there or from the root. -/
def isRoot (p : Path) : Bool :=
  p.names.all (· == "..")

end Path

/-- What there is at a path. -/
inductive Found where
  | nothing
  | directory
  | file (content : Octets)
  deriving Repr

namespace Found

/-- Whether there is something. -/
def isSome : Found → Bool
  | nothing => false
  | directory | file _ => true

/-- What some files leave at a path. -/
def ofFiles (files : List (String × Octets)) (text : String) : Found :=
  let p := Path.ofText text
  let file? := files.find? fun f =>
    let q := Path.ofText f.1
    q.isAbsolute == p.isAbsolute && q.names == p.names
  if p.isRoot then directory
  else match file? with
    | some (_, content) => if p.endsInDirectory then nothing else file content
    | none => nothing

end Found

end StubResolver
