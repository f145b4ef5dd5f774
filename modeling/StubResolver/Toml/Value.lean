/-!
# TOML values

A table grows while its document is read, and how it came to be decides what may still be added: a
header opens a table once, and dotted keys do not reach into what a header opened.
-/

namespace StubResolver

/-- How a table came to be. -/
inductive Toml.Origin where
  /-- Named by a header, or the document itself. -/
  | header
  /-- On the way to a table that a header names. -/
  | implied
  /-- On the way to a value whose key is dotted. -/
  | dotted
  /-- Between braces. -/
  | closed
  deriving DecidableEq, Repr

/-- A TOML value. -/
inductive Toml where
  | text (value : String)
  | integer (value : Int)
  | bool (value : Bool)
  | float
  /-- A date, a time of day, or both. -/
  | time
  | list (items : List Toml)
  | table (origin : Toml.Origin) (members : List (String × Toml))
  /-- The tables of repeated headers, last first. -/
  | tables (elements : List (List (String × Toml)))
  deriving Repr

namespace Toml

/-- The members of a table, first one first. -/
abbrev Members := List (String × Toml)

instance : Inhabited Toml := ⟨table .header []⟩

/-- The members with another value under a key, or with one more member. -/
def put (key : String) (v : Toml) : Members → Members
  | [] => [(key, v)]
  | m :: rest => if m.1 = key then (key, v) :: rest else m :: put key v rest

/-- Changes the table at the end of a path by `f`, which is given its origin. Tables that are
missing on the way come to be; of repeated tables the path leads into the last one. -/
def modifyAt (dotted : Bool) (f : Origin → Members → Option Members) :
    List String → Origin → Members → Option Members
  | [], origin, members => f origin members
  | key :: path, _, members =>
    match members.lookup key with
    | none => do
      let origin := if dotted then Origin.dotted else .implied
      return put key (.table origin (← modifyAt dotted f path origin [])) members
    | some (.table origin inner) =>
      if origin = .closed ∨ (dotted ∧ origin = .header) then none
      else do return put key (.table origin (← modifyAt dotted f path origin inner)) members
    | some (.tables (last :: before)) => do
      return put key (.tables ((← modifyAt dotted f path .header last) :: before)) members
    | some _ => none

/-- Gives a key of a table its value; a path that leads to it from the table is dotted. -/
def define (path : List String) (key : String) (v : Toml) (members : Members) : Option Members :=
  modifyAt true (fun origin inner =>
    if !path.isEmpty && origin != .dotted then none
    else if (inner.lookup key).isSome then none
    else some (put key v inner)) path .header members

/-- Opens the table of a header. -/
def openTable (path : List String) (key : String) (document : Members) : Option Members :=
  modifyAt false (fun _ inner =>
    match inner.lookup key with
    | none => some (put key (.table .header []) inner)
    | some (.table .implied members) => some (put key (.table .header members) inner)
    | some _ => none) path .header document

/-- Opens one more table of a repeated header. -/
def appendTable (path : List String) (key : String) (document : Members) : Option Members :=
  modifyAt false (fun _ inner =>
    match inner.lookup key with
    | none => some (put key (.tables [[]]) inner)
    | some (.tables elements) => some (put key (.tables ([] :: elements)) inner)
    | some _ => none) path .header document

/-- Gives a key below the table of a header its value. -/
def defineIn (header path : List String) (key : String) (v : Toml) (document : Members) :
    Option Members :=
  modifyAt false (fun _ inner => define path key v inner) header .header document

end Toml

end StubResolver
