import StubResolver.Json.Value
import StubResolver.Octets
import StubResolver.Text.Utf8

/-!
# Structures and variants in JSON

A structure is an object of its fields, or the list of them in order. A variant without contents
is its name, and one with contents an object whose one member has that name.
-/

namespace StubResolver.Json

/-- The fields of a structure that are there, with their names. -/
structure Fields where
  values : List (String × Json)

namespace Fields

/-- The fields named by `names` in an object, where none may come twice; other members do not
count. -/
def ofMembers? (names : List String) (members : List (String × Json)) : Option Fields :=
  let values := members.filter fun m => names.contains m.1
  if (values.map (·.1)).Nodup then some ⟨values⟩ else none

/-- The fields of a structure that may lack some: in a list only the last ones. -/
def ofSparse? (names : List String) : Json → Option Fields
  | .object members => ofMembers? names members
  | .list items => if items.length ≤ names.length then some ⟨names.zip items⟩ else none
  | _ => none

/-- The fields of a structure; a list has to hold all of them. -/
def ofJson? (names : List String) : Json → Option Fields
  | .object members => ofMembers? names members
  | .list items => if items.length = names.length then some ⟨names.zip items⟩ else none
  | _ => none

/-- The field of a name, read by `read`. -/
def get? {α : Type} (f : Fields) (name : String) (read : Json → Option α) : Option α :=
  (f.values.lookup name).bind read

/-- The field of a name, read by `read`, or `default` where it is missing. -/
def getOr? {α : Type} (f : Fields) (name : String) (read : Json → Option α) (default : α) :
    Option α :=
  match f.values.lookup name with
  | some v => read v
  | none => some default

end Fields

/-- The name of a variant without contents. -/
def unitVariant? : Json → Option String
  | .text name => some name
  | .object [(name, .null)] => some name
  | _ => none

/-- The name and contents of a variant with contents. -/
def variant? : Json → Option (String × Json)
  | .object [member] => some member
  | _ => none

/-- A variant with contents. -/
def ofVariant (name : String) (contents : Json) : Json :=
  .object [(name, contents)]

/-- An 8-bit number. -/
def word8? (j : Json) : Option UInt8 :=
  (j.naturalUpTo? (UInt8.size - 1)).map UInt8.ofNat

/-- A 16-bit number. -/
def word16? (j : Json) : Option UInt16 :=
  (j.naturalUpTo? (UInt16.size - 1)).map UInt16.ofNat

/-- A 32-bit number. -/
def word32? (j : Json) : Option UInt32 :=
  (j.naturalUpTo? (UInt32.size - 1)).map UInt32.ofNat

/-- A signed 64-bit number. -/
def int64? (j : Json) : Option Int64 := do
  let n ← j.integer?
  if Int64.minValue.toInt ≤ n ∧ n ≤ Int64.maxValue.toInt then some (Int64.ofInt n) else none

/-- Nothing, or what `read` reads. -/
def nullable? {α : Type} (read : Json → Option α) : Json → Option (Option α)
  | .null => some none
  | j => (read j).map some

/-- The items of a list, each read by `read`. -/
def listOf? {α : Type} (read : Json → Option α) (j : Json) : Option (List α) :=
  j.items?.bind fun items => items.mapM read

/-- A number. -/
def ofNat (n : Nat) : Json :=
  .integer n

/-- Octets as a list of numbers. -/
def ofOctets (bytes : Octets) : Json :=
  .list (bytes.map fun b => ofNat b.toNat)

/-- Octets from a list of numbers, or those of a text. -/
def octets? : Json → Option Octets
  | .text s => some (Utf8.encode s)
  | .list items => items.mapM word8?
  | _ => none

end StubResolver.Json
