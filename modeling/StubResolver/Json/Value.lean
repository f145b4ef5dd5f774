/-!
# JSON values

Members keep their order; a number that is no 64-bit integer keeps its spelling. A text can spell
half of a character by an escape. Nothing reads such a text, but it may stand where nothing reads.
-/

namespace StubResolver

/-- A JSON value. -/
inductive Json where
  | null
  | bool (value : Bool)
  | integer (value : Int)
  /-- A number with a fraction or exponent, or too large, as it is spelled. -/
  | decimal (literal : String)
  | text (value : String)
  | list (items : List Json)
  | object (members : List (String × Json))
  /-- A text in which half of a character stands alone, or an object with such a name in it. -/
  | broken
  deriving Repr

namespace Json

instance : Inhabited Json := ⟨null⟩

/-- The object of some members, if each has a name. -/
def ofMembers (members : List (Option String × Json)) : Json :=
  match members.mapM fun m => m.1.map fun name => (name, m.2) with
  | some named => object named
  | none => broken

/-- The value of the member with a name; of several the last one counts. -/
def member? (name : String) : Json → Option Json
  | object members => (members.reverse.find? fun m => m.1 == name).map (·.2)
  | _ => none

/-- The items of a list. -/
def items? : Json → Option (List Json)
  | list items => some items
  | _ => none

/-- The members of an object. -/
def members? : Json → Option (List (String × Json))
  | object members => some members
  | _ => none

/-- The characters of a text. -/
def text? : Json → Option String
  | text value => some value
  | _ => none

/-- The truth value. -/
def bool? : Json → Option Bool
  | bool value => some value
  | _ => none

/-- The integer. -/
def integer? : Json → Option Int
  | integer value => some value
  | _ => none

/-- The integer, if it is not negative and at most `limit`. -/
def naturalUpTo? (limit : Nat) (j : Json) : Option Nat := do
  let n ← j.integer?
  if 0 ≤ n ∧ n ≤ limit then some n.toNat else none

end Json

end StubResolver
