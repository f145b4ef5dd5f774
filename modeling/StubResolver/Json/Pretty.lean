import StubResolver.Json.Text

/-! JSON text over several lines, where each level is indented by two more spaces. -/

namespace StubResolver.Json

/-- Some lines between an opening and a closing character. -/
def enclosedLines (first last : Nat) (margin : String) (parts : List String) : String :=
  if parts.isEmpty then enclosed first last []
  else
    let inner := "\n" ++ margin ++ "  "
    (Char.ofNat first).toString ++ inner ++ ("," ++ inner).intercalate parts ++ "\n" ++ margin ++
      (Char.ofNat last).toString

mutual

/-- The text of a value whose first line stands behind `margin` already. -/
def pretty (margin : String) : Json → String
  | .list items => enclosedLines 91 93 margin (prettyItems (margin ++ "  ") items)
  | .object members => enclosedLines 123 125 margin (prettyMembers (margin ++ "  ") members)
  | v => v.toText

/-- The texts of the items of a list. -/
def prettyItems (margin : String) : List Json → List String
  | [] => []
  | v :: rest => pretty margin v :: prettyItems margin rest

/-- The texts of the members of an object. -/
def prettyMembers (margin : String) : List (String × Json) → List String
  | [] => []
  | (name, v) :: rest => (quoted name ++ ": " ++ pretty margin v) :: prettyMembers margin rest

end

end StubResolver.Json
