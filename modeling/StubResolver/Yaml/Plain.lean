import StubResolver.Text.Decimal

/-!
# What a scalar without quotes stands for

Nothing, a truth value, an integer, or a number with a fraction; anything else is only a text.
-/

namespace StubResolver.Yaml.Plain

/-- Whether it stands for nothing. -/
def isNull (text : String) : Bool :=
  ["", "~", "null", "Null", "NULL"].contains text

/-- The truth value that it stands for. -/
def bool? (text : String) : Option Bool :=
  if ["true", "True", "TRUE"].contains text then some true
  else if ["false", "False", "FALSE"].contains text then some false
  else none

/-- Whether it is a text because of its leading zero, though all else are digits. -/
def isPadded (cs : List Char) : Bool :=
  match Text.unsigned cs with
  | '0' :: c :: rest => (c :: rest).all Char.isDigit
  | _ => false

/-- The number behind a sign, with a prefix for a base other than ten; it has at most 128 bits. -/
def magnitude? (cs : List Char) : Option Nat :=
  let limit := 0xFFFFFFFFFFFFFFFFFFFFFFFFFFFFFFFF
  match cs with
  | '0' :: 'x' :: rest => Text.digitsUpTo? 16 limit rest
  | '0' :: 'o' :: rest => Text.digitsUpTo? 8 limit rest
  | '0' :: 'b' :: rest => Text.digitsUpTo? 2 limit rest
  | _ => if isPadded cs then none else Text.digitsUpTo? 10 limit cs

/-- The number without a minus sign that it stands for. -/
def natural? (text : String) : Option Nat :=
  match text.toList with
  | '-' :: _ => none
  | '+' :: rest => magnitude? rest
  | cs => magnitude? cs

/-- The integer that it stands for. -/
def integer? (text : String) : Option Int :=
  match text.toList with
  | '-' :: rest => (magnitude? rest).map fun n => -(n : Int)
  | _ => (natural? text).map fun n => (n : Int)

/-- Whether it stands for a number with a fraction, an infinite one, or none of the numbers. -/
def isFloat (text : String) : Bool :=
  [".inf", ".Inf", ".INF", "+.inf", "+.Inf", "+.INF", "-.inf", "-.Inf", "-.INF", ".nan", ".NaN",
    ".NAN"].contains text || (Text.Decimal.ofChars? text.toList).any Text.Decimal.isFinite

/-- Whether it would be read as something else than a text, or taken for a number. -/
def isAmbiguous (text : String) : Bool :=
  isNull text || (bool? text).isSome || isPadded text.toList || isFloat text ||
    (integer? text).any (-0x80000000000000000000000000000000 ≤ ·)

end StubResolver.Yaml.Plain
