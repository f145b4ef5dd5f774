import StubResolver.Json.Text
import StubResolver.Log.Level
import StubResolver.Text.Quoted

/-!
# Log lines

A line says what happened, where, how grave it is, and with what values. It is written as text or
as a JSON object.
-/

namespace StubResolver

/-- A value in a log line. -/
inductive LogValue where
  /-- Presented text, as it is. -/
  | shown (text : String)
  /-- Text of unknown origin, in quotes. -/
  | quoted (text : String)
  | number (value : Int)
  deriving DecidableEq, Repr

/-- One line of a log. -/
structure LogLine where
  level : LogLevel
  /-- The part of the program that speaks. -/
  target : String
  message : String
  fields : List (String × LogValue)
  deriving DecidableEq, Repr

/-- A value in a line of text. -/
def LogValue.toText : LogValue → String
  | shown text => text
  | quoted text => Text.quote text
  | number value => toString value

/-- A value in a JSON line. -/
def LogValue.toJson : LogValue → Json
  | shown text => .text text
  | quoted text => .text text
  | number value => .integer value

namespace LogLine

/-- The line as text: level, target, message and fields. -/
def toText (l : LogLine) : String :=
  l.level.toText ++ " " ++ l.target ++ ": " ++ l.message ++
    String.join (l.fields.map fun f => " " ++ f.1 ++ "=" ++ f.2.toText)

/-- The line as a JSON object; the message is the first of its fields. -/
def toJson (l : LogLine) : Json :=
  .object [("level", .text l.level.toText),
    ("fields", .object (("message", .text l.message) :: l.fields.map fun f => (f.1, f.2.toJson))),
    ("target", .text l.target)]

end LogLine

end StubResolver
