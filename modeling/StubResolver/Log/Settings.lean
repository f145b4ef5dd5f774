import StubResolver.Log.Filter

/-! How to log: the format of the lines and the level that holds if the environment names none. -/

namespace StubResolver

/-- The format of log lines. -/
inductive LogFormat where
  | text | json
  deriving DecidableEq, Repr

namespace LogFormat

/-- The name of a format. -/
def toText : LogFormat → String
  | text => "text" | json => "json"

/-- The format of a text: a name in any case. -/
def ofText? (s : String) : Option LogFormat :=
  let lower := String.ofList (s.toList.map Text.lowerAscii)
  if lower = "text" ∨ lower = "pretty" then some text
  else if lower = "json" then some json
  else none

/-- What is wrong with text that is no format. -/
def unknownText (s : String) : String :=
  "unknown log format '" ++ s ++ "' (expected text or json)"

end LogFormat

/-- How to log. -/
structure LogSettings where
  level : LogLevel
  format : LogFormat
  /-- Whether opening and closing of spans is logged. -/
  spanEvents : Bool
  deriving DecidableEq, Repr

namespace LogSettings

/-- Down to level info, as text. -/
def standard : LogSettings :=
  ⟨.info, .text, false⟩

instance : Inhabited LogSettings := ⟨standard⟩

/-- What is said when the log is set up a second time. -/
def alreadySetText : String :=
  "a global default trace dispatcher has already been set"

/-- The outcome of setting up the log, given whether it has been set up before. -/
def install (alreadySet : Bool) : Except String Unit :=
  if alreadySet then .error alreadySetText else .ok ()

/-- The filter for directives of the environment. -/
def filter (s : LogSettings) (directives : String) : LogFilter :=
  .ofText directives s.level

end LogSettings

end StubResolver
