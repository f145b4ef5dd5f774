import StubResolver.RecordType.Text
import StubResolver.Text.Numeral

/-! Log levels, from the gravest down, and their names. -/

namespace StubResolver

/-- How grave a log line is. -/
inductive LogLevel where
  | error | warn | info | debug | trace
  deriving DecidableEq, Repr

namespace LogLevel

/-- Every level, the gravest first. -/
def all : List LogLevel :=
  [error, warn, info, debug, trace]

/-- The number of a level. -/
def rank : LogLevel → Nat
  | error => 1 | warn => 2 | info => 3 | debug => 4 | trace => 5

/-- The name of a level. -/
def toText : LogLevel → String
  | error => "ERROR" | warn => "WARN" | info => "INFO" | debug => "DEBUG" | trace => "TRACE"

/-- The level of a text: its name in any case, or its number. -/
def ofText? (text : String) : Option LogLevel :=
  match Text.numeralUpTo? 10 (UInt64.size - 1) text.toList with
  | some n => all.find? fun l => l.rank == n
  | none => all.find? fun l => Text.equalIgnoringCase l.toText.toList text.toList

/-- What is wrong with text that is no level. -/
def unknownText : String :=
  "error parsing level: expected one of \"error\", \"warn\", " ++
    "\"info\", \"debug\", \"trace\", or a number 1-5"

end LogLevel

end StubResolver
