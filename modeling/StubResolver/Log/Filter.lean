import StubResolver.Log.Line
import StubResolver.Pattern.Fault
import StubResolver.Text.Decimal
import StubResolver.Text.Utf8

/-!
# Log filters

A filter is a list of directives, each of which lets a target speak down to some level or
silences it. For a line the most specific directive about it counts; a line that no directive is
about is dropped.
-/

namespace StubResolver

/-- Which lines of its target a directive is about. -/
inductive LogScope where
  | all
  /-- Those with a field of some name. -/
  | withField (name : String)
  /-- Those within a span. Nothing here opens a span, so there are none. -/
  | withinSpan
  deriving DecidableEq, Repr

/-- Whether a scope goes before another one: that of a field before all lines, and of two fields
the one whose name is later in the alphabet. -/
def LogScope.exceeds : LogScope → LogScope → Bool
  | withField a, withField b => b < a
  | withField _, all => true
  | _, _ => false

/-- Down to which level a target may speak; none at all if it is silenced. -/
structure LogDirective where
  /-- What a target has to begin with; the empty text matches all. -/
  target : String
  scope : LogScope
  threshold : Option LogLevel
  deriving DecidableEq, Repr

/-- Directives, where a later one replaces an earlier one for the same target. -/
structure LogFilter where
  directives : List LogDirective
  deriving DecidableEq, Repr

namespace LogDirective

/-- The threshold of a text: a level, or `off` or 0 for none. -/
def threshold? (text : String) : Option (Option LogLevel) :=
  match LogLevel.ofText? text with
  | some l => some (some l)
  | none =>
    if Text.equalIgnoringCase "off".toList text.toList ∨
        Text.numeralUpTo? 10 (UInt64.size - 1) text.toList = some 0 then some none
    else none

/-- Why a text is no directive. -/
inductive Fault where
  /-- It does not have the form of a directive. -/
  | form
  /-- What stands behind its equals sign is no level. -/
  | level
  /-- The value of its field is no pattern. -/
  | field (fault : Pattern.Fault)
  deriving DecidableEq, Repr

/-- What is wrong with a text. -/
def Fault.message : Fault → String
  | form => "invalid filter directive"
  | level =>
    "error parsing level filter: expected one of \"off\", \"error\", \"warn\", " ++
      "\"info\", \"debug\", \"trace\", or a number 0-5"
  | field fault => "invalid field filter: " ++ fault.message

/-- Whether a directive may start with `c`. -/
def isStart (c : Char) : Bool :=
  Text.isAlphanumeric c || c == '-' || c == ':' || c == '_' || c == '['

/-- Whether some characters spell a number, an infinite one and none at all included. -/
def isNumber (cs : List Char) : Bool :=
  (Text.Decimal.ofChars? cs).isSome ||
    ["inf", "infinity", "nan"].any fun name =>
      Text.equalIgnoringCase name.toList (Text.unsigned cs)

/-- What is wrong with the value of a field, which is a number or a pattern. -/
def valueFault? (cs : List Char) : Option Fault :=
  if isNumber cs then none else (Pattern.fault? cs).map .field

/-- The scope of a field in braces: with a value behind an equals sign, it is about spans. -/
def fieldScope (field : List Char) : Except Fault LogScope :=
  let name := field.takeWhile (· != '=')
  match field.drop name.length with
  | [] => .ok (.withField (String.ofList name))
  | _ :: rest =>
    match valueFault? (rest.takeWhile (· != '=')) with
    | some fault => .error fault
    | none => .ok .withinSpan

/-- As many octets as `piece` has, as many octets behind the start of `indent` as `before` has. -/
def shifted (indent before piece : List Char) : List Char :=
  let (_, rest) := Utf8.splitAt (Utf8.size before) (indent ++ before ++ piece)
  (Utf8.splitAt (Utf8.size piece) rest).1

/-- What stands between brackets, behind the opening one, and what is left: the name of a span,
or that of a field in braces, or both. A directive is `indent`, `head` and the bracket up to there.
What a field says is read too far in front, by as much as the directive is indented. -/
def scope? (indent head cs : List Char) : Except Fault (LogScope × List Char) :=
  let span := cs.takeWhile fun c => c != ']' && c.toNat != 123
  match cs.drop span.length with
  | ']' :: rest => .ok (.withinSpan, rest)
  | brace :: rest =>
    let field := rest.takeWhile fun c => c.toNat != 125
    match field.isEmpty, rest.drop field.length with
    | false, _ :: rest => do
      let scope ← fieldScope (shifted indent (head ++ '[' :: span ++ [brace]) field)
      match rest with
      | ']' :: rest => return (if span.isEmpty then scope else .withinSpan, rest)
      | _ => throw .form
    | _, _ => .error .form
  | [] => .error .form

/-- The directive of a target and a scope with what stands behind them: a level behind an equals
sign, or nothing. White space before it all leaves no room for a level. -/
def ofParts (isIndented : Bool) (target : String) (scope : LogScope) :
    List Char → Except Fault LogDirective
  | '=' :: level =>
    if isIndented then .error .level
    else if level.isEmpty then .ok ⟨target, scope, some .trace⟩
    else match threshold? (String.ofList level) with
      | some t => .ok ⟨target, scope, t⟩
      | none => .error .level
  | rest => if rest.all Text.isBlank then .ok ⟨target, scope, some .trace⟩ else .error .form

/-- The directive of a text: a level, or a target, a scope in brackets, or both, and a level that
may be left out. White space at either end is part of it, so that it makes a target of a level; no
line is in a scope behind white space. -/
def ofText (text : String) : Except Fault LogDirective :=
  let indent := text.toList.takeWhile Text.isBlank
  let body := text.toList.drop indent.length
  let head := body.takeWhile fun c => c != '=' && c != '['
  if !(body.head?.any isStart) then .error .form
  else match body.drop head.length with
    | [] =>
      match threshold? text with
      | some t => .ok ⟨"", .all, t⟩
      | none => .ok ⟨text, .all, some .trace⟩
    | '[' :: rest => do
      let (scope, rest) ← scope? indent head rest
      let isIndented := !indent.isEmpty
      ofParts isIndented (String.ofList head) (if isIndented then .withinSpan else scope) rest
    | rest => ofParts (!indent.isEmpty) (String.ofList head) .all rest

/-- Whether the directive is about a line. -/
def concerns (d : LogDirective) (l : LogLine) : Bool :=
  d.target.toList.isPrefixOf l.target.toList &&
    match d.scope with
    | .all => true
    | .withField name => name == "message" || l.fields.any fun f => f.1 == name
    | .withinSpan => false

/-- Whether the directive lets a line pass. -/
def admits (d : LogDirective) (l : LogLine) : Bool :=
  match d.threshold with
  | some level => l.level.rank ≤ level.rank
  | none => false

end LogDirective

namespace LogFilter

/-- The filter of a level for all targets. -/
def ofLevel (level : LogLevel) : LogFilter :=
  ⟨[⟨"", .all, some level⟩]⟩

/-- The parts of a comma-separated list. -/
def parts (text : String) : List String :=
  ((text.toList.splitOn ',').filter fun part => !part.isEmpty).map String.ofList

/-- The filter of a comma-separated list; parts that are no directives do not count. If there are
no directives, `level` holds for all targets. -/
def ofText (text : String) (level : LogLevel) : LogFilter :=
  let directives := (parts text).filterMap fun part => (LogDirective.ofText part).toOption
  if directives.isEmpty then ofLevel level else ⟨directives⟩

/-- The parts of a list that do not count, each with what is wrong with it. -/
def refusals (text : String) : List String :=
  (parts text).filterMap fun part =>
    match LogDirective.ofText part with
    | .ok _ => none
    | .error fault => some ("`" ++ part ++ "`: " ++ fault.message)

/-- What is said of a part that does not count. -/
def notice (refusal : String) : String :=
  "ignoring " ++ refusal

/-- The directive that counts, of `d` and a later one that are both about a line. -/
def closer (d later : LogDirective) : LogDirective :=
  if later.target.length < d.target.length then d
  else if d.target.length < later.target.length then later
  else if d.scope.exceeds later.scope then d
  else later

/-- The directive that counts for a line. -/
def directiveFor? (f : LogFilter) (l : LogLine) : Option LogDirective :=
  match f.directives.filter fun d => d.concerns l with
  | [] => none
  | d :: rest => some (rest.foldl closer d)

/-- Whether a line passes. -/
def admits (f : LogFilter) (l : LogLine) : Bool :=
  match f.directiveFor? l with
  | some d => d.admits l
  | none => false

end LogFilter

end StubResolver
