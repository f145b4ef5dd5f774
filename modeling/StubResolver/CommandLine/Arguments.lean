/-!
# Command line arguments

Options stand before or after the command; one that stands on both sides counts behind it. An
option of one letter may have its value attached, and several letters may share a dash. A value
that is an argument of its own is looked at when the next argument on its side has come: what
stands right before the command is faulty only if nothing behind the command is.
-/

namespace StubResolver.CommandLine

/-- What the program is asked to do. -/
inductive Command where
  | query (name type : String)
  | txt (host : String)
  | dnslink (host : String)
  | dnsaddr (host : String)
  | validate (verbose : Bool)
  deriving DecidableEq, Repr

/-- What the program is called with. -/
structure Arguments where
  /-- The configuration file. -/
  config? : Option String
  /-- The servers to ask instead of those of the configuration. -/
  servers : List String
  logLevel? : Option String
  /-- Whether results are printed as JSON. -/
  json : Bool
  /-- Whether counters are printed. -/
  stats : Bool
  command : Command
  deriving DecidableEq, Repr

/-- Why there is nothing to do. -/
inductive Refusal where
  /-- The version of a program was asked for. -/
  | version (program : String)
  | help
  /-- The arguments cannot be understood. -/
  | misuse (problem : String)
  deriving DecidableEq, Repr

/-- The word of a command. -/
inductive Verb where
  | query | txt | dnslink | dnsaddr | validate
  deriving DecidableEq, Repr

/-- An option. -/
inductive Switch where
  | config | server | logLevel | json | stats | type | verbose | version | help
  deriving DecidableEq, Repr

namespace Verb

/-- Every command word. -/
def all : List Verb :=
  [query, txt, dnslink, dnsaddr, validate]

/-- How many words follow a command. -/
def wordCount : Verb → Nat
  | validate => 0
  | query | txt | dnslink | dnsaddr => 1

/-- How a command word is written. -/
def toText : Verb → String
  | query => "query" | txt => "txt" | dnslink => "dnslink" | dnsaddr => "dnsaddr"
  | validate => "validate"

end Verb

namespace Switch

/-- Every option. -/
def all : List Switch :=
  [config, server, logLevel, json, stats, type, verbose, version, help]

/-- The long name of an option. -/
def longName : Switch → String
  | config => "config" | server => "server" | logLevel => "log-level" | json => "json"
  | stats => "stats" | type => "type" | verbose => "verbose" | version => "version"
  | help => "help"

/-- The letter of an option, if it has one. -/
def letter? : Switch → Option Char
  | config => some 'c' | server => some 's' | logLevel => some 'l' | json => none
  | stats => none | type => some 't' | verbose => some 'v' | version => some 'V'
  | help => some 'h'

/-- Whether an option has a value. -/
def hasValue : Switch → Bool
  | config | server | logLevel | type => true
  | json | stats | verbose | version | help => false

/-- Whether an option may stand behind a command, or before any. -/
def belongsTo (s : Switch) (verb : Option Verb) : Bool :=
  match s with
  | type => verb == some .query
  | verbose => verb == some .validate
  | _ => true

/-- The option of a long name. -/
def ofName? (verb : Option Verb) (name : String) : Option Switch :=
  all.find? fun s => s.longName == name && s.belongsTo verb

/-- The option of a letter. -/
def ofLetter? (verb : Option Verb) (letter : Char) : Option Switch :=
  all.find? fun s => s.letter? == some letter && s.belongsTo verb

end Switch

/-- What stands on one side of the command: options with their values, last first, and words. -/
structure Side where
  switches : List (Switch × String)
  words : List String
  /-- The option whose value was the last argument, which is not among the others yet. -/
  pending : Option (Switch × String)

namespace Side

/-- Nothing. -/
def empty : Side := ⟨[], [], none⟩

/-- The values of an option, in order. -/
def values (side : Side) (s : Switch) : List String :=
  (side.switches.filter fun entry => entry.1 == s).reverse.map (·.2)

/-- Whether an option is there. -/
def has (side : Side) (s : Switch) : Bool :=
  side.switches.any fun entry => entry.1 == s

/-- With an option and its value. Only servers may be given several times. -/
def put (side : Side) (s : Switch) (value : String) : Except Refusal Side :=
  if s ≠ .server ∧ side.has s then
    .error (.misuse ("the option --" ++ s.longName ++ " cannot be used several times"))
  else if s = .config ∧ value.isEmpty then .error (.misuse "a file name is empty")
  else .ok { side with switches := (s, value) :: side.switches }

/-- With the pending option among the others. -/
def settle (side : Side) : Except Refusal Side :=
  match side.pending with
  | none => .ok side
  | some (s, value) => { side with pending := none }.put s value

end Side

/-- The arguments read so far. -/
structure Reading where
  verb : Option Verb
  /-- What stands before the command. -/
  before : Side
  /-- What stands on the side that is read. -/
  current : Side
  /-- The option whose value comes next. -/
  awaited : Option Switch
  /-- Whether all that comes are words. -/
  onlyWords : Bool

namespace Reading

/-- Before the first argument. -/
def start : Reading :=
  ⟨none, .empty, .empty, none, false⟩

/-- The name of the program, with its command if there is one. -/
def program (r : Reading) : String :=
  match r.verb with
  | some verb => "frey-" ++ verb.toText
  | none => "frey"

/-- With an option and its value. -/
def set (r : Reading) (s : Switch) (value : String) : Except Refusal Reading := do
  let current ← r.current.settle
  if s = .version then throw (.version r.program)
  if s = .help then throw .help
  return { r with current := ← current.put s value }

/-- With an option whose value, if it has one, is the next argument. -/
def begin (r : Reading) (s : Switch) : Except Refusal Reading := do
  if s.hasValue then return { r with current := ← r.current.settle, awaited := some s }
  else r.set s ""

/-- With the value of an option that awaits it. -/
def supply (r : Reading) (s : Switch) (value : String) : Reading :=
  { r with current := { r.current with pending := some (s, value) }, awaited := none }

/-- The arguments with letters behind a dash. -/
def letters (r : Reading) : List Char → Except Refusal Reading
  | [] => .ok r
  | c :: rest =>
    match Switch.ofLetter? r.verb c with
    | none => .error (.misuse ("there is no option -" ++ c.toString))
    | some s =>
      if !s.hasValue then do (← r.set s "").letters rest
      else match rest with
        | [] => r.begin s
        | '=' :: value => r.set s (String.ofList value)
        | value => r.set s (String.ofList value)

/-- The arguments with what stands behind two dashes. -/
def long (r : Reading) (cs : List Char) : Except Refusal Reading :=
  let name := cs.takeWhile (· != '=')
  let value? := (cs.drop name.length).tail?
  match Switch.ofName? r.verb (String.ofList name), value? with
  | none, _ => .error (.misuse ("there is no option --" ++ String.ofList name))
  | some s, none => r.begin s
  | some s, some value =>
    if s.hasValue then r.set s (String.ofList value)
    else .error (.misuse ("the option --" ++ s.longName ++ " has no value"))

/-- The arguments with the word of a command. -/
def commandWord (r : Reading) (text : String) : Except Refusal Reading :=
  match Verb.all.find? fun v => v.toText == text with
  | some verb =>
    if r.onlyWords then .error (.misuse ("unexpected word " ++ text))
    else .ok { r with verb := some verb, before := r.current, current := .empty }
  | none => if text = "help" then .error .help else .error (.misuse ("no command " ++ text))

/-- The arguments with a word: the command, or one of its words. -/
def word (r : Reading) (text : String) : Except Refusal Reading :=
  match r.verb with
  | none => r.commandWord text
  | some verb => do
    let current ← r.current.settle
    if verb.wordCount ≤ current.words.length then throw (.misuse ("unexpected word " ++ text))
    return { r with current := { current with words := current.words ++ [text] } }

/-- With one more argument. -/
def feed (r : Reading) (text : String) : Except Refusal Reading :=
  match r.onlyWords, text.toList with
  | true, _ => r.word text
  | false, '-' :: c :: rest =>
    if r.awaited.isSome then .error (.misuse "an option lacks its value")
    else if c = '-' then
      if rest.isEmpty then .ok { r with onlyWords := true } else r.long rest
    else r.letters (c :: rest)
  | false, _ =>
    match r.awaited with
    | some s => .ok (r.supply s text)
    | none => r.word text

/-- The values of an option behind the command, or else before it. -/
def values (r : Reading) (s : Switch) : List String :=
  let behind := r.current.values s
  if behind.isEmpty then r.before.values s else behind

/-- The value of an option. -/
def value? (r : Reading) (s : Switch) : Option String :=
  (r.values s).head?

/-- Whether an option is there. -/
def has (r : Reading) (s : Switch) : Bool :=
  r.current.has s || r.before.has s

/-- The command with its words. -/
def command (r : Reading) : Except Refusal Command :=
  match r.verb, r.current.words with
  | some .query, [name] => .ok (.query name ((r.value? .type).getD "A"))
  | some .txt, [host] => .ok (.txt host)
  | some .dnslink, [host] => .ok (.dnslink host)
  | some .dnsaddr, [host] => .ok (.dnsaddr host)
  | some .validate, [] => .ok (.validate (r.has .verbose))
  | none, _ => .error (.misuse "a command is missing")
  | some verb, _ => .error (.misuse ("a word is missing behind " ++ verb.toText))

/-- Whether an option is there on both sides of the command. -/
def hasTwice (r : Reading) (s : Switch) : Bool :=
  r.current.has s && r.before.has s

/-- With nothing pending on either side, and the command. -/
def finish (r : Reading) : Except Refusal (Reading × Command) := do
  if r.awaited.isSome then throw (.misuse "an option lacks its value")
  let r := { r with current := ← r.current.settle }
  let command ← r.command
  return ({ r with before := ← r.before.settle }, command)

end Reading

/-- The arguments that some texts stand for; `config?` is the configuration file on a side of the
command that names none. -/
def Arguments.ofList (config? : Option String) (texts : List String) :
    Except Refusal Arguments := do
  let (r, command) ← (← texts.foldlM Reading.feed .start).finish
  if config? = some "" ∧ !r.hasTwice .config then throw (.misuse "a file name is empty")
  return {
    config? := (r.value? .config).or config?
    servers := r.values .server
    logLevel? := r.value? .logLevel
    json := r.has .json
    stats := r.has .stats
    command := command }

end StubResolver.CommandLine
