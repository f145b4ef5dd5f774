import StubResolver.CommandLine.Arguments
import StubResolver.Config.File
import StubResolver.Json.Pretty
import StubResolver.Message.Presentation
import StubResolver.RecordType.Text
import StubResolver.Resolver.Discovery

/-!
# The program

What each command prints, and how it fails. A failure is printed with its causes, in words from
the outermost in.
-/

namespace StubResolver.CommandLine

/-- A piece of what the program prints. -/
inductive Printed where
  | output (text : String)
  | diagnostic (text : String)
  /-- A log line, which is a diagnostic with a time before it. -/
  | log (format : LogFormat) (line : LogLine)
  deriving Repr

/-- What the program has printed, the last piece first. -/
structure Transcript where
  pieces : List Printed
  deriving Repr

/-- A failure and its causes, in words. -/
abbrev Failure := List String

/-- A part of the program: it prints, and may fail. -/
abbrev Procedure := EStateM Failure Transcript

/-- What the program finds around it: files, log directives, and a link for its queries. -/
structure Surroundings (σ : Type) where
  /-- The files by their paths. -/
  files : List (String × Octets)
  /-- The log directives of the environment. -/
  directives : String
  link : Resolver.Link σ
  world : σ

/-- What is left of a run. -/
structure Report where
  exitCode : UInt8
  printed : List Printed
  deriving Repr

variable {σ α : Type}

/-! ### Printing and failing -/

namespace Procedure

/-- Prints a piece. -/
def print (p : Printed) : Procedure Unit :=
  modify fun t => ⟨p :: t.pieces⟩

/-- Prints a line of output. -/
def line (text : String) : Procedure Unit :=
  print (.output (text ++ "\n"))

/-- Prints a line of diagnostics. -/
def note (text : String) : Procedure Unit :=
  print (.diagnostic (text ++ "\n"))

/-- A value, or a failure for the reasons that the error comes with. -/
def ofExcept {ε : Type} (reasons : ε → Failure) : Except ε α → Procedure α
  | .ok a => pure a
  | .error e => throw (reasons e)

/-- A value, or a failure of a configuration. -/
def ofConfig (e : Except ConfigError α) : Procedure α :=
  ofExcept ConfigError.chain e

/-- What a failure of `a` means. -/
def within (meaning : String) (a : Procedure α) : Procedure α :=
  tryCatch a fun causes => throw (meaning :: causes)

end Procedure

open Procedure

/-- A text whose further lines are indented. -/
def indented (margin text : String) : String :=
  ("\n" ++ margin).intercalate ((text.toList.splitOn '\n').map String.ofList)

/-- The cause with a number, one under the other. -/
def numberedCauses (causes : List String) : List String :=
  causes.zipIdx.map fun (cause, i) =>
    let number := toString i
    let margin := String.ofList (List.replicate (5 - number.length) ' ')
    margin ++ number ++ ": " ++ indented "       " cause

/-- A failure in words. -/
def failureText : Failure → String
  | [] => "Error: "
  | [top] => "Error: " ++ top
  | [top, cause] => "Error: " ++ top ++ "\n\nCaused by:\n    " ++ indented "    " cause
  | top :: causes =>
    "Error: " ++ top ++ "\n\nCaused by:\n" ++ "\n".intercalate (numberedCauses causes)

/-! ### Configuration -/

/-- Where a configuration is looked for. -/
def standardPaths : List String :=
  ["./frey.yaml", "./frey.yml", "./frey.toml", "./frey.json", "/etc/frey/frey.yaml"]

/-- The path of the configuration: the one that is given, or the first where there is a file. -/
def configPath? (a : Arguments) (files : List (String × Octets)) : Option String :=
  match a.config? with
  | some path => some path
  | none => standardPaths.find? fun path => (Found.ofFiles files path).isSome

/-- The configuration at a path. -/
def loadFile (s : Surroundings σ) (path : String) : Procedure Config :=
  within ("Failed to load configuration from " ++ path)
    (ofConfig (Config.ofFile path (.ofFiles s.files path)))

/-- The configuration to work with. -/
def loadConfig (s : Surroundings σ) (a : Arguments) : Procedure Config :=
  match configPath? a s.files with
  | some path => loadFile s path
  | none => pure .standard

/-- The settings of the log, with the level of the arguments if there is one. -/
def logSettings (c : Config) (a : Arguments) : Procedure LogSettings := do
  let settings ← within "Invalid logging configuration" (ofConfig c.logging.settings)
  match a.logLevel? with
  | none => return settings
  | some text =>
    match LogLevel.ofText? text with
    | some level => return { settings with level }
    | none => throw ["Invalid log level '" ++ text ++ "'", LogLevel.unknownText]

/-- The settings of the resolver, with the servers of the arguments if there are any. -/
def resolverSettings (c : Config) (a : Arguments) : Procedure Resolver.Settings := do
  let settings ← within "Invalid configuration" (ofConfig c.resolverSettings)
  if a.servers.isEmpty then return settings
  else return { settings with servers := ← ofConfig (a.servers.mapM parseServer) }

/-- Shows what a configuration sets. -/
def describeConfig (c : Config) : Procedure Unit := do
  line "\nConfiguration loaded:"
  line ("  Servers: " ++ ", ".intercalate c.resolver.servers)
  line ("  Timeout: " ++ toString c.resolver.timeoutMs.toNat ++ " ms")
  line ("  EDNS payload size: " ++ toString c.resolver.udpPayloadSize.toNat)
  line ("  TCP fallback: " ++ toString c.resolver.tcpFallback)
  line ("  Cache capacity: " ++ toString c.cache.capacity.toNat)
  line ("  Logging: " ++ c.logging.level ++ " (" ++ c.logging.format ++ ")")

/-- Checks the configuration file. -/
def validate (s : Surroundings σ) (a : Arguments) (verbose : Bool) : Procedure Unit := do
  match configPath? a s.files with
  | none => throw ["No configuration file found"]
  | some path =>
    line ("Validating configuration: " ++ path)
    let c ← loadFile s path
    if verbose then describeConfig c
    within "Configuration validation failed" (ofConfig c.validate)
    line "Configuration is valid!"

/-! ### Lookups -/

/-- How the program logs. -/
structure Log where
  format : LogFormat
  filter : LogFilter

/-- Prints the log lines of some events, of which the last comes first. -/
def Log.report (l : Log) (events : List Event) : Procedure Unit :=
  (events.reverse.map Event.toLine).forM fun line => do
    if l.filter.admits line then print (.log l.format line)

/-- What came of a lookup, whose events are printed. -/
def ofOutcome (l : Log) (o : Resolver.Outcome σ α) :
    Procedure (Metrics × Except ResolverError α) := do
  l.report o.shared.log
  return (o.shared.metrics, o.result)

/-- A response as JSON. -/
def responseJson (m : Message) : Json :=
  .object [("id", .integer m.header.id.toNat), ("rcode", .text m.header.rcode.toText),
    ("recursion_available", .bool m.header.recursionAvailable),
    ("answers", .list (m.answers.map fun r => .text r.toText)),
    ("authority", .list (m.authority.map fun r => .text r.toText))]

/-- Prints a value as JSON. -/
def printJson (v : Json) : Procedure Unit :=
  line (v.pretty "")

/-- Prints some texts, one a line or as JSON. -/
def printTexts (title : String) (texts : List String) (json : Bool) : Procedure Unit := do
  if json then printJson (.list (texts.map .text))
  else
    if texts.isEmpty then note ("No " ++ title ++ " found")
    texts.forM line

/-- Prints the counters. -/
def printStats (m : Metrics) : Procedure Unit := do
  let shown (n : UInt64) := toString n.toNat
  note "Client statistics"
  note ("  Queries:       " ++ shown m.queries)
  note ("  Cache:    " ++ shown m.cacheHits ++ " hits, " ++ shown m.cacheMisses ++ " misses")
  note ("  Attempts:  " ++ shown m.udpAttempts ++ " UDP, " ++ shown m.tcpFallbacks ++
    " TCP fallbacks, " ++ shown m.attemptFailures ++ " failed")

/-- Prints the response to a query. What fails comes with the counters all the same. -/
def runQuery (s : Surroundings σ) (a : Arguments) (settings : Resolver.Settings) (l : Log)
    (shared : Resolver.Shared) (name type : String) :
    Procedure (Metrics × Except Failure Unit) := do
  match TypeCode.ofText type with
  | .error e => return (shared.metrics, .error ["Unknown record type '" ++ type ++ "'", e.message])
  | .ok type =>
    let o := Resolver.query settings s.link shared s.world name type
    let (metrics, result) ← ofOutcome l o
    match result with
    | .error e =>
      let meaning := "Query for " ++ name ++ " " ++ type.toText ++ " failed"
      return (metrics, .error (meaning :: e.chain))
    | .ok response =>
      if a.json then printJson (responseJson response) else line response.toText
      return (metrics, .ok ())

/-- Prints what a lookup finds by `present`; its failure is that of the program. -/
def runLookup (l : Log) (o : Resolver.Outcome σ α) (present : α → Procedure Unit) :
    Procedure (Metrics × Except Failure Unit) := do
  let (metrics, result) ← ofOutcome l o
  let value ← ofExcept ResolverError.chain result
  present value
  return (metrics, .ok ())

/-- Carries out a command that asks servers. -/
def look (s : Surroundings σ) (a : Arguments) : Procedure Unit := do
  let c ← loadConfig s a
  let logSettings ← logSettings c a
  (LogFilter.refusals s.directives).forM fun refusal => note (LogFilter.notice refusal)
  let l : Log := ⟨logSettings.format, logSettings.filter s.directives⟩
  let settings ← resolverSettings c a
  l.report [.configured settings.servers]
  let shared ← ofExcept ResolverError.chain (Resolver.Shared.ofSettings settings)
  let (metrics, result) ←
    match a.command with
    | .query name type => runQuery s a settings l shared name type
    | .txt host =>
      runLookup l (Resolver.textsOf settings s.link shared s.world host) fun texts =>
        printTexts "TXT records" texts a.json
    | .dnslink host =>
      runLookup l (Resolver.linkOf settings s.link shared s.world host) fun text =>
        if a.json then printJson (.text text) else line text
    | .dnsaddr host =>
      runLookup l (Resolver.addressesOf settings s.link shared s.world host) fun texts =>
        printTexts "dnsaddr records" texts a.json
    | .validate _ => pure (shared.metrics, .ok ())
  if a.stats then printStats metrics
  ofExcept id result

/-- Carries out a command. -/
def execute (s : Surroundings σ) (a : Arguments) : Procedure Unit :=
  match a.command with
  | .validate verbose => validate s a verbose
  | _ => look s a

/-- The version of the program. -/
def version : String := "0.1.0"

/-- How the program is called. -/
def usage : String :=
  "Usage: frey [OPTIONS] <query|txt|dnslink|dnsaddr|validate> ...\n"

/-- What comes of a call without anything to do. -/
def Refusal.report : Refusal → Report
  | version program => ⟨0, [.output (program ++ " " ++ CommandLine.version ++ "\n")]⟩
  | help => ⟨0, [.output usage]⟩
  | misuse problem => ⟨2, [.diagnostic ("error: " ++ problem ++ "\n\n" ++ usage)]⟩

namespace Printed

/-- What of a piece is output. -/
def outputText : Printed → String
  | .output text => text
  | .diagnostic _ | .log .. => ""

/-- What of a piece are diagnostics, without the time of a log line. -/
def diagnosticText : Printed → String
  | .output _ => ""
  | .diagnostic text => text
  | .log .text line => line.toText ++ "\n"
  | .log .json line => line.toJson.toText ++ "\n"

end Printed

namespace Report

/-- All output of a run. -/
def output (r : Report) : String :=
  String.join (r.printed.map Printed.outputText)

/-- All diagnostics of a run. -/
def diagnostics (r : Report) : String :=
  String.join (r.printed.map Printed.diagnosticText)

end Report

/-- What comes of a command. -/
def run (s : Surroundings σ) (a : Arguments) : Report :=
  match execute s a ⟨[]⟩ with
  | .ok _ t => ⟨0, t.pieces.reverse⟩
  | .error failure t =>
    ⟨1, t.pieces.reverse ++ [.diagnostic (failureText failure ++ "\n")]⟩

/-- What comes of a call with some texts; `config?` is the configuration file if they name none. -/
def call (s : Surroundings σ) (config? : Option String) (texts : List String) : Report :=
  match Arguments.ofList config? texts with
  | .ok a => run s a
  | .error refusal => refusal.report

end StubResolver.CommandLine
