import StubResolver.Address.Text
import StubResolver.Log.Settings
import StubResolver.Resolver.Error

/-!
# Configuration

What a configuration file sets: the servers and how to ask them, the size of the cache, and the
log. A configuration that passes its check gives settings that pass theirs.
-/

namespace StubResolver

/-- The servers and how to ask them. -/
structure ResolverSection where
  /-- Addresses, each with a port if it is not the standard one. -/
  servers : List String
  timeoutMs : UInt64
  udpPayloadSize : UInt16
  receiveBufferSize : UInt64
  tcpFallback : Bool
  deriving DecidableEq, Repr

/-- The size of the cache. -/
structure CacheSection where
  capacity : UInt64
  deriving DecidableEq, Repr

/-- How to log. -/
structure LogSection where
  level : String
  format : String
  spanEvents : Bool
  deriving DecidableEq, Repr

/-- A configuration. -/
structure Config where
  resolver : ResolverSection
  cache : CacheSection
  logging : LogSection
  deriving DecidableEq, Repr

/-- The format of a configuration file. -/
inductive FileFormat where
  | yaml | json | toml
  deriving DecidableEq, Repr

/-- A setting that has to be large enough. -/
inductive SizeSetting where
  | timeout | udpPayloadSize | receiveBufferSize | cacheCapacity
  deriving DecidableEq, Repr

/-- Why a configuration cannot be used. -/
inductive ConfigError where
  /-- The file cannot be read as text. -/
  | unreadable (description : String)
  | notFound (path : String)
  /-- A file does not follow its format, or sets something to a value of another kind. -/
  | malformed (format : FileFormat)
  | notAnAddress (text : String)
  | tooSmall (setting : SizeSetting) (minimum : Nat)
  | unknownLevel
  | unknownFormat (text : String)
  /-- The settings that come of the configuration are at fault. -/
  | rejected (fault : Resolver.SettingsFault)
  deriving DecidableEq, Repr

/-- The name of a setting in a file. -/
def SizeSetting.path : SizeSetting → String
  | timeout => "resolver.timeout_ms"
  | udpPayloadSize => "resolver.udp_payload_size"
  | receiveBufferSize => "resolver.receive_buffer_size"
  | cacheCapacity => "cache.capacity"

/-- The name of a format in messages. -/
def FileFormat.toText : FileFormat → String
  | yaml => "YAML" | json => "JSON" | toml => "TOML"

namespace ConfigError

private def invalidText (path reason : String) : String :=
  "Invalid value for " ++ path ++ ": " ++ reason

/-- The wording of an error. -/
def message : ConfigError → String
  | unreadable description => "IO error: " ++ description
  | notFound path => "File not found: " ++ path
  | malformed format => format.toText ++ " parse error"
  | notAnAddress text => invalidText "resolver.servers" ("'" ++ text ++ "' is not an IP address")
  | tooSmall setting minimum =>
    invalidText setting.path ("must be at least " ++ toString minimum)
  | unknownLevel => invalidText "logging.level" LogLevel.unknownText
  | unknownFormat text => invalidText "logging.format" (LogFormat.unknownText text)
  | rejected fault =>
    "Validation error: " ++ (ResolverError.invalidSettings fault).message

/-- The wording of an error and of its cause, if that is told apart. -/
def chain (e : ConfigError) : List String :=
  match e with
  | unreadable description => [e.message, description]
  | _ => [e.message]

end ConfigError

/-- The endpoint of a server: an address, in brackets or not, and the port if one is given. -/
def parseServer (text : String) : Except ConfigError Endpoint :=
  let cs := Text.trimBlanks text.toList
  let trimmed := String.ofList cs
  match Endpoint.ofText? trimmed with
  | some e => .ok e
  | none =>
    let bracketed := cs.head? = some '[' ∧ 2 ≤ cs.length ∧ cs.getLast? = some ']'
    let host := if bracketed then String.ofList cs.tail.dropLast else trimmed
    match Address.ofText? host with
    | some address => .ok (.ofAddress address Resolver.standardPort)
    | none => .error (.notAnAddress trimmed)

namespace ResolverSection

/-- The section with nothing set. -/
def standard : ResolverSection where
  servers := Resolver.standardServers.map Endpoint.toText
  timeoutMs := Resolver.Settings.standard.timeoutMs
  udpPayloadSize := Resolver.Settings.standard.udpPayloadSize
  receiveBufferSize := Resolver.Settings.standard.receiveBufferSize
  tcpFallback := Resolver.Settings.standard.useTcpFallback

/-- The endpoints of the servers. -/
def endpoints (s : ResolverSection) : Except ConfigError (List Endpoint) :=
  s.servers.mapM parseServer

/-- The first error of the section. -/
def validate (s : ResolverSection) : Except ConfigError Unit := do
  discard s.endpoints
  if s.timeoutMs = 0 then
    throw (.tooSmall .timeout 1)
  if s.udpPayloadSize.toNat < Resolver.minimumSize then
    throw (.tooSmall .udpPayloadSize Resolver.minimumSize)
  if s.receiveBufferSize.toNat < Resolver.minimumSize then
    throw (.tooSmall .receiveBufferSize Resolver.minimumSize)

end ResolverSection

/-- The section with nothing set. -/
def CacheSection.standard : CacheSection :=
  ⟨UInt64.ofNat Cache.defaultCapacity⟩

namespace LogSection

/-- The section with nothing set. -/
def standard : LogSection :=
  ⟨"info", "text", false⟩

/-- The settings of the log. -/
def settings (s : LogSection) : Except ConfigError LogSettings :=
  match LogLevel.ofText? s.level with
  | none => .error .unknownLevel
  | some level =>
    match LogFormat.ofText? s.format with
    | none => .error (.unknownFormat s.format)
    | some format => .ok ⟨level, format, s.spanEvents⟩

end LogSection

namespace Config

/-- The configuration with nothing set. -/
def standard : Config :=
  ⟨.standard, .standard, .standard⟩

instance : Inhabited Config := ⟨standard⟩

/-- The first error of the configuration. -/
def validate (c : Config) : Except ConfigError Unit := do
  c.resolver.validate
  if c.cache.capacity = 0 then
    throw (.tooSmall .cacheCapacity 1)
  discard c.logging.settings

/-- The settings of the resolver, after the check. -/
def resolverSettings (c : Config) : Except ConfigError Resolver.Settings := do
  c.validate
  let settings : Resolver.Settings := {
    servers := ← c.resolver.endpoints
    timeoutMs := c.resolver.timeoutMs
    udpPayloadSize := c.resolver.udpPayloadSize
    receiveBufferSize := c.resolver.receiveBufferSize
    cacheCapacity := c.cache.capacity
    useTcpFallback := c.resolver.tcpFallback }
  match settings.fault? with
  | some fault => throw (.rejected fault)
  | none => return settings

end Config

end StubResolver
