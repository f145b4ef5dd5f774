import StubResolver.Error
import StubResolver.Resolver.Settings

/-! Why a lookup fails. -/

namespace StubResolver

/-- The cause of a failed lookup. -/
inductive ResolverError where
  /-- The server did not answer in time. -/
  | timeout
  /-- The network failed, as described. -/
  | network (description : String)
  /-- A name could not be used or an answer not be read. -/
  | protocol (cause : ProtocolError)
  /-- The answer is one to another query. -/
  | idMismatch (expected actual : UInt16)
  /-- No server is left to ask. -/
  | noQueryableServer
  /-- A host publishes no link. -/
  | noDnsLink (host : String)
  | invalidSettings (fault : Resolver.SettingsFault)
  deriving DecidableEq, Repr

namespace ResolverError

/-- A short label for logs and counters. -/
def kind : ResolverError → String
  | timeout => "timeout"
  | network _ => "network"
  | protocol _ => "protocol"
  | idMismatch .. => "id_mismatch"
  | noQueryableServer => "no_server"
  | noDnsLink _ => "no_dnslink"
  | invalidSettings _ => "config"

/-- The wording of an error. -/
def message : ResolverError → String
  | timeout => "Timeout"
  | network description => "Network error: " ++ description
  | protocol cause => "Protocol error: " ++ cause.message
  | idMismatch expected actual =>
    "Response id " ++ toString actual.toNat ++ " does not match query id " ++
      toString expected.toNat
  | noQueryableServer => "No queryable DNS server"
  | noDnsLink host => "No dnslink entry for " ++ host
  | invalidSettings fault => "Invalid configuration: " ++ fault.message

/-- The error and the errors it comes from, each in words. -/
def chain : ResolverError → List String
  | network description => [message (network description), description]
  | protocol cause => [message (protocol cause), cause.message]
  | e => [e.message]

end ResolverError

/-- Settings without a fault, or their first fault as an error. -/
def Resolver.Settings.validate (s : Settings) : Except ResolverError Unit :=
  match s.fault? with
  | some fault => .error (.invalidSettings fault)
  | none => .ok ()

end StubResolver
