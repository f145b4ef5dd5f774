import StubResolver.Config.Document
import StubResolver.Yaml.Node
import StubResolver.Yaml.Written

/-!
# Configurations in YAML

A scalar without quotes has every reading that its text allows; in quotes it is a text only. A
configuration is written with all its fields, in their order.
-/

namespace StubResolver

/-- The readings of a YAML scalar. Only one without any text stands for what is left out; the words
for nothing are texts, and a number with a minus sign is none of those that a configuration holds,
not even zero. -/
def Scalar.ofYaml (text : String) (plain : Bool) : Scalar :=
  if plain then
    let number? := (Yaml.Plain.natural? text).map Int.ofNat
    ⟨some text, number?, Yaml.Plain.bool? text, text.isEmpty⟩
  else ⟨some text, none, none, false⟩

namespace Document

/-- The name of a member, if it is a text. -/
def nameOfYaml : Yaml.Node → Option String
  | .scalar text _ => some text
  | _ => none

mutual

/-- The document of a YAML node. -/
def ofYaml : Yaml.Node → Document
  | .scalar text plain => .scalar (.ofYaml text plain)
  | .sequence items => .list (ofYamlItems items)
  | .mapping members => .table (ofYamlMembers members)

/-- The documents of the items of a sequence. -/
def ofYamlItems : List Yaml.Node → List Document
  | [] => []
  | v :: rest => ofYaml v :: ofYamlItems rest

/-- The documents of the members of a mapping. -/
def ofYamlMembers : List (Yaml.Node × Yaml.Node) → List (Option String × Document)
  | [] => []
  | (name, v) :: rest => (nameOfYaml name, ofYaml v) :: ofYamlMembers rest

end

end Document

namespace Config

/-- The configuration that YAML text sets. -/
def ofYaml? (text : String) : Option Config := do
  match ← Yaml.Node.ofText? text with
  | none => return standard
  | some node => ofDocument? .never (.ofYaml node)

/-- A member of a section on a line of its own. -/
def yamlLine (name value : String) : String :=
  "  " ++ name ++ ": " ++ value ++ "\n"

/-- A member of a section that is a text. -/
def yamlTextLine (name text : String) : String :=
  "  " ++ name ++ ": " ++ Yaml.scalarLine 4 text

/-- The servers of the resolver section. -/
def yamlServers (servers : List String) : String :=
  if servers.isEmpty then yamlLine "servers" "[]"
  else "  servers:\n" ++ String.join (servers.map fun s => "  - " ++ Yaml.scalarLine 4 s)

/-- The YAML text of a configuration. -/
def toYaml (c : Config) : String :=
  "resolver:\n" ++ yamlServers c.resolver.servers ++
    yamlLine "timeout_ms" (toString c.resolver.timeoutMs.toNat) ++
    yamlLine "udp_payload_size" (toString c.resolver.udpPayloadSize.toNat) ++
    yamlLine "receive_buffer_size" (toString c.resolver.receiveBufferSize.toNat) ++
    yamlLine "tcp_fallback" (toString c.resolver.tcpFallback) ++
    "cache:\n" ++ yamlLine "capacity" (toString c.cache.capacity.toNat) ++
    "logging:\n" ++ yamlTextLine "level" c.logging.level ++
    yamlTextLine "format" c.logging.format ++
    yamlLine "span_events" (toString c.logging.spanEvents)

end Config

end StubResolver
