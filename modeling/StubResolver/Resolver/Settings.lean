import StubResolver.Address.Basic
import StubResolver.Cache
import StubResolver.Edns

/-!
# Resolver settings

Which servers to ask and how. The servers are asked in order; there may be none, and then no query
can be answered.
-/

namespace StubResolver

namespace Resolver

/-- The settings of a resolver. -/
structure Settings where
  servers : List Endpoint
  /-- The time for one attempt, in milliseconds. -/
  timeoutMs : UInt64
  /-- The payload size offered to servers. -/
  udpPayloadSize : UInt16
  /-- The size of the buffer that datagrams are received in. -/
  receiveBufferSize : UInt64
  /-- How many responses are kept. -/
  cacheCapacity : UInt64
  /-- Whether a failed or truncated UDP attempt is repeated over TCP. -/
  useTcpFallback : Bool
  deriving DecidableEq, Repr

/-- What is wrong with settings. -/
inductive SettingsFault where
  | timeoutZero
  | cacheCapacityZero
  | receiveBufferTooSmall
  | udpPayloadTooSmall
  deriving DecidableEq, Repr

/-- The port of servers that name none. -/
def standardPort : UInt16 := 53

/-- The smallest payload size and receive buffer: that of messages without EDNS. -/
def minimumSize : Nat := 512

/-- The wording of a fault. -/
def SettingsFault.message : SettingsFault → String
  | timeoutZero => "timeout_ms must be at least 1"
  | cacheCapacityZero => "cache_capacity must be at least 1"
  | receiveBufferTooSmall => "receive_buffer_size must be at least " ++ toString minimumSize
  | udpPayloadTooSmall => "udp_payload_size must be at least " ++ toString minimumSize

/-- The servers that are asked if none are set, over IPv4 and IPv6. -/
def standardServers : List Endpoint :=
  [.v4 ⟨[8, 8, 8, 8], rfl⟩ standardPort,
    .v6 ⟨[0x20, 0x01, 0x48, 0x60, 0x48, 0x60, 0, 0, 0, 0, 0, 0, 0, 0, 0x88, 0x88], rfl⟩
      standardPort 0]

namespace Settings

/-- The settings for some servers, with nothing else set. -/
def ofServers (servers : List Endpoint) : Settings where
  servers := servers
  timeoutMs := 5000
  udpPayloadSize := Edns.defaultPayloadSize
  receiveBufferSize := 1232
  cacheCapacity := UInt64.ofNat Cache.defaultCapacity
  useTcpFallback := true

/-- The settings with nothing set. -/
def standard : Settings :=
  ofServers standardServers

instance : Inhabited Settings := ⟨standard⟩

/-- The time for one attempt, in microseconds modulo 2^64. -/
def timeoutMicroseconds (s : Settings) : UInt64 :=
  1000 * s.timeoutMs

/-- The first fault of the settings. -/
def fault? (s : Settings) : Option SettingsFault :=
  if s.timeoutMs = 0 then some .timeoutZero
  else if s.cacheCapacity = 0 then some .cacheCapacityZero
  else if s.receiveBufferSize.toNat < minimumSize then some .receiveBufferTooSmall
  else if s.udpPayloadSize.toNat < minimumSize then some .udpPayloadTooSmall
  else none

end Settings

end Resolver

end StubResolver
