import StubResolver.Address.Text
import StubResolver.Interchange.Fields
import StubResolver.Resolver.Settings

/-! Resolver settings in JSON. What is not set has its standard value. -/

namespace StubResolver

/-- An endpoint as JSON. -/
def Endpoint.toJson (e : Endpoint) : Json :=
  .text e.toText

/-- The endpoint of a JSON value. -/
def Endpoint.ofJson? (j : Json) : Option Endpoint :=
  j.text?.bind Endpoint.ofText?

/-- An unsigned 64-bit number. -/
def Json.word64? (j : Json) : Option UInt64 :=
  (j.naturalUpTo? (UInt64.size - 1)).map UInt64.ofNat

namespace Resolver.Settings

/-- Settings as JSON. -/
def toJson (s : Settings) : Json :=
  .object [("servers", .list (s.servers.map (·.toJson))), ("timeout_ms", .ofNat s.timeoutMs.toNat),
    ("udp_payload_size", .ofNat s.udpPayloadSize.toNat),
    ("receive_buffer_size", .ofNat s.receiveBufferSize.toNat),
    ("cache_capacity", .ofNat s.cacheCapacity.toNat), ("use_tcp_fallback", .bool s.useTcpFallback)]

/-- The settings of a JSON value. -/
def ofJson? (j : Json) : Option Settings := do
  let f ← Json.Fields.ofSparse? ["servers", "timeout_ms", "udp_payload_size",
    "receive_buffer_size", "cache_capacity", "use_tcp_fallback"] j
  return {
    servers := ← f.getOr? "servers" (Json.listOf? Endpoint.ofJson?) standard.servers
    timeoutMs := ← f.getOr? "timeout_ms" Json.word64? standard.timeoutMs
    udpPayloadSize := ← f.getOr? "udp_payload_size" Json.word16? standard.udpPayloadSize
    receiveBufferSize := ←
      f.getOr? "receive_buffer_size" Json.word64? standard.receiveBufferSize
    cacheCapacity := ← f.getOr? "cache_capacity" Json.word64? standard.cacheCapacity
    useTcpFallback := ← f.getOr? "use_tcp_fallback" Json.bool? standard.useTcpFallback }

end Resolver.Settings

end StubResolver
