import StubResolver.Error

/-! Frames on a stream: a message behind its length in two octets. -/

namespace StubResolver

/-- The frame of a message, which must not be longer than the length field can say. -/
def frame (message : Octets) : Except ProtocolError Octets :=
  if message.length < UInt16.size then
    .ok (Octets.ofWord16 (UInt16.ofNat message.length) ++ message)
  else .error (.frameTooLong message.length)

end StubResolver
