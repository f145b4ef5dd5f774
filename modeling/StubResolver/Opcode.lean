import StubResolver.Error

/-! Operation codes: the six values of the four header bits that stand for an operation. -/

namespace StubResolver

/-- What a message asks its receiver to do. The value 3 was never assigned but is let pass. -/
inductive Opcode where
  | query | inverseQuery | status | reserved3 | notify | update
  deriving DecidableEq, Repr, Inhabited

namespace Opcode

/-- Every operation, by ascending value. -/
def all : List Opcode :=
  [query, inverseQuery, status, reserved3, notify, update]

/-- The header bits. -/
def value : Opcode → UInt8
  | query => 0 | inverseQuery => 1 | status => 2 | reserved3 => 3 | notify => 4 | update => 5

/-- The operation of some header bits. -/
def ofValue (value : UInt8) : Except ProtocolError Opcode :=
  match value with
  | 0 => .ok query
  | 1 => .ok inverseQuery
  | 2 => .ok status
  | 3 => .ok reserved3
  | 4 => .ok notify
  | 5 => .ok update
  | v => .error (.unsupportedOpcode v)

/-- The name in presented messages. -/
def toText : Opcode → String
  | query => "QUERY" | inverseQuery => "IQUERY" | status => "STATUS" | reserved3 => "OPCODE3"
  | notify => "NOTIFY" | update => "UPDATE"

@[simp] theorem ofValue_value (o : Opcode) : ofValue o.value = .ok o := by
  cases o <;> rfl

end Opcode

end StubResolver
