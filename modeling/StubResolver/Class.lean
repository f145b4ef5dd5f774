/-! Record classes. A response may carry any value, so a class is its number. -/

namespace StubResolver

/-- The class of a question or record. -/
structure Class where
  code : UInt16
  deriving DecidableEq, Repr

namespace Class

/-- The Internet. -/
def internet : Class := ⟨1⟩

/-- The wildcard query class. -/
def any : Class := ⟨255⟩

instance : Inhabited Class := ⟨internet⟩

/-- Whether this is the wildcard query class. -/
def isAny (c : Class) : Bool :=
  c == any

/-- The mnemonic of a registered class. -/
def mnemonic? (c : Class) : Option String :=
  match c.code with
  | 1 => some "IN"
  | 3 => some "CH"
  | 4 => some "HS"
  | 254 => some "NONE"
  | 255 => some "ANY"
  | _ => none

/-- The mnemonic, or `CLASS` and the number. -/
def toText (c : Class) : String :=
  c.mnemonic?.getD ("CLASS" ++ toString c.code.toNat)

end Class

end StubResolver
