import StubResolver.Error
import StubResolver.Text.Blank
import StubResolver.Text.Numeral

/-!
# Type text

A type is written as its mnemonic in any case, or as `TYPE` and its code. White space around it
does not count.
-/

namespace StubResolver

namespace Text

/-- `c` in lower case if it is an upper-case ASCII letter. -/
def lowerAscii (c : Char) : Char :=
  if 'A' ≤ c ∧ c ≤ 'Z' then Char.ofNat (c.toNat + 32) else c

/-- Equality up to the case of ASCII letters. -/
def equalIgnoringCase (a b : List Char) : Bool :=
  a.map lowerAscii == b.map lowerAscii

end Text

/-- The registered type with a mnemonic, in any case. -/
def RecordType.ofMnemonic? (text : List Char) : Option RecordType :=
  RecordType.all.find? fun t => Text.equalIgnoringCase t.mnemonic.toList text

namespace TypeCode

/-- The type that trimmed text names. -/
def ofTrimmed? (text : List Char) : Option TypeCode :=
  match RecordType.ofMnemonic? text with
  | some t => some (known t)
  | none =>
    if Text.equalIgnoringCase (text.take 4) "TYPE".toList then
      (Text.numeralUpTo? 10 65535 (text.drop 4)).map fun n => ofCode (UInt16.ofNat n)
    else none

/-- The type that text names. -/
def ofText (text : String) : Except ProtocolError TypeCode :=
  match ofTrimmed? (Text.trimBlanks text.toList) with
  | some t => .ok t
  | none => .error (.unknownRecordType text)

end TypeCode

end StubResolver
