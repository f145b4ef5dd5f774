import StubResolver.Octets
import StubResolver.Text.Numeral
import StubResolver.Json.Value

/-!
# JSON tokens

Text is cut into tokens by a machine that is fed one character at a time.
-/

namespace StubResolver.Json

/-- The smallest piece of JSON text. -/
inductive Token where
  | openList | closeList | openObject | closeObject | comma | colon
  /-- A text with its quotes and escapes undone, or none if half of a character stands alone in
  it. -/
  | text (value : Option String)
  /-- A literal name or a number. -/
  | scalar (value : Json)
  deriving Repr

namespace Token

/-- A number below 2^16 under way in hexadecimal digits. -/
structure Unit where
  digitsLeft : Nat
  value : Nat

/-- What the machine is in the middle of; what was read has its last character first. -/
inductive Mode where
  | between
  | word (read : List Char)
  | quoted (read : List Char)
  | escape (read : List Char) (lead : Option Nat)
  | unicode (read : List Char) (lead : Option Nat) (unit : Unit)
  /-- Behind the first half of a character of two units. -/
  | lead (read : List Char) (unit : Nat)

/-- The machine. -/
structure Scanner where
  /-- The tokens so far, last first. -/
  tokens : List Token
  mode : Mode
  /-- Whether half of a character stands alone in the text that was read last. -/
  isBroken : Bool

/-- The white space of JSON. -/
def isSpace (c : Char) : Bool :=
  c == ' ' || c == '\n' || c == '\t' || c == '\r'

/-- The token of a character that stands for itself. -/
def punctuation? (c : Char) : Option Token :=
  if c = '[' then some openList
  else if c = ']' then some closeList
  else if c = Char.ofNat 123 then some openObject
  else if c = Char.ofNat 125 then some closeObject
  else if c = ',' then some comma
  else if c = ':' then some colon
  else none

/-- One or more digits, and no leading zero. -/
def isWhole (cs : List Char) : Bool :=
  match cs with
  | [] => false
  | ['0'] => true
  | c :: rest => c != '0' && (c :: rest).all Char.isDigit

/-- An optional sign and digits. -/
def isExponent (cs : List Char) : Bool :=
  match cs with
  | '+' :: digits | '-' :: digits => !digits.isEmpty && digits.all Char.isDigit
  | digits => !digits.isEmpty && digits.all Char.isDigit

/-- Whether what follows the whole part of a number is a fraction, an exponent, both or nothing. -/
def isTail (cs : List Char) : Bool :=
  let isE (c : Char) := c == 'e' || c == 'E'
  match cs with
  | [] => true
  | '.' :: rest =>
    let digits := rest.takeWhile Char.isDigit
    !digits.isEmpty &&
      match rest.drop digits.length with
      | [] => true
      | c :: power => isE c && isExponent power
  | c :: power => isE c && isExponent power

/-- The number that is spelled by some characters. Negative zero is no integer. -/
def number? (cs : List Char) : Option Json :=
  let negative := cs.head? == some '-'
  let unsigned := if negative then cs.tail else cs
  let whole := unsigned.takeWhile Char.isDigit
  let tail := unsigned.drop whole.length
  if isWhole whole && isTail tail then
    let limit := if negative then Int64.minValue.toInt.natAbs else UInt64.size - 1
    match Text.digitsUpTo? 10 limit whole with
    | some n =>
      if tail.isEmpty ∧ !(negative ∧ n = 0) then
        some (.integer (if negative then -(n : Int) else n))
      else some (.decimal (String.ofList cs))
    | none => some (.decimal (String.ofList cs))
  else none

/-- The literal name or number that is spelled by some characters. -/
def word? (cs : List Char) : Option Json :=
  if cs = "null".toList then some .null
  else if cs = "true".toList then some (.bool true)
  else if cs = "false".toList then some (.bool false)
  else number? cs

/-- The character of a one-letter escape. -/
def simpleEscape? (c : Char) : Option Char :=
  match c with
  | '"' => some '"'
  | '\\' => some '\\'
  | '/' => some '/'
  | 'b' => some (Char.ofNat 8)
  | 'f' => some (Char.ofNat 12)
  | 'n' => some '\n'
  | 'r' => some '\r'
  | 't' => some '\t'
  | _ => none

/-- A character that may be part of a word. -/
def isWordChar (c : Char) : Bool :=
  c.isAlphanum || c == '-' || c == '+' || c == '.'

namespace Scanner

/-- Between tokens, with one more token. -/
def push (s : Scanner) (t : Token) : Scanner :=
  { s with tokens := t :: s.tokens, mode := .between }

/-- One character between tokens. -/
def begin (s : Scanner) (c : Char) : Option Scanner :=
  if isSpace c then some { s with mode := .between }
  else if c = '"' then some { s with mode := .quoted [], isBroken := false }
  else match punctuation? c with
    | some t => some (s.push t)
    | none => if isWordChar c then some { s with mode := .word [c] } else none

/-- The end of a word. -/
def endWord (s : Scanner) (read : List Char) : Option Scanner :=
  (word? read.reverse).map fun v => s.push (.scalar v)

/-- In a text in which half of a character stands alone. -/
def broken (s : Scanner) (read : List Char) : Scanner :=
  { s with mode := .quoted read, isBroken := true }

/-- A 16-bit unit in a text: a character, or a half of one. -/
def unit (s : Scanner) (read : List Char) (lead : Option Nat) (n : Nat) : Scanner :=
  let isLead := 0xD800 ≤ n ∧ n < 0xDC00
  let isTrail := 0xDC00 ≤ n ∧ n < 0xE000
  match lead with
  | none =>
    if isLead then { s with mode := .lead read n }
    else if isTrail then s.broken read
    else { s with mode := .quoted (Char.ofNat n :: read) }
  | some high =>
    if isTrail then
      let c := Char.ofNat (0x10000 + (high - 0xD800) * 0x400 + (n - 0xDC00))
      { s with mode := .quoted (c :: read) }
    else s.broken read

/-- One character of a text that no escape is open in. -/
def quoted (s : Scanner) (read : List Char) (c : Char) : Option Scanner :=
  if c = '"' then
    some (s.push (.text (if s.isBroken then none else some (String.ofList read.reverse))))
  else if c = '\\' then some { s with mode := .escape read none }
  else if c.toNat < 32 then none
  else some { s with mode := .quoted (c :: read) }

/-- One character. -/
def feed (s : Scanner) (c : Char) : Option Scanner :=
  match s.mode with
  | .between => s.begin c
  | .word read =>
    if isWordChar c then some { s with mode := .word (c :: read) }
    else (s.endWord read).bind fun s => s.begin c
  | .quoted read => s.quoted read c
  | .escape read lead =>
    if c = 'u' then some { s with mode := .unicode read lead ⟨4, 0⟩ }
    else
      let s := if lead.isSome then s.broken read else s
      (simpleEscape? c).map fun x => { s with mode := .quoted (x :: read) }
  | .unicode read lead u => do
    let value := 16 * u.value + (← Octets.hexValue? c)
    if u.digitsLeft ≤ 1 then some (s.unit read lead value)
    else some { s with mode := .unicode read lead ⟨u.digitsLeft - 1, value⟩ }
  | .lead read n =>
    if c = '\\' then some { s with mode := .escape read (some n) }
    else (s.broken read).quoted read c

/-- The end of the text. -/
def finish (s : Scanner) : Option (List Token) :=
  match s.mode with
  | .between => some s.tokens.reverse
  | .word read => (s.endWord read).map fun s => s.tokens.reverse
  | _ => none

end Scanner

/-- The tokens of a text. -/
def scan? (cs : List Char) : Option (List Token) :=
  (cs.foldlM Scanner.feed ⟨[], .between, false⟩).bind Scanner.finish

end Token

end StubResolver.Json
