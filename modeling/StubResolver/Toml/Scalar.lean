import StubResolver.Text.Decimal
import StubResolver.Toml.Value

/-!
# Scalars of TOML text

Texts stand in one or three quotes of either kind; everything else is a word without blanks, save
that a date may be parted from a time of day by one space.
-/

namespace StubResolver.Toml

/-! ### Texts -/

/-- A character that may stand for itself in a comment or text: a tab, or no control. -/
def isPrintable (c : Char) : Bool :=
  c == '\t' || (32 ≤ c.toNat && c.toNat != 127)

/-- The character of a one-letter escape. -/
def simpleEscape? (c : Char) : Option Char :=
  match c with
  | 'b' => some (Char.ofNat 8)
  | 't' => some '\t'
  | 'n' => some '\n'
  | 'f' => some (Char.ofNat 12)
  | 'r' => some '\r'
  | '"' => some '"'
  | '\\' => some '\\'
  | _ => none

/-- How many hexadecimal digits an escape has. -/
def hexadecimalLength? (c : Char) : Option Nat :=
  if c = 'u' then some 4 else if c = 'U' then some 8 else none

/-- Where a text with escapes stands. -/
inductive Escape where
  | none
  /-- Behind a backslash. -/
  | started
  /-- Before so many hexadecimal digits, with the value of those before. -/
  | hexadecimal (digitsLeft value : Nat)
  /-- Behind a backslash and blanks, before the end of the line. -/
  | endOfLine
  /-- In white space that counts for nothing. -/
  | margin

/-- The text behind an opening double quote, of which the last character read comes first, and what
is left. -/
def basicText : List Char → List Char → Escape → Option (String × List Char)
  | [], _, _ => none
  | c :: rest, read, .started =>
    match simpleEscape? c, hexadecimalLength? c with
    | some x, _ => basicText rest (x :: read) .none
    | none, some n => basicText rest read (.hexadecimal n 0)
    | none, none => none
  | c :: rest, read, .hexadecimal digitsLeft value => do
    let value := 16 * value + (← Text.digitValue? 16 c)
    if 1 < digitsLeft then basicText rest read (.hexadecimal (digitsLeft - 1) value)
    else if value.isValidChar then basicText rest (Char.ofNat value :: read) .none
    else none
  | c :: rest, read, _ =>
    if c = '"' then some (String.ofList read.reverse, rest)
    else if c = '\\' then basicText rest read .started
    else if isPrintable c then basicText rest (c :: read) .none
    else none

/-- The text behind an opening single quote, and what is left. -/
def literalText : List Char → List Char → Option (String × List Char)
  | [], _ => none
  | c :: rest, read =>
    if c = '\'' then some (String.ofList read.reverse, rest)
    else if isPrintable c then literalText rest (c :: read)
    else none

/-- The text of several lines behind three opening quotes of the kind `quote`, and what is left.
`quotes` counts the quotes just before: three of them end the text, and two more may be part of
it. -/
def linesText (quote : Char) (escapes : Bool) :
    List Char → List Char → Nat → Escape → Option (String × List Char)
  | [], read, quotes, _ =>
    if 3 ≤ quotes then some (String.ofList (read.drop 3).reverse, []) else none
  | c :: rest, read, _, .started =>
    if c = ' ' ∨ c = '\t' then linesText quote escapes rest read 0 .endOfLine
    else if c = '\n' then linesText quote escapes rest read 0 .margin
    else match simpleEscape? c, hexadecimalLength? c with
      | some x, _ => linesText quote escapes rest (x :: read) 0 .none
      | none, some n => linesText quote escapes rest read 0 (.hexadecimal n 0)
      | none, none => none
  | c :: rest, read, _, .hexadecimal digitsLeft value => do
    let value := 16 * value + (← Text.digitValue? 16 c)
    if 1 < digitsLeft then
      linesText quote escapes rest read 0 (.hexadecimal (digitsLeft - 1) value)
    else if value.isValidChar then
      linesText quote escapes rest (Char.ofNat value :: read) 0 .none
    else none
  | c :: rest, read, _, .endOfLine =>
    if c = ' ' ∨ c = '\t' then linesText quote escapes rest read 0 .endOfLine
    else if c = '\n' then linesText quote escapes rest read 0 .margin
    else none
  | c :: rest, read, quotes, state =>
    let inMargin := match state with
      | .margin => c == ' ' || c == '\t' || c == '\n'
      | _ => false
    if inMargin then linesText quote escapes rest read 0 .margin
    else if c = quote ∧ quotes < 5 then
      linesText quote escapes rest (c :: read) (quotes + 1) .none
    else if 3 ≤ quotes then some (String.ofList (read.drop 3).reverse, c :: rest)
    else if c = '\\' ∧ escapes then linesText quote escapes rest read 0 .started
    else if c = '\n' ∨ isPrintable c then linesText quote escapes rest (c :: read) 0 .none
    else none

/-- The text behind an opening quote, and what is left. -/
def quotedText? (quote : Char) (cs : List Char) : Option (String × List Char) :=
  if quote = '"' then basicText cs [] .none else literalText cs []

/-- The text at the start of some characters, if they start with a quote of the kind given, and
what is left. A line break right behind three quotes is not part of the text. -/
def text? (quote : Char) (cs : List Char) : Option (String × List Char) :=
  match cs with
  | a :: b :: c :: rest =>
    if a = quote ∧ b = quote ∧ c = quote then
      let body := if rest.head? = some '\n' then rest.tail else rest
      linesText quote (quote == '"') body [] 0 .none
    else quotedText? quote cs.tail
  | _ => quotedText? quote cs.tail

/-! ### Dates and times -/

/-- A number of exactly `n` digits from `low` to `high` at the start of some characters, and what is
left. -/
def fixed? (n low high : Nat) (cs : List Char) : Option (Nat × List Char) := do
  let value ← Text.digits? 10 (cs.take n)
  if (cs.take n).length = n ∧ low ≤ value ∧ value ≤ high then some (value, cs.drop n) else none

/-- What is left behind a character. -/
def behind? (c : Char) : List Char → Option (List Char)
  | [] => none
  | d :: rest => if d = c then some rest else none

/-- How many days a month has. -/
def daysIn (year month : Nat) : Nat :=
  if month = 2 then
    if year % 4 = 0 ∧ (year % 100 ≠ 0 ∨ year % 400 = 0) then 29 else 28
  else if [4, 6, 9, 11].contains month then 30
  else 31

/-- What is left behind a date. -/
def date? (cs : List Char) : Option (List Char) := do
  let (year, cs) ← fixed? 4 0 9999 cs
  let (month, cs) ← fixed? 2 1 12 (← behind? '-' cs)
  return (← fixed? 2 1 (daysIn year month) (← behind? '-' cs)).2

/-- What is left behind a time of day. -/
def timeOfDay? (cs : List Char) : Option (List Char) := do
  let (_, cs) ← fixed? 2 0 23 cs
  let (_, cs) ← fixed? 2 0 59 (← behind? ':' cs)
  let (_, cs) ← fixed? 2 0 60 (← behind? ':' cs)
  match cs with
  | '.' :: rest =>
    let digits := rest.takeWhile Char.isDigit
    if digits.isEmpty then none else return rest.drop digits.length
  | _ => return cs

/-- What is left behind the difference from universal time, if it is there. -/
def offset? (cs : List Char) : Option (List Char) :=
  match cs with
  | [] => some []
  | c :: rest =>
    if c = 'Z' ∨ c = 'z' then some rest
    else if c = '+' ∨ c = '-' then do
      let (_, rest) ← fixed? 2 0 23 rest
      return (← fixed? 2 0 59 (← behind? ':' rest)).2
    else none

/-- Whether some characters are a date, a time of day, or both. -/
def isTime (cs : List Char) : Bool :=
  match date? cs with
  | none => timeOfDay? cs == some []
  | some [] => true
  | some (c :: rest) =>
    (c == 'T' || c == 't' || c == ' ') && (timeOfDay? rest).bind offset? == some []

/-! ### Numbers -/

/-- The digits of a number with single underscores between them. -/
def grouped? (isDigit : Char → Bool) (cs : List Char) : Option (List Char) :=
  let groups := cs.splitOn '_'
  if groups.all fun g => !g.isEmpty && g.all isDigit then some groups.flatten else none

/-- The digits of a decimal number, which has no leading zero. -/
def whole? (cs : List Char) : Option (List Char) := do
  let digits ← grouped? Char.isDigit cs
  if digits.head? = some '0' ∧ digits ≠ ['0'] then none else some digits

/-- The number of some digits in a base. -/
def ofBase? (base : Nat) (cs : List Char) : Option Int := do
  let digits ← grouped? (fun c => (Text.digitValue? base c).isSome) cs
  return (← Text.digitsUpTo? base Int64.maxValue.toInt.natAbs digits)

/-- The 64-bit integer that some characters spell. -/
def integer? (cs : List Char) : Option Int :=
  match cs with
  | '0' :: 'x' :: rest => ofBase? 16 rest
  | '0' :: 'o' :: rest => ofBase? 8 rest
  | '0' :: 'b' :: rest => ofBase? 2 rest
  | _ => do
    let negative := cs.head? == some '-'
    let digits ← whole? (Text.unsigned cs)
    let limit := (if negative then Int64.minValue else Int64.maxValue).toInt.natAbs
    let n : Int := ← Text.digitsUpTo? 10 limit digits
    return if negative then -n else n

/-- Whether some characters spell a number with a fraction or a power of ten, or one of the words
for what is no such number. It may be too far below zero for a float, but not too large. -/
def isFloat (cs : List Char) : Bool :=
  let isNegative := cs.head? == some '-'
  let cs := Text.unsigned cs
  let isE (c : Char) := c == 'e' || c == 'E'
  let mantissa := cs.takeWhile fun c => !isE c
  let whole := mantissa.takeWhile (· != '.')
  let digitsIn (cs : List Char) := (grouped? Char.isDigit cs).isSome
  let hasFraction := whole.length < mantissa.length
  let fractionFits := !hasFraction || digitsIn (mantissa.drop (whole.length + 1))
  let hasPower := mantissa.length < cs.length
  let powerFits := !hasPower || digitsIn (Text.unsigned (cs.drop (mantissa.length + 1)))
  let isSmall := isNegative ||
    (Text.Decimal.ofChars? (cs.filter (· != '_'))).any Text.Decimal.isFinite
  cs == "inf".toList || cs == "nan".toList ||
    ((whole? whole).isSome && (hasFraction || hasPower) && fractionFits && powerFits && isSmall)

/-- The value of a word. -/
def word? (cs : List Char) : Option Toml :=
  if cs = "true".toList then some (.bool true)
  else if cs = "false".toList then some (.bool false)
  else match integer? cs with
    | some n => some (.integer n)
    | none => if isFloat cs then some .float else if isTime cs then some .time else none

/-- A character of a word. -/
def isWordChar (c : Char) : Bool :=
  c.isAlphanum || c == '_' || c == '-' || c == '+' || c == '.' || c == ':'

/-- The word at the start of some characters, with the time of day behind a date and a space. -/
def wordOf (cs : List Char) : List Char :=
  let word := cs.takeWhile isWordChar
  match cs.drop word.length with
  | ' ' :: rest =>
    if date? word = some [] ∧ (rest.head?.any Char.isDigit) then
      word ++ ' ' :: rest.takeWhile isWordChar
    else word
  | _ => word

end StubResolver.Toml
