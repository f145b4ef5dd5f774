import StubResolver.Yaml.Plain
import StubResolver.Yaml.Source

/-!
# Writing a text as a scalar

Without quotes if that reads back as the same text, else in single quotes, and in double quotes
what cannot stand in the text as it is. A text of several lines is written as such.
-/

namespace StubResolver.Yaml

/-- How a scalar is written. -/
inductive Style where
  | plain | singleQuoted | doubleQuoted | literal
  deriving DecidableEq, Repr

/-- A line break in the widest sense. -/
def isAnyBreak (c : Char) : Bool :=
  isBreak c || c == '\r' || c.toNat == 0x85

/-- A character that is written as it is. -/
def isPrintable (c : Char) : Bool :=
  let n := c.toNat
  n == 0x0A || (0x20 ≤ n && n ≤ 0x7E) || (0xA0 ≤ n && n ≤ 0xD7FF) ||
    (0xE000 ≤ n && n ≤ 0xFFFD && n != 0xFEFF) || 0x10000 ≤ n

/-- Whether some neighbours in a list are as asked. -/
def hasNeighbours (p q : Char → Bool) (cs : List Char) : Bool :=
  (cs.zip cs.tail).any fun (a, b) => p a && q b

/-- Whether a word ends before the `n`th character and after it, or the text does. -/
def isBlankOrEnd (c : Option Char) : Bool :=
  c.all fun c => isBlank c || isAnyBreak c

/-- Whether a text has a character at its start that would be taken for more than text. -/
def startsWithIndicator (cs : List Char) : Bool :=
  match cs with
  | [] => false
  | c :: rest =>
    isFlowIndicator c || "#&*!|>'\"%@".toList.contains c || c.toNat == 96 ||
      ((c == '?' || c == ':' || c == '-') && isBlankOrEnd rest.head?) ||
      ['-', '-', '-'].isPrefixOf cs || ['.', '.', '.'].isPrefixOf cs

/-- Whether a text has a colon before a blank or a number sign behind one. -/
def hasIndicator (cs : List Char) : Bool :=
  cs.getLast? == some ':' || hasNeighbours (· == ':') (isBlankOrEnd ∘ some) cs ||
    hasNeighbours (isBlankOrEnd ∘ some) (· == '#') cs

namespace Style

/-- Whether a text can be written without quotes. -/
def allowsPlain (cs : List Char) : Bool :=
  !startsWithIndicator cs && !hasIndicator cs && cs.all isPrintable && !cs.any isAnyBreak &&
    cs.head? != some ' ' && cs.getLast? != some ' '

/-- Whether a text can be written in single quotes. -/
def allowsSingleQuotes (cs : List Char) : Bool :=
  cs.all isPrintable && !hasNeighbours isAnyBreak (· == ' ') cs &&
    !hasNeighbours (· == ' ') isAnyBreak cs

/-- Whether a text can be written line by line. -/
def allowsLiteral (cs : List Char) : Bool :=
  cs.all isPrintable && cs.getLast? != some ' ' && !hasNeighbours (· == ' ') isAnyBreak cs

/-- The style of a text. -/
def ofText (text : String) : Style :=
  let cs := text.toList
  if cs.contains '\n' then (if allowsLiteral cs then literal else doubleQuoted)
  else if !Plain.isAmbiguous text && allowsPlain cs then plain
  else if allowsSingleQuotes cs then singleQuoted
  else doubleQuoted

end Style

/-- Upper-case hexadecimal digits, at least `width` of them. -/
def hexadecimal (width n : Nat) : List Char :=
  let digits := (Nat.toDigits 16 n).map Char.toUpper
  List.replicate (width - digits.length) '0' ++ digits

/-- One character in double quotes. -/
def escaped (c : Char) : List Char :=
  let n := c.toNat
  if isPrintable c && !isAnyBreak c && c != '"' && c != '\\' then [c]
  else
    '\\' ::
    match n with
    | 0 => ['0']
    | 7 => ['a']
    | 8 => ['b']
    | 9 => ['t']
    | 10 => ['n']
    | 11 => ['v']
    | 12 => ['f']
    | 13 => ['r']
    | 27 => ['e']
    | 34 => ['"']
    | 92 => ['\\']
    | 0x85 => ['N']
    | 0x2028 => ['L']
    | 0x2029 => ['P']
    | n =>
      if n ≤ 0xFF then 'x' :: hexadecimal 2 n
      else if n ≤ 0xFFFF then 'u' :: hexadecimal 4 n
      else 'U' :: hexadecimal 8 n

/-- A text in single quotes, with `margin` before a line that another one precedes. -/
def singleQuotedText (margin : List Char) : List Char → Bool → List Char
  | [], isNewLine => (if isNewLine then margin else []) ++ ['\'']
  | c :: rest, isNewLine =>
    if isAnyBreak c then c :: singleQuotedText margin rest true
    else
      (if isNewLine then margin else []) ++ (if c = '\'' then ['\'', '\''] else [c]) ++
        singleQuotedText margin rest false

/-- The lines of a text, with `margin` before each that is not empty. -/
def literalText (margin : List Char) : List Char → Bool → List Char
  | [], _ => []
  | c :: rest, isNewLine =>
    if isAnyBreak c then c :: literalText margin rest true
    else (if isNewLine then margin else []) ++ c :: literalText margin rest false

/-- The header of a text that is written line by line. -/
def literalHeader (cs : List Char) : List Char :=
  let hint := if cs.head?.any fun c => c == ' ' || isAnyBreak c then ['2'] else []
  let chomping :=
    match cs.reverse with
    | [] => ['-']
    | c :: before =>
      if !isAnyBreak c then ['-'] else if before.head?.all isAnyBreak then ['+'] else []
  '|' :: hint ++ chomping ++ ['\n']

/-- A text as a scalar, with the line break behind it; `indent` is the column of its lines. -/
def scalarLine (indent : Nat) (text : String) : String :=
  let cs := text.toList
  let margin := List.replicate indent ' '
  String.ofList <|
    match Style.ofText text with
    | .plain => cs ++ ['\n']
    | .singleQuoted => '\'' :: singleQuotedText margin cs false ++ ['\n']
    | .doubleQuoted => '"' :: cs.flatMap escaped ++ ['"', '\n']
    | .literal =>
      literalHeader cs ++ literalText margin cs true ++
        (if cs.getLast?.any isAnyBreak then [] else ['\n'])

end StubResolver.Yaml
