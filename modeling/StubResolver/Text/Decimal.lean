import StubResolver.Text.Numeral

/-! Decimal numbers in text, with a point and a power of ten, and whether they fit in a float. -/

namespace StubResolver.Text

/-- A decimal number without its sign. -/
structure Decimal where
  /-- The digits, from the first that is not zero on. -/
  digits : List Char
  /-- The power of ten that the last of them counts. -/
  exponent : Int
  deriving DecidableEq, Repr

/-- The characters behind a sign, if there is one. -/
def unsigned : List Char → List Char
  | '+' :: rest | '-' :: rest => rest
  | cs => cs

namespace Decimal

/-- The power of ten at the end of a number. It may be missing, and one beyond `limit` in either
direction is as good as that. -/
def exponent? (limit : Nat) : List Char → Option Int
  | [] => some 0
  | c :: rest =>
    let digits := unsigned rest
    if (c = 'e' ∨ c = 'E') ∧ !digits.isEmpty ∧ digits.all Char.isDigit then
      let n := (digitsUpTo? 10 limit digits).getD limit
      some (if rest.head? = some '-' then -(n : Int) else n)
    else none

/-- The number that some characters spell: a sign, digits with a point among, before or behind
them, and a power of ten; of these only the digits have to be there. A power far beyond what the
digits make up for counts as a smaller one that is so too. -/
def ofChars? (cs : List Char) : Option Decimal := do
  let cs := unsigned cs
  let whole := cs.takeWhile Char.isDigit
  let rest := cs.drop whole.length
  let hasPoint := rest.head? == some '.'
  let fraction := if hasPoint then rest.tail.takeWhile Char.isDigit else []
  let behind := if hasPoint then rest.tail.drop fraction.length else rest
  let power ← exponent? (cs.length + 400) behind
  let digits := whole ++ fraction
  if digits.isEmpty then none
  else some ⟨digits.dropWhile (· == '0'), power - fraction.length⟩

/-- Whether the number rounds to a finite one of 53 bits with an exponent of eleven bits, that is,
lies below the middle between the largest of those, which has 309 digits, and the power of two
behind it. -/
def isFinite (d : Decimal) : Bool :=
  let wholeDigits := d.digits.length + d.exponent
  if d.digits.isEmpty ∨ wholeDigits < 309 then true
  else if 309 < wholeDigits then false
  else (digits? 10 ((d.digits ++ List.replicate 309 '0').take 309)).any fun n =>
    n < (1 <<< 1024) - (1 <<< 970)

end Decimal

end StubResolver.Text
