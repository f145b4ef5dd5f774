/-! Unsigned numerals in text. -/

namespace StubResolver.Text

/-- The value of a digit in the given base, which is at most sixteen. -/
def digitValue? (base : Nat) (c : Char) : Option Nat :=
  let n := c.toNat
  let value? :=
    if 48 ≤ n ∧ n ≤ 57 then some (n - 48)
    else if 97 ≤ n ∧ n ≤ 102 then some (n - 87)
    else if 65 ≤ n ∧ n ≤ 70 then some (n - 55)
    else none
  value?.filter (· < base)

/-- The value of one or more digits, and nothing else. -/
def digits? (base : Nat) (cs : List Char) : Option Nat :=
  if cs.isEmpty then none
  else cs.foldl (fun acc c => do return base * (← acc) + (← digitValue? base c)) (some 0)

/-- The value of one or more digits, if it is at most `limit`. The digits behind the one that
exceeds it are not read. -/
def digitsUpTo? (base limit : Nat) (cs : List Char) : Option Nat :=
  if cs.isEmpty then none
  else cs.foldlM (fun acc c => do
    let n := base * acc + (← digitValue? base c)
    if n ≤ limit then some n else none) 0

/-- The value of a numeral of at most `limit`: digits, behind at most one plus sign. -/
def numeralUpTo? (base limit : Nat) : List Char → Option Nat
  | '+' :: cs => digitsUpTo? base limit cs
  | cs => digitsUpTo? base limit cs

end StubResolver.Text
