/-! White space as Unicode's White_Space property has it, and trimming. -/

namespace StubResolver.Text

/-- White space: the five ASCII controls, the space, and seventeen characters beyond ASCII. -/
def isBlank (c : Char) : Bool :=
  let n := c.toNat
  (9 ≤ n && n ≤ 13) || n == 0x20 || n == 0x85 || n == 0xA0 || n == 0x1680 ||
    (0x2000 ≤ n && n ≤ 0x200A) || n == 0x2028 || n == 0x2029 || n == 0x202F || n == 0x205F ||
    n == 0x3000

/-- `cs` without the characters of `p` at its end. -/
def trimRight (p : Char → Bool) (cs : List Char) : List Char :=
  (cs.reverse.dropWhile p).reverse

/-- `cs` without white space at either end. -/
def trimBlanks (cs : List Char) : List Char :=
  trimRight isBlank (cs.dropWhile isBlank)

/-- `text` without white space at either end. -/
def trim (text : String) : String :=
  String.ofList (trimBlanks text.toList)

end StubResolver.Text
