/-! Octet strings: big-endian words and hexadecimal digits. -/

namespace StubResolver

/-- A string of octets, as it travels on the wire. -/
abbrev Octets := List UInt8

namespace Octets

/-- A 16-bit word, high octet first. -/
def ofWord16 (w : UInt16) : Octets :=
  [UInt8.ofNat (w.toNat / 0x100), UInt8.ofNat w.toNat]

/-- A 32-bit word, high octet first. -/
def ofWord32 (w : UInt32) : Octets :=
  [UInt8.ofNat (w.toNat / 0x1000000), UInt8.ofNat (w.toNat / 0x10000),
    UInt8.ofNat (w.toNat / 0x100), UInt8.ofNat w.toNat]

/-- The word whose octets are `a`, `b`. -/
def word16 (a b : UInt8) : UInt16 :=
  UInt16.ofNat (0x100 * a.toNat + b.toNat)

/-- The word whose octets are `a`, `b`, `c`, `d`. -/
def word32 (a b c d : UInt8) : UInt32 :=
  UInt32.ofNat (0x1000000 * a.toNat + 0x10000 * b.toNat + 0x100 * c.toNat + d.toNat)

@[simp] theorem length_ofWord16 (w : UInt16) : (ofWord16 w).length = 2 := rfl

@[simp] theorem length_ofWord32 (w : UInt32) : (ofWord32 w).length = 4 := rfl

theorem word16_octets (w : UInt16) :
    word16 (UInt8.ofNat (w.toNat / 0x100)) (UInt8.ofNat w.toNat) = w := by
  apply UInt16.toNat_inj.1
  have := w.toNat_lt
  simp only [word16, UInt16.toNat_ofNat', UInt8.toNat_ofNat']
  omega

theorem word32_octets (w : UInt32) :
    word32 (UInt8.ofNat (w.toNat / 0x1000000)) (UInt8.ofNat (w.toNat / 0x10000))
      (UInt8.ofNat (w.toNat / 0x100)) (UInt8.ofNat w.toNat) = w := by
  apply UInt32.toNat_inj.1
  have := w.toNat_lt
  simp only [word32, UInt32.toNat_ofNat', UInt8.toNat_ofNat']
  omega

theorem ofNat_eq_of_mod_eq {n : Nat} {x : UInt8} (h : n % 256 = x.toNat) :
    UInt8.ofNat n = x := by
  apply UInt8.toNat_inj.1
  rw [UInt8.toNat_ofNat', ← h]

/-- A length octet holds lengths up to 255. -/
theorem toNat_length {bytes : Octets} (h : bytes.length ≤ 255) :
    (UInt8.ofNat bytes.length).toNat = bytes.length := by
  rw [UInt8.toNat_ofNat']
  omega

theorem ofWord16_word16 (a b : UInt8) : ofWord16 (word16 a b) = [a, b] := by
  have ha := a.toNat_lt
  have hb := b.toNat_lt
  have hvalue : (word16 a b).toNat = 0x100 * a.toNat + b.toNat := by
    rw [word16, UInt16.toNat_ofNat']
    omega
  rw [ofWord16, hvalue, ofNat_eq_of_mod_eq (x := a) (by omega),
    ofNat_eq_of_mod_eq (x := b) (by omega)]

theorem ofWord32_word32 (a b c d : UInt8) : ofWord32 (word32 a b c d) = [a, b, c, d] := by
  have ha := a.toNat_lt
  have hb := b.toNat_lt
  have hc := c.toNat_lt
  have hd := d.toNat_lt
  have hvalue : (word32 a b c d).toNat =
      0x1000000 * a.toNat + 0x10000 * b.toNat + 0x100 * c.toNat + d.toNat := by
    rw [word32, UInt32.toNat_ofNat']
    omega
  rw [ofWord32, hvalue, ofNat_eq_of_mod_eq (x := a) (by omega),
    ofNat_eq_of_mod_eq (x := b) (by omega), ofNat_eq_of_mod_eq (x := c) (by omega),
    ofNat_eq_of_mod_eq (x := d) (by omega)]

/-- Whether there are at least `n` octets, found out without counting further. -/
def atLeast (n : Nat) (bytes : Octets) : Bool :=
  n == 0 || !(bytes.drop (n - 1)).isEmpty

theorem atLeast_iff {n : Nat} {bytes : Octets} : atLeast n bytes = true ↔ n ≤ bytes.length := by
  cases n with
  | zero => exact iff_of_true rfl (Nat.zero_le _)
  | succ n =>
    change (!(bytes.drop n).isEmpty) = true ↔ n < bytes.length
    rw [Bool.not_eq_true', ← Bool.not_eq_true, List.isEmpty_iff, List.drop_eq_nil_iff, Nat.not_le]

/-- The digit `n`, below sixteen, in lower case. -/
def hexDigit (n : Nat) : Char :=
  if n < 10 then Char.ofNat (48 + n) else Char.ofNat (87 + n)

/-- The digit `n`, below sixteen, in upper case. -/
def hexDigitUpper (n : Nat) : Char :=
  if n < 10 then Char.ofNat (48 + n) else Char.ofNat (55 + n)

/-- Two lower-case digits for one octet. -/
def hexPair (b : UInt8) : List Char :=
  [hexDigit (b.toNat / 16), hexDigit (b.toNat % 16)]

/-- Two upper-case digits for one octet. -/
def hexPairUpper (b : UInt8) : List Char :=
  [hexDigitUpper (b.toNat / 16), hexDigitUpper (b.toNat % 16)]

/-- Two lower-case digits for each octet. -/
def hex (bytes : Octets) : String :=
  String.ofList (bytes.flatMap hexPair)

/-- The value of a hexadecimal digit of either case. -/
def hexValue? (c : Char) : Option Nat :=
  if '0' ≤ c ∧ c ≤ '9' then some (c.toNat - 48)
  else if 'a' ≤ c ∧ c ≤ 'f' then some (c.toNat - 87)
  else if 'A' ≤ c ∧ c ≤ 'F' then some (c.toNat - 55)
  else none

/-- The octets written by an even number of hexadecimal digits. -/
def ofHex? : List Char → Option Octets
  | [] => some []
  | [_] => none
  | a :: b :: rest => do
    let high ← hexValue? a
    let low ← hexValue? b
    return UInt8.ofNat (16 * high + low) :: (← ofHex? rest)

/-- A 64-bit digest: octet by octet, exclusive or and then multiplication by a prime. Equal octets
have equal digests, and others hardly ever do. -/
def digest (bytes : Octets) : UInt64 :=
  bytes.foldl (fun h b => (h ^^^ b.toUInt64) * 0x100000001b3) 0xcbf29ce484222325

/-- `b` in lower case if it is an upper-case ASCII letter. -/
def lowerOctet (b : UInt8) : UInt8 :=
  if 65 ≤ b ∧ b ≤ 90 then b + 32 else b

theorem toNat_lowerOctet (b : UInt8) :
    (lowerOctet b).toNat = if 65 ≤ b.toNat ∧ b.toNat ≤ 90 then b.toNat + 32 else b.toNat := by
  have hrange : (65 ≤ b ∧ b ≤ 90) ↔ 65 ≤ b.toNat ∧ b.toNat ≤ 90 := by
    rw [UInt8.le_iff_toNat_le, UInt8.le_iff_toNat_le]
    rfl
  unfold lowerOctet
  by_cases h : 65 ≤ b ∧ b ≤ 90
  · rw [if_pos h, if_pos (hrange.1 h), UInt8.toNat_add]
    have := (hrange.1 h).2
    show (b.toNat + 32) % 256 = b.toNat + 32
    omega
  · rw [if_neg h, if_neg (mt hrange.2 h)]

end Octets

end StubResolver
