import KernelCache.Power

/-
**Written numbers.**

* `hex width value` has exactly `width` lower case digits, the value modulo `16 ^ width`.
* `parse? base bound text` reads an unsigned number: an optional plus sign, then at least one digit
  of the base, with a value below the bound.
* `decimal64?` fixes the base ten and 64 bits.
-/

namespace KernelCache.Numeral

/-- The lower case digit of a value below sixteen. -/
def hexDigit (value : Nat) : Char :=
  if value < 10 then Char.ofNat ('0'.toNat + value) else Char.ofNat ('a'.toNat + (value - 10))

/-- The last `width` hexadecimal digits of a value, most significant first. -/
def hex : Nat → Nat → List Char
  | 0, _ => []
  | width + 1, value => hex width (value / 16) ++ [hexDigit (value % 16)]

/-- A 64-bit word as sixteen digits. -/
def hex64 (word : UInt64) : String :=
  String.ofList (hex 16 word.toNat)

/-- A 32-bit word as eight digits behind `0x`. -/
def hex32 (word : UInt32) : String :=
  "0x" ++ String.ofList (hex 8 word.toNat)

/-- A number in hexadecimal without leading zeros. -/
def hexShort (value : Nat) : String :=
  String.ofList (Nat.toDigits 16 value)

/-- The value of a digit, in either case. -/
def digitValue? (char : Char) : Option Nat :=
  if '0' ≤ char ∧ char ≤ '9' then some (char.toNat - '0'.toNat)
  else if 'a' ≤ char ∧ char ≤ 'z' then some (char.toNat - 'a'.toNat + 10)
  else if 'A' ≤ char ∧ char ≤ 'Z' then some (char.toNat - 'A'.toNat + 10)
  else none

/-- The value of a digit of the given base. -/
def digit? (base : Nat) (char : Char) : Option Nat :=
  (digitValue? char).filter (· < base)

/-- Reads digits behind a value already read; fails at the first digit that leaves the bound. -/
def digits? (base bound : Nat) : Nat → List Char → Option Nat
  | value, [] => some value
  | value, char :: rest => do
    let digit ← digit? base char
    let next := value * base + digit
    if next < bound then digits? base bound next rest else none

/-- Reads an unsigned number below the bound. -/
def parse? (base bound : Nat) : List Char → Option Nat
  | [] => none
  | ['+'] => none
  | '+' :: rest => digits? base bound 0 rest
  | text => digits? base bound 0 text

/-- Reads a decimal 64-bit number. -/
def decimal64? (text : String) : Option Nat :=
  parse? 10 (twoTo 64) text.toList

end KernelCache.Numeral
