import KernelCache.C.Token
import KernelCache.C.Types

/-
**Numbers in source text.**

`Number.read?` reads a number with its suffix; the type of an integer is the first of the usual ones
that holds it.
-/

namespace KernelCache.C.Number

/-- An integer as it is written. -/
structure Integer where
  value : Nat
  isDecimal : Bool
  isUnsigned : Bool
  /-- How many letters ask for a longer type. -/
  length : Nat

/-- The suffixes of an integer: whether it has no sign, and how many letters ask for a longer type. -/
def suffixes? (letters : List Char) : Option (Bool × Nat) :=
  match String.ofList (letters.map Char.toLower) with
  | "" => some (false, 0)
  | "u" => some (true, 0)
  | "l" => some (false, 1)
  | "ul" | "lu" | "uz" | "zu" => some (true, 1)
  | "z" => some (false, 1)
  | "ll" => if letters == ['l', 'L'] || letters == ['L', 'l'] then none else some (false, 2)
  | "ull" | "llu" => some (true, 2)
  | _ => none

/-- Digits without the marks that group them. -/
def ungrouped (chars : List Char) : List Char := chars.filter (· != '\'')

/-- The value of digits of a base, and the letters behind them. -/
def digitsOf? (base : Nat) (chars : List Char) : Option (Nat × List Char) :=
  let digits := chars.takeWhile fun char => (Numeral.digit? base char).isSome
  if digits = [] then none
  else
    let value := digits.foldl (fun value digit =>
      value * base + (Numeral.digit? base digit).getD 0) 0
    some (value, chars.drop digits.length)

/-- An integer. -/
def integer? (text : String) : Option Integer := do
  let (base, chars) := match ungrouped text.toList with
    | '0' :: 'x' :: rest | '0' :: 'X' :: rest => (16, rest)
    | '0' :: 'b' :: rest | '0' :: 'B' :: rest => (2, rest)
    | '0' :: rest => (8, '0' :: rest)
    | chars => (10, chars)
  let (value, letters) ← digitsOf? base chars
  let (isUnsigned, length) ← suffixes? letters
  return { value, isDecimal := base = 10, isUnsigned, length }

/-- The type of an integer: the first of the usual ones that holds it. -/
def Integer.type (number : Integer) : Arithmetic :=
  let fits (type : Arithmetic) : Bool :=
    match type.kind with
    | .word size signed => number.value < (if signed then twoTo (8 * size - 1) else twoTo (8 * size))
    | _ => false
  let candidates : List Arithmetic :=
    (match number.length with
      | 0 => [.int, .unsignedInt, .long, .unsignedLong]
      | 1 => [.long, .unsignedLong]
      | _ => [.longLong, .unsignedLongLong])
  let allowed := candidates.filter fun type =>
    if number.isUnsigned then !type.isSigned else type.isSigned || !number.isDecimal
  (allowed.find? fits).getD .unsignedLongLong

/-- The type that the suffix of a number in floating point means. -/
def realType? (letters : List Char) : Option Arithmetic :=
  match String.ofList (letters.map Char.toLower) with
  | "" | "d" | "f64" | "f32x" => some .double
  | "f" | "f32" => some .float
  | "l" | "w" | "f64x" | "q" | "f128" => some .longDouble
  | _ => none

/-- The exponent behind a letter, and what follows it. -/
def exponent? (letter : Char) (chars : List Char) : Option (Option Int × List Char) :=
  match chars with
  | char :: rest =>
    if char.toLower = letter then do
      let (negative, rest) := match rest with
        | '-' :: rest => (true, rest)
        | '+' :: rest => (false, rest)
        | rest => (false, rest)
      let (value, rest) ← digitsOf? 10 rest
      return (some (if negative then -(value : Int) else value), rest)
    else some (none, chars)
  | [] => some (none, [])

/-- A number in floating point. -/
def real? (text : String) : Option (Arithmetic × Float) := do
  let (base, chars) := match ungrouped text.toList with
    | '0' :: 'x' :: rest | '0' :: 'X' :: rest => (16, rest)
    | chars => (10, chars)
  let isDigit (char : Char) : Bool := (Numeral.digit? base char).isSome
  let whole := chars.takeWhile isDigit
  let (places, rest, pointed) := match chars.drop whole.length with
    | '.' :: rest => (rest.takeWhile isDigit, rest.dropWhile isDigit, true)
    | rest => ([], rest, false)
  let (power?, rest) ← exponent? (if base = 16 then 'p' else 'e') rest
  let digits := whole ++ places
  if digits = [] ∨ (!pointed && power?.isNone) ∨ (base = 16 ∧ power?.isNone) then none
  else
    let type ← realType? rest
    let value := digits.foldl (fun value digit =>
      value * base + (Numeral.digit? base digit).getD 0) 0
    let power := power?.getD 0
    let number :=
      if base = 16 then (Float.ofNat value).scaleB (power - 4 * places.length)
      else
        let count := if value = 0 then 0 else (Nat.toDigits 10 value).length
        Decimal.read false value count (power - places.length)
    return (type, (Code.Value.nearest type.kind.size number).number)

/-- A number with its type. -/
def read? (text : String) : Option (Arithmetic × Code.Value) :=
  match integer? text with
  | some number =>
    if number.value < twoTo 64 then some (number.type, .word number.value) else none
  | none => (real? text).map fun (type, number) => (type, .real number)

/-- An imaginary number with its type: a letter of the suffix says that it is one. -/
def imaginary? (text : String) : Option (Arithmetic × Code.Value) :=
  let chars := text.toList
  let stem := chars.reverse.dropWhile fun char => !(Numeral.digit? 10 char).isSome && char != '.'
  let letters := chars.drop stem.length
  let others := letters.filter fun char => !(['i', 'j', 'I', 'J'].contains char)
  if others.length + 1 = letters.length then read? (String.ofList (stem.reverse ++ others)) else none

end KernelCache.C.Number
