import KernelCache.Decimal.Shortest
import KernelCache.Text.Numeral

/-
**Numbers with a binary precision.**

A `Quantity` is a ratio with a sign, or what stands in the place of a number. `Quantity.rounded`
keeps so many binary digits, `Quantity.read?` reads the longest number at the front of a text, and
`fixed`, `scientific` and `general` write decimal digits; a tie goes to the even neighbour.
-/

namespace KernelCache.Decimal

/-- A number, or what stands in its place. -/
inductive Quantity where
  | finite (negative : Bool) (size : Ratio)
  | infinite (negative : Bool)
  | unknown (negative : Bool)

/-- The natural number nearest to a quotient; a tie goes to the even one. -/
def nearestQuotient (numerator denominator : Nat) : Nat :=
  let floor := numerator / denominator
  let twice := 2 * (numerator % denominator)
  if twice < denominator then floor
  else if denominator < twice then floor + 1
  else floor + floor % 2

/-- The natural number nearest to a ratio times a power of ten. -/
def Ratio.scaledUp (ratio : Ratio) (exponent : Int) : Nat :=
  let scaled := ratio.scale (-exponent)
  nearestQuotient scaled.numerator scaled.denominator

/-- The least exponent of a power of two above a ratio that is not zero. -/
def Ratio.binaryExponent (ratio : Ratio) : Int :=
  let guess := (Nat.log2 ratio.numerator : Int) - Nat.log2 ratio.denominator
  let reaches (exponent : Int) : Bool :=
    if 0 ≤ exponent then ratio.denominator * twoTo exponent.toNat ≤ ratio.numerator
    else ratio.denominator ≤ ratio.numerator * twoTo (-exponent).toNat
  if reaches guess then guess + 1 else guess

/-- A ratio with so many binary digits, of which none is below an exponent. -/
def Ratio.rounded (digits : Nat) (least : Int) (ratio : Ratio) : Ratio :=
  if ratio.numerator = 0 then ratio
  else
    let unit := max (ratio.binaryExponent - digits) least
    if 0 ≤ unit then
      ⟨nearestQuotient ratio.numerator (ratio.denominator * twoTo unit.toNat) * twoTo unit.toNat, 1⟩
    else ⟨nearestQuotient (ratio.numerator * twoTo (-unit).toNat) ratio.denominator,
      twoTo (-unit).toNat⟩

namespace Quantity

/-- A precision: binary digits, the least exponent and the first one that is too large. -/
structure Precision where
  digits : Nat
  least : Int
  limit : Int

/-- The usual precision. -/
def Precision.usual : Precision := ⟨53, -1074, 1024⟩

/-- The precision of the widest numbers. -/
def Precision.wide : Precision := ⟨64, -16445, 16384⟩

/-- A quantity in a precision. -/
def rounded (precision : Precision) : Quantity → Quantity
  | finite negative size =>
    let size := size.rounded precision.digits precision.least
    if size.numerator ≠ 0 ∧ precision.limit < size.binaryExponent then infinite negative
    else finite negative size
  | other => other

/-- A natural number. -/
def ofNat (value : Nat) : Quantity := finite false ⟨value, 1⟩

/-- An integer. -/
def ofInt (value : Int) : Quantity := finite (value < 0) ⟨value.natAbs, 1⟩

/-- A double. -/
def ofFloat (value : Float) : Quantity :=
  let negative : Bool := twoTo 63 ≤ value.toBits.toNat
  if value.isNaN then unknown negative
  else if value.isInf then infinite negative
  else
    let binary := Binary.ofFloat value.abs
    finite negative (Ratio.quarters (4 * binary.significand) binary.exponent)

/-- The double nearest to a quantity. -/
def toFloat (quantity : Quantity) : Float :=
  match quantity.rounded .usual with
  | finite negative size =>
    let number := (Float.ofNat size.numerator).scaleB (-(Nat.log2 size.denominator : Int))
    if negative then -number else number
  | infinite negative => if negative then -1.0 / 0.0 else 1.0 / 0.0
  | unknown _ => 0.0 / 0.0

/-! ### Reading -/

/-- The digits at the front of a text in a base, and what follows them. -/
def digitsAt (base : Nat) (text : List Char) : List Char × List Char :=
  text.span fun char => (Numeral.digit? base char).isSome

/-- The value of digits of a base. -/
def valueOf (base : Nat) (digits : List Char) : Nat :=
  digits.foldl (fun value digit => value * base + (Numeral.digit? base digit).getD 0) 0

/-- The exponent behind a letter, and what follows it; there is none where no digit follows. -/
def exponentAt (letters : List Char) (text : List Char) : Int × List Char :=
  match text with
  | letter :: rest =>
    if !letters.contains letter then (0, text)
    else
      let (negative, behind) := match rest with
        | '-' :: behind => (true, behind)
        | '+' :: behind => (false, behind)
        | behind => (false, behind)
      let (digits, after) := digitsAt 10 behind
      if digits = [] then (0, text)
      else
        let value : Int := valueOf 10 digits
        (max (-100000) (min 100000 (if negative then -value else value)), after)
  | [] => (0, text)

/-- The longest number without a sign at the front of a text, and what follows it. -/
def readSize? (negative : Bool) (text : List Char) : Option (Quantity × List Char) :=
  let lower := text.map Char.toLower
  let starts (word : String) : Bool := word.toList.isPrefixOf lower
  if starts "infinity" then some (infinite negative, text.drop 8)
  else if starts "inf" then some (infinite negative, text.drop 3)
  else if starts "nan" then some (unknown negative, text.drop 3)
  else
    let parts (base : Nat) (text : List Char) : List Char × List Char × List Char :=
      let (whole, rest) := digitsAt base text
      match rest with
      | '.' :: behind =>
        let (fraction, after) := digitsAt base behind
        if whole = [] ∧ fraction = [] then ([], [], text) else (whole, fraction, after)
      | _ => (whole, [], rest)
    let (whole, fraction, after) := parts 16 (text.drop 2)
    if starts "0x" ∧ (whole ≠ [] ∨ fraction ≠ []) then
      let (exponent, after) := exponentAt ['p', 'P'] after
      let value := valueOf 16 (whole ++ fraction)
      let exponent := exponent - 4 * fraction.length
      let size : Ratio := if 0 ≤ exponent then ⟨value * twoTo exponent.toNat, 1⟩
        else ⟨value, twoTo (-exponent).toNat⟩
      some (finite negative size, after)
    else
      let (whole, fraction, after) := parts 10 text
      if whole = [] ∧ fraction = [] then none
      else
        let (exponent, after) := exponentAt ['e', 'E'] after
        let value := valueOf 10 (whole ++ fraction)
        let exponent := exponent - fraction.length
        some (finite negative ((⟨value, 1⟩ : Ratio).scale (-exponent)), after)

/-- The longest number at the front of a text, and what follows it. -/
def read? (text : List Char) : Option (Quantity × List Char) :=
  match text.dropWhile fun char => char == ' ' || ('\t' ≤ char && char ≤ '\r') with
  | '-' :: rest => readSize? true rest
  | '+' :: rest => readSize? false rest
  | rest => readSize? false rest

/-! ### Writing -/

/-- Digits with a point in front of the last ones; the point stays without any when `pointed`. -/
def withPlaces (pointed : Bool) (places value : Nat) : List Char :=
  let text := (toString value).toList
  let padded := List.replicate (places + 1 - text.length) '0' ++ text
  let whole := padded.length - places
  if places = 0 ∧ !pointed then padded else padded.take whole ++ '.' :: padded.drop whole

/-- A ratio with so many places. -/
def fixed (pointed : Bool) (places : Nat) (size : Ratio) : List Char :=
  withPlaces pointed places (size.scaledUp places)

/-- The decimal exponent of a ratio, searched downwards from a guess that is not too small. -/
def decimalExponent (size : Ratio) : Nat → Int → Int
  | 0, exponent => exponent
  | fuel + 1, exponent =>
    let scaled := size.scale exponent
    if scaled.denominator ≤ scaled.numerator then exponent
    else decimalExponent size fuel (exponent - 1)

/-- The leading digits of a ratio, one more than `places`, and the exponent of the first one. -/
def leading (places : Nat) (size : Ratio) : Nat × Int :=
  if size.numerator = 0 then (0, 0)
  else
    let high := size.binaryExponent * 30103 / 100000 + 1
    let exponent := decimalExponent size 8 high
    let digits := size.scaledUp (places - exponent)
    if digits = Nat.pow 10 (places + 1) then (digits / 10, exponent + 1) else (digits, exponent)

/-- An exponent as it is written, with two digits at least. -/
def exponentText (exponent : Int) : List Char :=
  let digits := (toString exponent.natAbs).toList
  (if exponent < 0 then '-' else '+') :: List.replicate (2 - digits.length) '0' ++ digits

/-- A ratio with one digit in front of the point, so many places, and an exponent. -/
def scientific (pointed : Bool) (places : Nat) (size : Ratio) : List Char :=
  let (digits, exponent) := leading places size
  withPlaces pointed places digits ++ 'e' :: exponentText exponent

/-- A text without zeros at its end behind a point, and without a point at its end. -/
def stripped (text : List Char) : List Char :=
  if text.contains '.' then
    let reversed := text.reverse.dropWhile (· == '0')
    (if reversed.head? = some '.' then reversed.drop 1 else reversed).reverse
  else text

/-- A ratio with so many digits in the shorter form; zeros at the end stay when `pointed`. -/
def general (pointed : Bool) (count : Nat) (size : Ratio) : List Char :=
  let count := max count 1
  let (digits, exponent) := leading (count - 1) size
  if exponent < -4 ∨ (count : Int) ≤ exponent then
    let mantissa := withPlaces pointed (count - 1) digits
    (if pointed then mantissa else stripped mantissa) ++ 'e' :: exponentText exponent
  else
    let text := fixed pointed ((count : Int) - 1 - exponent).toNat size
    if pointed then text else stripped text

/-- A ratio in hexadecimal with a power of two, as short as it goes. -/
def hexadecimal (pointed : Bool) (places? : Option Nat) (size : Ratio) : List Char :=
  let exponent : Int := if size.numerator = 0 then 0 else size.binaryExponent - 1
  let scaled : Ratio := if 0 ≤ exponent then ⟨size.numerator, size.denominator * twoTo exponent.toNat⟩
    else ⟨size.numerator * twoTo (-exponent).toNat, size.denominator⟩
  let places := places?.getD 13
  let value := nearestQuotient (scaled.numerator * Nat.pow 16 places) scaled.denominator
  let whole := value / Nat.pow 16 places
  let digits := Numeral.hex places value
  let digits := if places?.isSome then digits
    else (digits.reverse.dropWhile (· == '0')).reverse
  let point := if digits = [] ∧ !pointed then [] else ['.']
  let power := (if exponent < 0 then '-' else '+') :: (toString exponent.natAbs).toList
  "0x".toList ++ (toString whole).toList ++ point ++ digits ++ 'p' :: power

end Quantity

end KernelCache.Decimal
