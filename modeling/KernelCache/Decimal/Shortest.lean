import KernelCache.Power

/-
**Decimal texts of floating point numbers.**

* `Decimal.read` is the double nearest to a decimal number.
* `Decimal.shortest` has the fewest digits that read back as the same double, and among those the
  ones nearest to it.
* `Decimal.plainText` writes a double without an exponent and always with a decimal point.
-/

namespace KernelCache.Decimal

/-- The double nearest to `digits · 10 ^ exponent`, where `count` is the number of digits. -/
def read (negative : Bool) (digits count : Nat) (exponent : Int) : Float :=
  let size := if digits = 0 then 0
    else if 400 < exponent + count then 1 / 0
    else if exponent + count < -400 then 0
    else if 0 ≤ exponent then Float.ofScientific (digits * Nat.pow 10 exponent.toNat) false 0
    else Float.ofScientific digits true (-exponent).toNat
  if negative then -size else size

/-- A finite positive double as `significand · 2 ^ exponent`. -/
structure Binary where
  significand : Nat
  exponent : Int

/-- The parts of a finite positive double. -/
def Binary.ofFloat (value : Float) : Binary :=
  let bits := value.toBits.toNat
  let stored : Nat := bits / twoTo 52 % twoTo 11
  let fraction : Nat := bits % twoTo 52
  if stored = 0 then ⟨fraction, -1074⟩ else ⟨fraction + twoTo 52, (stored : Int) - 1075⟩

/-- A quotient of natural numbers, not reduced. -/
structure Ratio where
  numerator : Nat
  denominator : Nat

/-- `factor / 4 · 2 ^ exponent` as a ratio. -/
def Ratio.quarters (factor : Nat) (exponent : Int) : Ratio :=
  let power := exponent - 2
  if 0 ≤ power then ⟨factor * twoTo power.toNat, 1⟩ else ⟨factor, twoTo (-power).toNat⟩

/-- The ratio divided by `10 ^ exponent`. -/
def Ratio.scale (ratio : Ratio) (exponent : Int) : Ratio :=
  if 0 ≤ exponent then ⟨ratio.numerator, ratio.denominator * Nat.pow 10 exponent.toNat⟩
  else ⟨ratio.numerator * Nat.pow 10 (-exponent).toNat, ratio.denominator⟩

/-- Whether a natural number lies between two ratios; the ends count when `closed`. -/
def between (low high : Ratio) (closed : Bool) (value : Nat) : Bool :=
  let above := low.numerator < value * low.denominator
  let below := value * high.denominator < high.numerator
  let atLow := closed && low.numerator == value * low.denominator
  let atHigh := closed && value * high.denominator == high.numerator
  (above || atLow) && (below || atHigh)

/-- The grid point `n · 10 ^ exponent` next to the double that reads back as it. -/
def gridPoint? (binary : Binary) (exponent : Int) : Option Nat :=
  let closed := binary.significand % 2 = 0
  let edge := binary.significand = twoTo 52 ∧ -1074 < binary.exponent
  let exact := (Ratio.quarters (4 * binary.significand) binary.exponent).scale exponent
  let low := (Ratio.quarters (4 * binary.significand - (if edge then 1 else 2))
    binary.exponent).scale exponent
  let high := (Ratio.quarters (4 * binary.significand + 2) binary.exponent).scale exponent
  let floor := exact.numerator / exact.denominator
  let twice := 2 * (exact.numerator % exact.denominator)
  let nearer := if twice < exact.denominator then floor
    else if exact.denominator < twice then floor + 1
    else floor + floor % 2
  let other := if nearer = floor then floor + 1 else floor
  if between low high closed nearer then some nearer
  else if between low high closed other then some other
  else none

/-- The decimal exponent of the leading digit of a ratio, searched upwards from a lower bound. -/
def leadingExponent (ratio : Ratio) : Nat → Int → Int
  | 0, exponent => exponent
  | fuel + 1, exponent =>
    let scaled := ratio.scale (exponent + 1)
    if scaled.numerator < scaled.denominator then exponent
    else leadingExponent ratio fuel (exponent + 1)

/-- The coarsest grid point that reads back, trying at most the given number of finer grids. -/
def coarsest (binary : Binary) : Nat → Int → Nat × Int
  | 0, exponent => ((gridPoint? binary exponent).getD 0, exponent)
  | fuel + 1, exponent =>
    match gridPoint? binary exponent with
    | some point => (point, exponent)
    | none => coarsest binary fuel (exponent - 1)

/-- The fewest digits that read back as a finite positive double, and their exponent. -/
def shortest (value : Float) : Nat × Int :=
  let binary := Binary.ofFloat value
  let exact := Ratio.quarters (4 * binary.significand) binary.exponent
  coarsest binary 20 (leadingExponent exact 700 (-330) + 1)

/-- `digits · 10 ^ exponent` without an exponent. -/
def positional (digits : Nat) (exponent : Int) : String :=
  let text := toString digits
  if 0 ≤ exponent then text ++ String.ofList (List.replicate exponent.toNat '0') ++ ".0"
  else
    let places := (-exponent).toNat
    let padded := List.replicate (places + 1 - text.length) '0' ++ text.toList
    let whole := padded.length - places
    String.ofList (padded.take whole ++ '.' :: padded.drop whole)

/-- A double without an exponent and always with a decimal point. -/
def plainText (value : Float) : String :=
  if value.isNaN then "NaN"
  else
    let sign := if value.toBits.toNat < twoTo 63 then "" else "-"
    let size := value.abs
    if size.isInf then sign ++ "inf"
    else if size == 0 then sign ++ "0.0"
    else
      let (digits, exponent) := shortest size
      sign ++ positional digits exponent

end KernelCache.Decimal
