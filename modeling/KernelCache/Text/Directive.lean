import KernelCache.Decimal.Quantity

/-
**Directives of formats.**

A directive is a percent sign with flags, a width, a precision and a letter. `Directive.read?` reads
one, and `ofText`, `ofInteger` and `ofQuantity` lay values out by it.
-/

namespace KernelCache.Text

/-- A width or a precision. -/
inductive Extent where
  | absent
  | given (value : Nat)
  /-- It is taken from the arguments. -/
  | argument
  deriving DecidableEq, Repr

/-- A directive. -/
structure Directive where
  flags : List Char := []
  width : Extent := .absent
  precision : Extent := .absent
  /-- The letters between the precision and the last one, which say how wide a number is. -/
  size : List Char := []
  letter : Char
  deriving DecidableEq, Repr

/-- How a value is laid out. -/
structure Layout where
  /-- Whether it stands at the left end of its width. -/
  left : Bool := false
  /-- Whether zeros fill up the width. -/
  zeros : Bool := false
  /-- What stands in front of what is not negative. -/
  sign : List Char := []
  /-- Whether the base is shown, and a point without places. -/
  marked : Bool := false
  width : Nat := 0
  precision? : Option Nat := none
  deriving DecidableEq, Repr

namespace Directive

/-- A decimal number at the front of a text, and what follows it. -/
def numberAt (text : List Char) : Nat × List Char :=
  let (digits, rest) := text.span fun char => '0' ≤ char && char ≤ '9'
  (digits.foldl (fun value digit => value * 10 + (digit.toNat - 48)) 0, rest)

/-- Reads what follows a percent sign, up to the letter. -/
def read? (text : List Char) : Option (Directive × List Char) :=
  let (flags, rest) := text.span fun char => "-+ #0'I".toList.contains char
  let (width, rest) := match rest with
    | '*' :: rest => (Extent.argument, rest)
    | first :: _ =>
      if '0' ≤ first ∧ first ≤ '9' then
        let (value, rest) := numberAt rest
        (.given value, rest)
      else (.absent, rest)
    | [] => (.absent, rest)
  let (precision, rest) := match rest with
    | '.' :: '*' :: rest => (Extent.argument, rest)
    | '.' :: rest =>
      let (value, rest) := numberAt rest
      (.given value, rest)
    | rest => (.absent, rest)
  let (size, rest) := rest.span fun char => "hlLqjzt".toList.contains char
  match rest with
  | letter :: rest => some ({ flags, width, precision, size, letter }, rest)
  | [] => none

/-- The layout of a directive with the width and the precision that the arguments give. -/
def layout (directive : Directive) (width precision : Int) : Layout :=
  let asked : Int := match directive.width with
    | .absent => 0
    | .given value => value
    | .argument => width
  let precision? := match directive.precision with
    | .absent => none
    | .given value => some value
    | .argument => if precision < 0 then none else some precision.toNat
  let has (flag : Char) : Bool := directive.flags.contains flag
  { left := has '-' || asked < 0
    zeros := has '0'
    sign := if has '+' then ['+'] else if has ' ' then [' '] else []
    marked := has '#'
    width := asked.natAbs
    precision? }

end Directive

namespace Layout

/-- A text in the width, with a part in front that zeros do not come before. -/
def fill (layout : Layout) (zeros : Bool) (front text : List Char) : List Char :=
  let missing := layout.width - (front.length + text.length)
  if layout.left then front ++ text ++ List.replicate missing ' '
  else if zeros && layout.zeros then front ++ List.replicate missing '0' ++ text
  else List.replicate missing ' ' ++ front ++ text

/-- A text, cut off at the precision. -/
def ofText (layout : Layout) (text : List Char) : List Char :=
  let text := match layout.precision? with
    | some limit => text.take limit
    | none => text
  layout.fill false [] text

/-- Digits with zeros in front up to the precision; zero has no digits when none are asked for. -/
def digits (layout : Layout) (base value : Nat) : List Char :=
  let text := if value = 0 ∧ layout.precision? = some 0 then [] else Nat.toDigits base value
  List.replicate (layout.precision?.getD 1 - text.length) '0' ++ text

/-- An integer in decimal. -/
def ofInteger (layout : Layout) (value : Int) : List Char :=
  let front := if value < 0 then ['-'] else layout.sign
  layout.fill layout.precision?.isNone front (layout.digits 10 value.natAbs)

/-- A natural number in the base of a letter. -/
def ofNatural (layout : Layout) (letter : Char) (value : Nat) : List Char :=
  match letter with
  | 'o' =>
    let text := layout.digits 8 value
    let text := if layout.marked ∧ text.head? ≠ some '0' then '0' :: text else text
    layout.fill layout.precision?.isNone [] text
  | 'x' | 'X' =>
    let text := layout.digits 16 value
    let front := if layout.marked ∧ value ≠ 0 then ['0', letter] else []
    layout.fill layout.precision?.isNone front
      (if letter = 'X' then text.map Char.toUpper else text)
  | _ => layout.fill layout.precision?.isNone [] (layout.digits 10 value)

/-- A number in the form of a letter. -/
def ofQuantity (layout : Layout) (letter : Char) (quantity : Decimal.Quantity) : List Char :=
  let negative := match quantity with
    | .finite negative _ | .infinite negative | .unknown negative => negative
  let front := if negative then ['-'] else layout.sign
  let places := layout.precision?.getD 6
  let (zeros, text) := match quantity with
    | .infinite _ => (false, "inf".toList)
    | .unknown _ => (false, "nan".toList)
    | .finite _ size =>
      (true, match letter.toLower with
        | 'f' => Decimal.Quantity.fixed layout.marked places size
        | 'e' => Decimal.Quantity.scientific layout.marked places size
        | 'a' => Decimal.Quantity.hexadecimal layout.marked layout.precision? size
        | _ => Decimal.Quantity.general layout.marked places size)
  let isHex := zeros && letter.toLower == 'a'
  let front := if isHex then front ++ text.take 2 else front
  let text := if isHex then text.drop 2 else text
  let cased (text : List Char) : List Char :=
    if 'A' ≤ letter ∧ letter ≤ 'Z' then text.map Char.toUpper else text
  layout.fill zeros (cased front) (cased text)

end Layout

end KernelCache.Text
