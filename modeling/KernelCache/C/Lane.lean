import KernelCache.C.Conversion
import KernelCache.C.Symbol

/-
**Several numbers as one value.**

A row of numbers is combined number by number; a complex number is its real part and its imaginary
part. Either is kept as a record whose numbers lie behind each other.

* `Parse.laneType` is the type of such a value.
* `Parse.laneBinary?` and `Parse.laneUnary?` are the operators on such values.
* `Parse.laneBuild` makes such a value of an operand, `Parse.laneNumber` a number of such a value.
-/

namespace KernelCache.C

open KernelCache.Code (Term Value Kind Instruction Linkage)

namespace Parse

/-- Terms one behind the other. -/
def sequenced (terms : List Term) : Term :=
  match terms with
  | [] => .nothing
  | first :: rest => rest.foldl .sequence first

/-- A call of a routine that is found when the program is put together. -/
def outerCall (symbol : String) (arguments : List Term) : Term :=
  .call (.address symbol) arguments

/-! ### Types -/

/-- The type of several numbers that are one value. -/
def laneType (lanes : Lanes) : Parse CType := do
  let tag := Symbol.lanesTag lanes
  if ((← get).records[tag]?).isNone then
    let width := lanes.base.kind.size
    let size := width * lanes.count
    let field (index : Nat) : Field :=
      { name := toString index, type := .arithmetic lanes.base, offset := width * index }
    let record : Record :=
      { tag, name := tag, path := [tag], isUnion := false, scope := 0, isComplete := true
        size, used := size, alignment := if lanes.isComplex then width else size
        fields := (List.range lanes.count).map field
        isAggregate := !lanes.isComplex, lanes := some lanes }
    modify fun reading => { reading with records := reading.records.insert tag record }
  return .record tag

/-- The numbers that a value of a type consists of, when they are one value. -/
def lanesOf? (type : CType) : Parse (Option Lanes) := do
  match type.tag? with
  | none => return none
  | some tag => return ((← get).records[tag]?).bind (·.lanes)

/-- The type of the rows of a size in octets whose numbers have a type. -/
def rowType (size : Nat) : CType → Parse CType
  | .arithmetic base => do
    let width := base.kind.size
    require (base != .bool && 0 < size && size % width == 0)
    let count := size / width
    require (count &&& (count - 1) == 0)
    laneType ⟨base, count, false⟩
  | .const type => do return (← rowType size type).constant
  | .pointer target => do return .pointer (← rowType size target)
  | .array count item => do return .array count (← rowType size item)
  | _ => failure

/-! ### Parts -/

/-- The place of one of the numbers that lie behind each other at an address. -/
def laneAt (lanes : Lanes) (source : Term) (index : Nat) : Term :=
  source.shifted (index * lanes.base.kind.size)

/-- The numbers of a value as terms that can be used several times, and what has to be done
before. -/
def laneTerms (lanes : Lanes) (operand : Operand) : Parse (Option Term × List Term) := do
  let numbers (source : Term) : List Term :=
    (List.range lanes.count).map fun index => .load lanes.base.kind (laneAt lanes source index)
  match operand with
  | .place _ source none _ => do
    let (front, source) ← shared source
    return (front, numbers source)
  | .fresh type make => do
    let offset ← placeFor type
    return (some (make (.place offset)), numbers (.place offset))
  | _ => failure

/-- A value of numbers, behind what has to be done before. -/
def laneValue (lanes : Lanes) (front numbers : List Term) : Parse Operand := do
  let type ← laneType lanes
  let offset ← placeFor type
  let stores := numbers.zipIdx.map fun (number, index) =>
    Term.store lanes.base.kind (laneAt lanes (.place offset) index) number
  return .place type (sequenced (front ++ stores ++ [.place offset])) none true

/-- A complex number in parts; a number without an imaginary part is an ordinary one. -/
structure Pair where
  base : Arithmetic
  /-- What has to be done before. -/
  front : List Term
  real : Term
  imaginary : Option Term

/-- The parts of an operand. -/
def pairOf (operand : Operand) : Parse Pair := do
  match ← lanesOf? operand.type with
  | some lanes => do
    require lanes.isComplex
    match ← laneTerms lanes operand with
    | (front, [real, imaginary]) => return ⟨lanes.base, front.toList, real, some imaginary⟩
    | _ => failure
  | none => do
    let (base, term) ← numberOf operand
    let (front, real) ← keptValue (.arithmetic base) term
    return ⟨base, front.toList, real, none⟩

/-- A complex number whose parts have a type. -/
def Pair.as (pair : Pair) (base : Arithmetic) : Pair :=
  { pair with
    base
    real := convertTerm pair.base.kind base.kind pair.real
    imaginary := pair.imaginary.map (convertTerm pair.base.kind base.kind) }

/-- The number zero. -/
def zeroNumber (base : Arithmetic) : Term := if base.isReal then .real 0 else .word 0

/-- The parts as one value. -/
def Pair.value (pair : Pair) : Parse Operand :=
  laneValue ⟨pair.base, 2, true⟩ pair.front
    [pair.real, pair.imaginary.getD (zeroNumber pair.base)]

/-! ### Complex numbers -/

/-- The symbol of the function that divides complex numbers. -/
def dividerOf : Arithmetic → String
  | .float => "__divsc3"
  | .longDouble => "__divxc3"
  | _ => "__divdc3"

/-- Combines or compares complex numbers. -/
def pairBinary (operator : Code.Binary) (left right : Operand) : Parse Operand := do
  let a ← pairOf left
  let b ← pairOf right
  let base := a.base.common b.base
  let a := a.as base
  let b := b.as base
  let front := a.front ++ b.front
  let combine (operator : Code.Binary) (x y : Term) : Term := binaryTerm operator base.kind x y
  let value (real : Term) (imaginary : Option Term) : Parse Operand :=
    (Pair.mk base front real imaginary).value
  let same : Term :=
    let zero := zeroNumber base
    .both (combine .equal a.real b.real)
      (combine .equal (a.imaginary.getD zero) (b.imaginary.getD zero))
  match operator, a.imaginary, b.imaginary with
  | .add, x, none | .add, none, x => value (combine .add a.real b.real) x
  | .add, some x, some y => value (combine .add a.real b.real) (some (combine .add x y))
  | .sub, x, none => value (combine .sub a.real b.real) x
  | .sub, none, some y =>
    value (combine .sub a.real b.real) (some (unaryTerm .minus base.kind y))
  | .sub, some x, some y => value (combine .sub a.real b.real) (some (combine .sub x y))
  | .mul, x, none => value (combine .mul a.real b.real) (x.map fun x => combine .mul x b.real)
  | .mul, none, some y => value (combine .mul a.real b.real) (some (combine .mul a.real y))
  | .mul, some x, some y =>
    value (combine .sub (combine .mul a.real b.real) (combine .mul x y))
      (some (combine .add (combine .mul a.real y) (combine .mul x b.real)))
  | .div, x, none => value (combine .div a.real b.real) (x.map fun x => combine .div x b.real)
  | .div, x, some y =>
    let x := x.getD (zeroNumber base)
    if base.isReal then do
      let type ← laneType ⟨base, 2, true⟩
      let offset ← placeFor type
      let call := outerCall (dividerOf base) [.place offset, a.real, x, b.real, y]
      return .place type (sequenced (front ++ [call, .place offset])) none true
    else
      let size := combine .add (combine .mul b.real b.real) (combine .mul y y)
      let real := combine .add (combine .mul a.real b.real) (combine .mul x y)
      let other := combine .sub (combine .mul x b.real) (combine .mul a.real y)
      value (combine .div real size) (some (combine .div other size))
  | .equal, _, _ => truthOperand (sequenced (front ++ [same.simplified]))
  | .notEqual, _, _ =>
    truthOperand (sequenced (front ++ [unaryTerm .negation .truth same.simplified]))
  | _, _, _ => failure

/-! ### Rows -/

/-- The type of integers of a size. -/
def integerOfSize : Nat → Arithmetic
  | 1 => .signedChar
  | 2 => .short
  | 8 => .long
  | _ => .int

/-- Whether two numbers are the same. -/
def sameValue : Value → Value → Bool
  | .word a, .word b => a == b
  | .real a, .real b => a == b
  | _, _ => false

/-- Whether a number becomes one of a row without loss. -/
def fitsLane (base : Arithmetic) (type : Arithmetic) (term : Term) : Bool :=
  match term.constant? with
  | some value => sameValue (Value.convert base.kind type.kind (Value.convert type.kind base.kind value)) value
  | none =>
    if type.isReal then base.isReal && type.kind.size ≤ base.kind.size
    else type.kind.size < base.kind.size || (!base.isReal && type.kind.size == base.kind.size)

/-- The numbers of an operand of a row; an ordinary number stands for all of them. -/
def rowOf (lanes : Lanes) (operand : Operand) : Parse (List Term × List Term) := do
  match ← lanesOf? operand.type with
  | some found => do
    require (!found.isComplex && found.count == lanes.count
      && found.base.kind.size == lanes.base.kind.size && found.base.isReal == lanes.base.isReal)
    let (front, numbers) ← laneTerms found operand
    return (front.toList, numbers)
  | none => do
    let (type, term) ← valueOf operand
    let found ← orFail type.arithmetic?
    require (fitsLane lanes.base found term)
    let (front, term) ← keptValue type term
    let number := convertTerm found.kind lanes.base.kind term
    return (front.toList, List.replicate lanes.count number)

/-- Combines or compares rows number by number. -/
def rowBinary (lanes : Lanes) (operator : Code.Binary) (left right : Operand) : Parse Operand := do
  let integral : Bool := match operator with
    | .rem | .bitAnd | .bitOr | .bitXor | .shiftLeft | .shiftRight => true
    | _ => false
  require !(integral && lanes.base.isReal)
  let (front, xs) ← rowOf lanes left
  let (more, ys) ← rowOf lanes right
  let numbers := (xs.zip ys).map fun (x, y) => binaryTerm operator lanes.base.kind x y
  if operator.compares then
    let base := integerOfSize lanes.base.kind.size
    let mask (number : Term) : Term :=
      unaryTerm .minus base.kind (convertTerm .int base.kind number)
    laneValue { lanes with base } (front ++ more) (numbers.map mask)
  else laneValue lanes (front ++ more) numbers

/-! ### Operators -/

/-- An operator on two operands of which one is several numbers. -/
def laneBinary? (operator : Code.Binary) (left right : Operand) : Parse (Option Operand) := do
  match (← lanesOf? left.type).toList ++ (← lanesOf? right.type).toList with
  | [] => return none
  | first :: others => do
    if first.isComplex || others.any (·.isComplex) then
      return some (← pairBinary operator left right)
    else
      let unsigned := others.find? fun lanes => !lanes.base.isSigned
      return some (← rowBinary (unsigned.getD first) operator left right)

/-- An operator on one operand of several numbers. -/
def laneUnary? (text : String) (operand : Operand) : Parse (Option Operand) := do
  match ← lanesOf? operand.type with
  | none => return none
  | some lanes => do
    let (front, numbers) ← laneTerms lanes operand
    let kind := lanes.base.kind
    match text, numbers with
    | "+", _ => return some operand
    | "-", _ =>
      return some (← laneValue lanes front.toList (numbers.map (unaryTerm .minus kind)))
    | "~", [real, imaginary] =>
      if lanes.isComplex then
        return some (← laneValue lanes front.toList [real, unaryTerm .minus kind imaginary])
      else return some (← complemented lanes front.toList numbers)
    | "~", _ => return some (← complemented lanes front.toList numbers)
    | _, _ => return none
where
  /-- All bits the other way. -/
  complemented (lanes : Lanes) (front numbers : List Term) : Parse Operand := do
    require (!lanes.isComplex && !lanes.base.isReal)
    laneValue lanes front (numbers.map (unaryTerm .complement lanes.base.kind))

/-- The truth of a complex number. -/
def pairTruth (operand : Operand) : Parse Term := do
  let pair ← pairOf operand
  let isThere (number : Term) : Term := binaryTerm .notEqual pair.base.kind number (zeroNumber pair.base)
  let term := Term.either (isThere pair.real) (isThere (pair.imaginary.getD (zeroNumber pair.base)))
  return sequenced (pair.front ++ [term.simplified])

/-- One of the parts of a complex number. -/
def pairPart (isReal : Bool) (operand : Operand) : Parse Operand := do
  match ← lanesOf? operand.type, operand with
  | some lanes, .place type source none isSpare => do
    require lanes.isComplex
    let part := (CType.arithmetic lanes.base).asConstAs type
    return .place part (laneAt lanes source (if isReal then 0 else 1)) none isSpare
  | some _, operand => do
    let pair ← pairOf operand
    let number := if isReal then pair.real else pair.imaginary.getD (zeroNumber pair.base)
    return .value (.arithmetic pair.base) (sequenced (pair.front ++ [number]))
  | none, operand => do
    let (type, term) ← valueOf operand
    let base ← orFail type.arithmetic?
    if isReal then return .value type term
    else return .value (.arithmetic base) (.sequence term (zeroNumber base))

/-! ### Conversions -/

/-- A value of several numbers as one number, where the language converts by itself. -/
def laneNumber (target : CType) (operand : Operand) : Parse Term := do
  if target.bare == .bool then
    return convertTerm .int .truth (← pairTruth operand)
  else
    let pair ← pairOf operand
    convertedValue target (.arithmetic pair.base) (sequenced (pair.front ++ [pair.real])) false

/-- Makes several numbers at an address of an operand. -/
def laneBuild (lanes : Lanes) (operand : Operand) (target : Term) : Parse Term := do
  match ← lanesOf? operand.type, operand with
  | found, .place type source none isSpare =>
    let isMask := isSpare && !lanes.isComplex && found == some
      { lanes with base := integerOfSize lanes.base.kind.size }
    if isMask || found == some lanes then return .copy (← sizeOf type) target source
    else converted
  | found, .fresh _ make => if found == some lanes then return make target else converted
  | _, .braces [([], inner)] =>
    match ← lanesOf? inner.type, inner with
    | found, .place type source none _ => do
      require (found == some lanes)
      return .copy (← sizeOf type) target source
    | _, inner => fromPair inner
  | _, _ => converted
where
  /-- Makes a complex number of an operand. -/
  fromPair (operand : Operand) : Parse Term := do
    require lanes.isComplex
    let pair := (← pairOf operand).as lanes.base
    let (front, target) ← shared target
    let numbers := [pair.real, pair.imaginary.getD (zeroNumber lanes.base)]
    let stores := numbers.zipIdx.map fun (number, index) =>
      Term.store lanes.base.kind (laneAt lanes target index) number
    return sequenced (front.toList ++ pair.front ++ stores)
  /-- The same of the operand at hand. -/
  converted : Parse Term := fromPair operand

/-- An operand in a type that the source asks for, when one of the types is several numbers. -/
def laneCast? (target : CType) (operand : Operand) : Parse (Option Operand) := do
  match ← lanesOf? target, ← lanesOf? operand.type with
  | none, none => return none
  | some wanted, found => do
    let offset ← placeFor target
    if wanted.isComplex then
      let made ← laneBuild wanted operand (.place offset)
      return some (.place target (.sequence made (.place offset)) none true)
    else
      match found, operand with
      | some _, .place type source none _ => do
        require ((← sizeOf type) == (← sizeOf target))
        return some (.place target source none true)
      | some _, .fresh type make => do
        require ((← sizeOf type) == (← sizeOf target))
        return some (.place target (.sequence (make (.place offset)) (.place offset)) none true)
      | none, operand => do
        let (type, term) ← valueOf operand
        let kind ← orFail type.kind?
        require (kind.size == (← sizeOf target) && type.isInteger)
        return some (.place target
          (.sequence (.store kind (.place offset) term) (.place offset)) none true)
      | _, _ => failure
  | none, some found => do
    if found.isComplex then
      let bare := target.bare
      return some (.value bare (← laneNumber bare operand))
    else
      let kind ← orFail target.bare.kind?
      require (kind.size == found.count * found.base.kind.size && target.isInteger)
      match operand with
      | .place _ source none _ => return some (.value target.bare (.load kind source))
      | .fresh type make => do
        let offset ← placeFor type
        return some (.value target.bare
          (.sequence (make (.place offset)) (.load kind (.place offset))))
      | _ => failure

/-- One of the numbers of a row, by its position. -/
def laneItem? (operand : Operand) (index : Term) : Parse (Option Operand) := do
  match ← lanesOf? operand.type with
  | some ⟨base, _, false⟩ => do
    let distance := binaryTerm .mul .address index (.word base.kind.size)
    let item (type : CType) (source : Term) (isSpare : Bool) : Operand :=
      .place ((CType.arithmetic base).asConstAs type)
        (binaryTerm .add .address source distance) none isSpare
    match operand with
    | .place type source none isSpare => return some (item type source isSpare)
    | .fresh type make => do
      let offset ← placeFor type
      return some (item type (.sequence (make (.place offset)) (.place offset)) true)
    | _ => failure
  | _ => return none

/-- The numbers of a row, or of two rows, at places that numbers of another one tell. -/
def laneShuffle (row : Operand) (other? : Option Operand) (places : Operand) : Parse Operand := do
  let lanes ← orFail (← lanesOf? row.type)
  let wanted ← orFail (← lanesOf? places.type)
  require (wanted.count == lanes.count && !wanted.base.isReal && wanted.base.kind.size == lanes.base.kind.size)
  let size := lanes.base.kind.size
  let whole := size * lanes.count
  let offset ← place (2 * whole) whole
  let (front, xs) ← laneTerms lanes row
  let (more, ys) ← match other? with
    | some other => do
      require ((← lanesOf? other.type) == some lanes)
      laneTerms lanes other
    | none => pure (none, xs)
  let (last, numbers) ← laneTerms wanted places
  let stores := (xs ++ ys).zipIdx.map fun (number, index) =>
    Term.store lanes.base.kind (.place (offset + index * size)) number
  let chosen := numbers.map fun number =>
    let wide := convertTerm wanted.base.kind (.word 8 true) number
    let index := binaryTerm .bitAnd (.word 8 true) wide (.word (2 * lanes.count - 1))
    Term.load lanes.base.kind (.binary .add .address (.place offset)
      (binaryTerm .mul .address index (.word size)))
  laneValue lanes (front.toList ++ more.toList ++ last.toList ++ stores) chosen

/-- The numbers of two rows at places that are known. -/
def laneChoice (row other : Operand) (places : List Int) : Parse Operand := do
  let lanes ← orFail (← lanesOf? row.type)
  let second ← orFail (← lanesOf? other.type)
  require (second.base == lanes.base && !places.isEmpty
    && places.length &&& (places.length - 1) == 0)
  let (front, xs) ← laneTerms lanes row
  let (more, ys) ← laneTerms second other
  let numbers ← places.mapM fun index => orFail ((xs ++ ys)[index.toNat]?)
  laneValue { lanes with count := places.length } (front.toList ++ more.toList) numbers

/-- A row with its numbers in another type. -/
def laneConverted (row : Operand) (type : CType) : Parse Operand := do
  let lanes ← orFail (← lanesOf? row.type)
  let wanted ← orFail (← lanesOf? type)
  require (wanted.count == lanes.count && !wanted.isComplex && !lanes.isComplex)
  let (front, numbers) ← laneTerms lanes row
  laneValue wanted front.toList (numbers.map (convertTerm lanes.base.kind wanted.base.kind))

end Parse

end KernelCache.C
