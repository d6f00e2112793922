import KernelCache.C.Reading

/-
**Values of operands and their conversions.**

* `Parse.valueOf` is the number that an operand comes to.
* `Parse.castTo` converts a number to a type on demand, `Parse.converted` where the language does it
  by itself.
* `Parse.balance` brings two numbers to one type.

What needs the functions of a class is in the modules that follow.
-/

namespace KernelCache.C

open KernelCache.Code (Term Value Kind Instruction Linkage)

/-- What a reader of expressions calls on for the parts of one. -/
structure Grammar where
  expression : Parse Operand
  assignment : Parse Operand
  conditional : Parse Operand
  /-- An operand that may have a type in front of it. -/
  cast : Parse Operand
  /-- An operand with the operators in front of it. -/
  operand : Parse Operand
  /-- An assignment, or first values between braces. -/
  initial : Parse Operand
  statement : Parse (List Instruction)
  /-- Statements between braces, without a block of their own. -/
  body : Parse (List Instruction)
  typeName : Parse CType
  /-- Reads a type that starts with the word for a structure, a union, a class or an
  enumeration. -/
  tagged : Parse CType
  /-- Instructions of the machine, behind the word for them. -/
  assembly : Parse (List Instruction)
  /-- Statements between brackets, the last of which has a value. -/
  blockValue : Parse Operand
  /-- A function without a name. -/
  closure : Parse Operand
  /-- A declaration in a block. -/
  declaration : Parse (List Instruction)
  /-- A declaration outside of functions. -/
  outerDeclaration : Parse Unit
  /-- Reads the body of a function. -/
  readBody : Nat → Parse Unit
  /-- The function that a template makes for arguments. -/
  functionFor : Nat → List CType → List Operand → Parse (Option Nat)
  /-- The type that a template makes of arguments. -/
  typeFor : Nat → List CType → Parse CType
  /-- The use of a template for a class that operands tell. -/
  guess : Nat → List Operand → Parse CType
  /-- Reads a condition on types. -/
  requirement : Parse Operand
  /-- The scope of a use of a template, in which its variable or condition is. -/
  useOf : Nat → List CType → Parse Operand
  /-- The value of an operand that has one while the source is read. -/
  evaluate : Operand → Parse (CType × Value)
  /-- Reads an expression that has a value while the source is read. -/
  constant : Parse (CType × Value)
  /-- Reads the members of a class; says whether they are packed, and what alignment is asked
  for. -/
  members : String → Bool → Option Nat → Parse Unit
  /-- Reads a template. -/
  template : Parse Unit
  /-- Obeys a directive that is meant for the reader. -/
  pragma : Parse Unit
  /-- Makes the functions that make objects of one class make those of another one, too. -/
  inherit : String → String → List Nat → List Nat → Parse Unit
  /-- Makes an object of a type from an operand at an address. -/
  build : CType → Operand → Term → Parse Term
  /-- Makes an object of a type from arguments at an address. -/
  make : CType → List Operand → Term → Parse Term
  /-- Makes an object of a type without a value at an address; `clears` when it is zero then. -/
  start : Bool → CType → Term → Parse Term
  /-- Calls a function on an object, when there is one, with arguments. -/
  call : Nat → Option (CType × Term) → Bool → List Operand → Parse Operand

namespace Parse

/-- The term of an operator with one operand, worked out when possible. -/
def unaryTerm (operator : Code.Unary) (kind : Kind) (term : Term) : Term :=
  (Term.unary operator kind term).simplified

/-- The term of an operator with two operands, worked out when possible. -/
def binaryTerm (operator : Code.Binary) (kind : Kind) (left right : Term) : Term :=
  (Term.binary operator kind left right).simplified

/-- The term of a conversion, worked out when possible. -/
def convertTerm (source target : Kind) (term : Term) : Term :=
  if source = target then term
  else
    match source, target with
    | .word size _, .word other _ =>
      if size = other then term else (Term.convert source target term).simplified
    | _, _ => (Term.convert source target term).simplified

/-- The address of the variables of a function, from inside it or from functions inside it. -/
def frameOf? (function : Nat) : List Work → Option Term
  | [] => none
  | work :: rest =>
    if work.function = function then some (.place 0)
    else do
      let offset ← work.outsideAt
      return through (Term.load .address (.place offset)) rest
where
  /-- The same from the variables at an address. -/
  through (frame : Term) : List Work → Term
    | [] => frame
    | work :: rest =>
      if work.function = function then frame
      else
        match work.outsideAt with
        | some offset => through (.load .address (frame.shifted offset)) rest
        | none => frame

/-- The address of a function, which counts as used then. -/
def addressOfFunction (number : Nat) : Parse Term := do
  let function ← functionAt number
  let unevaluated := (← get).isUnevaluated
  if !function.isUsed && !unevaluated then
    changeFunction number fun found => { found with isUsed := true }
    modify fun reading => { reading with waiting := number :: reading.waiting }
  match function.body with
  | .deleted => failure
  | _ => pure ()
  match function.outside with
  | some outside => do
    let reading ← get
    return .close function.symbol (← orFail (frameOf? outside (reading.work :: reading.outer)))
  | none => return .address function.symbol

/-- The type of a function. -/
def typeOfFunction (function : Function) : CType :=
  .function function.result (function.parameters.map fun parameter => parameter.type.bare)
    function.manner

/-- The number that an operand comes to, with its type. -/
def valueOf (operand : Operand) : Parse (CType × Term) :=
  match operand with
  | .value type term => return (type.bare, term)
  | .place type source bits _ =>
    match type.bare with
    | .array _ item => return (.pointer (item.asConstAs type), source)
    | .measured _ item => return (.pointer item, source)
    | .function result parameters manner =>
      return (.pointer (.function result parameters manner), source)
    | bare =>
      match bare.kind?, bits with
      | some kind, none => return (bare, .load kind source)
      | some kind, some (first, width) => return (bare, .loadBits kind first width source)
      | none, _ => failure
  | .functions [number] [] _ none _ => do
    let function ← functionAt number
    return (.pointer (typeOfFunction function), ← addressOfFunction number)
  | .braces [([], inner)] =>
    match inner with
    | .value type term => return (type.bare, term)
    | .place type source none _ =>
      match type.bare.kind? with
      | some kind => return (type.bare, .load kind source)
      | none => failure
    | _ => failure
  | _ => failure

/-- The type that an operand has as a value. -/
def valueType (operand : Operand) : Parse CType :=
  match operand with
  | .fresh type _ => return type.bare
  | .place type _ _ _ =>
    if type.tag?.isSome then return type.bare else return type.valued
  | other => do return (← valueOf other).1

/-- The smallest type that a number is combined in; some bits of a word that fit are ordinary
integers. -/
def promotedType (operand : Operand) (type : Arithmetic) : Arithmetic :=
  match operand, type with
  | .place _ _ (some (_, width)) _, .unsignedInt => if width < 32 then .int else type.promoted
  | _, type => type.promoted

/-- The number that an operand comes to in arithmetic. -/
def numberOf (operand : Operand) : Parse (Arithmetic × Term) := do
  let (type, term) ← valueOf operand
  let found ← orFail type.arithmetic?
  require (!type.isScoped)
  let promoted := promotedType operand found
  return (promoted, convertTerm found.kind promoted.kind term)

/-- Two numbers in one type. -/
def balance (left right : Operand) : Parse (Arithmetic × Term × Term) := do
  let (leftType, leftTerm) ← numberOf left
  let (rightType, rightTerm) ← numberOf right
  let common := leftType.common rightType
  return (common, convertTerm leftType.kind common.kind leftTerm,
    convertTerm rightType.kind common.kind rightTerm)

/-- The truth of an operand, as a number that is zero or not. -/
def truthOf (operand : Operand) : Parse Term := do
  let (type, term) ← valueOf operand
  require (type.isScalar && (type.kind?).isSome)
  match type, term with
  | .memberPointer _ (.function _ _ _), _ => return term
  | .memberPointer _ _, _ => return binaryTerm .notEqual (.word 8 true) term (.word (Code.range 8 - 1))
  | _, _ => return term

/-- A truth value as an operand of the type that truth values have. -/
def truthOperand (term : Term) : Parse Operand := do
  return .value (if ← isPlus then .bool else CType.int) term

/-! ### Pointers -/

/-- A pointer to an object of a class as one to an object that it continues. -/
def upcast (source target : String) (pointer : Term) (mayBeNull : Bool) : Parse Term := do
  let distance ← orFail (baseWay? (← get).records searchDepth source target)
  if distance = 0 then return pointer
  else if mayBeNull then
    let offset ← place 8 8
    let saved := Term.storeLate .address (.place offset) pointer
    let again := Term.load .address (.place offset)
    return .conditional saved (.shifted again distance) (.word 0)
  else return .shifted pointer distance

/-- A pointer to an object of a class as one to an object of a class that continues it. -/
def downcast (source target : String) (pointer : Term) (mayBeNull : Bool) : Parse Term := do
  let distance ← orFail (baseWay? (← get).records searchDepth target source)
  if distance = 0 then return pointer
  else
    let back (pointer : Term) : Term := .binary .sub .address pointer (.word distance)
    if mayBeNull then
      let offset ← place 8 8
      let saved := Term.storeLate .address (.place offset) pointer
      return .conditional saved (back (.load .address (.place offset))) (.word 0)
    else return back pointer

/-- Whether two types are the same but for what is promised not to be changed. -/
def similar : CType → CType → Bool
  | .const a, b => similar a b
  | a, .const b => similar a b
  | .pointer a, .pointer b => similar a b
  | .array _ a, .array _ b => similar a b
  | .function a ps m, .function b qs n =>
    similar a b && (m.isLoose || n.isLoose || (ps.length == qs.length
      && (ps.zip qs).all fun (p, q) => p.bare == q.bare))
  | a, b => a == b

/-- Whether a type promises at least what another one does, at every depth. -/
def promises : CType → CType → Bool
  | .const a, .const b => promises a b
  | .const a, b => promises a b
  | _, .const _ => false
  | .pointer a, .pointer b => promises a b
  | .array _ a, .array _ b => promises a b
  | _, _ => true

/-- Whether two types differ in sign only. -/
def differInSign (a b : CType) : Bool :=
  match a.bare, b.bare with
  | .arithmetic a, .arithmetic b => a.kind.size == b.kind.size && !a.isReal && !b.isReal
  | .arithmetic a, .enumeration _ _ b | .enumeration _ _ a, .arithmetic b => a == b
  | _, _ => false

/-- Notes what is doubtful about a pointer to one type where one to another type is wanted; fails
where it is not allowed. -/
def checkTargets (found wanted : CType) : Parse Unit := do
  if ← isPlus then
    if wanted.isVoid && !found.isFunction then require (wanted.isConst || !found.isConst)
    else require (similar found wanted && promises wanted found)
  else
    let loses := found.isConst && !wanted.isConst
    if wanted.isVoid || found.isVoid then
      if loses then warn "discarded-qualifiers"
      if found.isFunction || wanted.isFunction then warn "pedantic"
    else if similar found wanted then
      if loses then warn "discarded-qualifiers"
    else if differInSign found wanted then warn "pointer-sign"
    else warn "incompatible-pointer-types"

/-- A number in a type, where the language converts by itself. -/
def convertedValue (target source : CType) (term : Term) (isNull : Bool) : Parse Term := do
  let target := target.bare
  let plus ← isPlus
  match target, source with
  | .arithmetic .bool, source => do
    require (source.isScalar && (!plus || source != .null))
    match source with
    | .memberPointer _ _ => truthOf (.value source term)
    | source =>
      let kind ← orFail source.kind?
      return convertTerm kind .truth term
  | .arithmetic target, .arithmetic source => return convertTerm source.kind target.kind term
  | .arithmetic target, .enumeration _ strict base => do
    require !strict
    return convertTerm base.kind target.kind term
  | .enumeration _ _ base, .arithmetic found => do
    require !plus
    return convertTerm found.kind base.kind term
  | .enumeration tag _ base, .enumeration other _ found => do
    require (!plus || tag == other)
    return convertTerm found.kind base.kind term
  | .pointer wanted, .pointer found => do
    match if plus then (wanted.tag?, found.tag?) else (none, none) with
    | (some target, some source) =>
      if target = source then
        require (promises wanted found)
        return term
      else do
        require (wanted.isConst || !found.isConst)
        upcast source target term true
    | _ => do
      checkTargets found wanted
      return term
  | .pointer _, .null => return term
  | .null, .null => return term
  | .pointer _, source => do
    if isNull then return .word 0
    else do
      require (!plus && source.isInteger)
      warn "int-conversion"
      return convertTerm ((source.kind?).getD .int) .address term
  | .null, _ => do
    require isNull
    return .word 0
  | .arithmetic target, .pointer _ => do
    require (!plus && !target.isReal)
    warn "int-conversion"
    return convertTerm .address target.kind term
  | .enumeration _ _ base, .pointer _ => do
    require !plus
    warn "int-conversion"
    return convertTerm .address base.kind term
  | .memberPointer tag target, .memberPointer other source => do
    require (similar target source)
    match tag.tag?, other.tag? with
    | some wanted, some found => do
      let distance ← orFail (baseWay? (← get).records searchDepth wanted found)
      if distance = 0 || source.isFunction then return term
      else return .binary .add (.word 8 true) term (.word distance)
    | _, _ => failure
  | .memberPointer _ (.function _ _ _), source => do
    require (isNull || source == .null)
    return .word 0
  | .memberPointer _ _, source => do
    require (isNull || source == .null)
    return .word (Code.range 8 - 1)
  | .void, _ => return term
  | _, _ => failure

/-- Whether a constant integer changes when it becomes one of another type. -/
def changes (target source : CType) (term : Term) : Bool :=
  match target.bare.kind?, source.kind?, term.constant? with
  | some (.word size signed), some (.word old oldSigned), some (.word bits) =>
    let new := (Value.convert (.word old oldSigned) (.word size signed) (.word bits)).bits
    target.isInteger && source.isInteger
      && Value.ofBits old oldSigned bits != Value.ofBits size signed new
  | _, _, _ => false

/-- An operand as a number of a type, where the language converts by itself. -/
def converted (target : CType) (operand : Operand) : Parse Term := do
  let (type, term) ← valueOf operand
  if changes target type term then warn "overflow"
  convertedValue target type term operand.isNull

/-- A number in a type that the source asks for. -/
def castValue (target source : CType) (term : Term) : Parse Term := do
  let target := target.bare
  match target, source with
  | .void, _ => return .sequence term .nothing
  | .arithmetic .bool, source => do
    match source with
    | .memberPointer _ _ => truthOf (.value source term)
    | source =>
      require (source.kind?).isSome
      return convertTerm ((source.kind?).getD .int) .truth term
  | .pointer wanted, .pointer found => do
    match if ← isPlus then (wanted.tag?, found.tag?) else (none, none) with
    | (some target, some source) =>
      let records := (← get).records
      if (baseWay? records searchDepth source target).isSome then upcast source target term true
      else if (baseWay? records searchDepth target source).isSome then
        downcast source target term true
      else return term
    | _ => return term
  | .memberPointer _ _, .memberPointer _ _ => return term
  | .memberPointer _ _, _ | _, .memberPointer _ _ => failure
  | target, source => do
    let wanted ← orFail target.kind?
    let found ← orFail source.kind?
    let isAddress (type : CType) : Bool := type.isPointer || type == .null
    let isReal (type : CType) : Bool := (type.arithmetic?).any (·.isReal)
    require !(isAddress target && isReal source || isAddress source && isReal target)
    if ← isPlus then
      if isAddress source && !isAddress target then require (8 ≤ wanted.size)
    else if isAddress source && !isAddress target && wanted.size != 8 then
      warn "pointer-to-int-cast"
    else if isAddress target && !isAddress source && found.size != 8 && term.constant?.isNone then
      warn "int-to-pointer-cast"
    return convertTerm found wanted term

/-- An operand as a number of a type that the source asks for. -/
def castTo (target : CType) (operand : Operand) : Parse Term := do
  let (type, term) ← valueOf operand
  castValue target type term

/-! ### Objects -/

/-- The place of an object to which its address leads; a reference leads further. -/
def objectAt (type : CType) (source : Term) : Operand :=
  match type with
  | .reference _ target => .place target (.load .address source) none false
  | type => .place type source none false

/-- Whether an operand may be changed. -/
def isChangeable : Operand → Bool
  | .place type _ _ isSpare => !type.isConst && !type.isArray && !type.isFunction
    && (!isSpare || type.tag?.isSome)
  | _ => false

/-- Writes a number to a place. -/
def writeTo (place : Operand) (term : Term) (late : Bool) : Parse Term :=
  match place with
  | .place type target bits _ => do
    let kind ← orFail type.bare.kind?
    match bits with
    | some (first, width) => return .storeBits kind first width target term
    | none => return if late then .storeLate kind target term else .store kind target term
  | _ => failure

/-- Whether working out a term changes nothing and calls nothing. -/
def isQuiet : Term → Bool
  | .word _ | .real _ | .place _ | .address _ | .labelAddress _ | .caught | .caughtType => true
  | .load _ source | .known source _ | .loadBits _ _ _ source => isQuiet source
  | .convert _ _ operand | .unary _ _ operand => isQuiet operand
  | .binary _ _ left right | .both left right | .either left right | .sequence left right =>
    isQuiet left && isQuiet right
  | .conditional condition yes no => isQuiet condition && isQuiet yes && isQuiet no
  | _ => false

/-- Whether a term is the address of a variable. -/
def isFixed : Term → Bool
  | .place _ | .address _ | .word _ => true
  | .binary .add _ left (.word _) => isFixed left
  | .known source _ => isFixed source
  | _ => false

/-- A term that can be used several times, and what has to be done before. -/
def shared (term : Term) : Parse (Option Term × Term) := do
  match term with
  | .sequence front last => if isFixed last then return (some front, last) else kept
  | term => if isFixed term then return (none, term) else kept
where
  /-- The term kept at a place of its own. -/
  kept : Parse (Option Term × Term) := do
    let offset ← place 8 8
    return (some (.storeLate .address (.place offset) term), .load .address (.place offset))

/-- A term behind what has to be done before. -/
def behind (front : Option Term) (term : Term) : Term :=
  match front with
  | some front => .sequence front term
  | none => term

/-- An operand that can be used several times, and what has to be done before. -/
def sharedPlace (operand : Operand) : Parse (Option Term × Operand) :=
  match operand with
  | .place type source bits isSpare => do
    let (front, source) ← shared source
    return (front, .place type source bits isSpare)
  | other => return (none, other)

/-- A number kept for later use, and what has to be done before. -/
def keptValue (type : CType) (term : Term) : Parse (Option Term × Term) := do
  match term.constant? with
  | some value => return (none, .ofValue value)
  | none =>
    let kind ← orFail type.kind?
    let offset ← place kind.size kind.size
    return (some (.storeLate kind (.place offset) term), .load kind (.place offset))

end Parse

end KernelCache.C
