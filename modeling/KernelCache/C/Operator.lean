import KernelCache.C.Declarator

/-
**Operators.**

* `Parse.binary` and `Parse.unary` are operators on operands that have been read.
* `Parse.assigned`, `Parse.compound` and `Parse.stepped` change an object.
* `Parse.operatorCall?` finds the function that a class has for an operator.
-/

namespace KernelCache.C

open KernelCache.Code (Term Value Kind Instruction Linkage)

namespace Parse

/-! ### Functions for operators -/

/-- The scopes whose functions count for arguments of a type. -/
def associated (reading : Reading) : Nat → CType → List Nat
  | 0, _ => []
  | fuel + 1, type =>
    match type with
    | .record tag =>
      match reading.records[tag]? with
      | none => []
      | some record =>
        spaceOf reading searchDepth record.scope
          :: record.bases.flatMap (fun base => associated reading fuel (.record base.tag))
          ++ ((record.origin.map (·.2)).getD []).flatMap (associated reading fuel)
    | .enumeration tag _ _ =>
      match reading.enumerations[tag]? with
      | some scope => [spaceOf reading searchDepth scope]
      | none => []
    | .pointer inner | .reference _ inner | .const inner | .array _ inner =>
      associated reading fuel inner
    | _ => []

/-- What a name stands for outside of classes, looked for from a scope outwards. -/
def freeFrom? (reading : Reading) : Nat → Nat → String → Option Entity
  | 0, _, _ => none
  | fuel + 1, number, name => do
    let scope ← reading.scopes[number]?
    let isClass := match scope.holder with
      | .record _ => true
      | _ => false
    match if isClass then none else findHere? reading searchDepth number name with
    | some (entity, _) => return entity
    | none => freeFrom? reading fuel (← scope.parent) name

/-- The functions of a name that arguments bring along. -/
def broughtAlong (name : String) (operands : List Operand) : Parse (List Nat × List Nat) := do
  let reading ← get
  let scopes := (operands.flatMap fun operand =>
    associated reading searchDepth operand.type).eraseDups
  let found := scopes.map fun scope =>
    match findHere? reading searchDepth scope name with
    | some (.functions numbers templates, _) => (numbers, templates)
    | _ => ([], [])
  return ((found.flatMap (·.1)).eraseDups, (found.flatMap (·.2)).eraseDups)

/-- Functions of a name outside of classes that count for arguments. -/
def freeFunctions (name : String) (operands : List Operand) : Parse (List Nat × List Nat) := do
  let reading ← get
  let (numbers, templates) ← broughtAlong name operands
  match freeFrom? reading searchDepth reading.scope name with
  | some (.functions more others) =>
    return ((more ++ numbers).eraseDups, (others ++ templates).eraseDups)
  | _ => return (numbers, templates)

/-- Whether an operand is of a type for which a source can define operators. -/
def isOverloaded (operand : Operand) : Bool :=
  operand.type.tag?.isSome || operand.type.isEnumeration

/-- The object that an operand is, and whether nobody else needs it. -/
def objectOf (operand : Operand) : CType × Bool :=
  match operand with
  | .place type _ _ isSpare => (type, isSpare)
  | other => (other.type, true)

/-- Calls the function that a source defines for an operator, when there is one. -/
def operatorCall? (g : Grammar) (text : String) (operands : List Operand) (membersOnly : Bool) :
    Parse (Option Operand) := do
  if !(← isPlus) || !operands.any isOverloaded then return none
  else
    let name := "operator" ++ text
    match operands with
    | [] => return none
    | first :: rest => do
      let members ← (do
        match first.type.tag? with
        | some tag => do
          let (numbers, templates) ← membersNamed tag name
          candidates g numbers templates [] rest (some (objectOf first)) false
        | none => pure [] : Parse (List Candidate))
      let others ← (do
        if membersOnly then pure []
        else do
          let (numbers, templates) ← freeFunctions name operands
          candidates g numbers templates [] operands none false : Parse (List Candidate))
      match best? (members ++ others) with
      | none => do
        require (members ++ others).isEmpty
        return none
      | some number =>
        if members.any fun candidate => candidate.number == number then
          let function ← functionAt number
          if function.isMember then
            let (type, source) ← materialized g first
            return some (← g.call number (some (type, source)) false rest)
          else return some (← g.call number none false rest)
        else return some (← g.call number none false operands)

/-- An operand of a class as the number that it can become. -/
def decayed (g : Grammar) (operand : Operand) : Parse Operand := do
  match operand.type.tag? with
  | none => return operand
  | some tag => do
    let reading ← get
    require reading.options.isPlus
    let numbers := convertersOf reading.records reading.scopes searchDepth tag
    let found ← numbers.mapM fun number => do
      let function ← functionAt number
      if function.isExplicit || !function.result.referred.isScalar
          || (operand.type.isConst && !function.manner.isConst) then return none
      else return some number
    match found.filterMap id with
    | [number] => do
      let (type, source) ← materialized g operand
      g.call number (some (type, source)) false []
    | _ => failure

/-! ### Pointers -/

/-- So many items as a distance in octets. -/
def distanceOf (item type : CType) (index : Term) : Parse Term := do
  require (type.isInteger && !type.isScoped)
  let kind ← orFail type.kind?
  if item.isVoid || item.isFunction then require !(← isPlus)
  else require (← isComplete item)
  let wide := convertTerm kind (.word 8 true) index
  match ← sizeTerm item with
  | .word 1 => return wide
  | size => return binaryTerm .mul .address wide size

/-- No distance in an object is larger. -/
def largestDistance : Nat := 0x10000000000

/-- A pointer so many octets further. -/
def advanced (pointer distance : Term) : Term :=
  match distance.constant? with
  | some (.word bits) =>
    if bits < largestDistance then pointer.shifted bits
    else .binary .add .address pointer distance
  | _ => .binary .add .address pointer distance

/-- A pointer so many items back. -/
def receded (pointer distance : Term) : Term :=
  binaryTerm .sub .address pointer distance

/-! ### Operators with two operands -/

/-- Operators with two operands that are both evaluated. -/
def binaryWords : List (String × Code.Binary) :=
  [("+", .add), ("-", .sub), ("*", .mul), ("/", .div), ("%", .rem), ("<<", .shiftLeft),
    (">>", .shiftRight), ("<", .less), (">", .greater), ("<=", .lessEqual), (">=", .greaterEqual),
    ("==", .equal), ("!=", .notEqual), ("&", .bitAnd), ("^", .bitXor), ("|", .bitOr)]

/-- Whether the exact result of an operator on constant integers does not fit. -/
def overflows (operator : Code.Binary) (kind : Kind) (left right : Term) : Bool :=
  match kind, left.constant?, right.constant? with
  | .word size true, some (.word a), some (.word b) =>
    let x := Value.ofBits size true a
    let y := Value.ofBits size true b
    let exact : Option Int := match operator with
      | .add => some (x + y)
      | .sub => some (x - y)
      | .mul => some (x * y)
      | _ => none
    exact.any fun exact => Value.ofBits size true (Value.bitsOf size exact) != exact
  | _, _, _ => false

/-- Notes what is doubtful about an operator on numbers. -/
def checkNumbers (operator : Code.Binary) (kind : Kind) (left right : Term) : Parse Unit := do
  if overflows operator kind left right then warn "overflow"
  match operator, kind, right.constant? with
  | .div, .word _ _, some (.word 0) | .rem, .word _ _, some (.word 0) => warn "div-by-zero"
  | .shiftLeft, .word size _, some (.word bits) | .shiftRight, .word size _, some (.word bits) =>
    if Value.ofBits 4 true bits < 0 then warn "shift-count-negative"
    else if 8 * size ≤ bits then warn "shift-count-overflow"
  | _, _, _ => return ()

/-- Compares two operands. -/
def compared (operator : Code.Binary) (left right : Operand) : Parse Operand := do
  let (first, a) ← valueOf left
  let (second, b) ← valueOf right
  let plus ← isPlus
  let isEquality := operator == .equal || operator == .notEqual
  match first, second with
  | .pointer one, .pointer other => do
    match if plus then (one.tag?, other.tag?) else (none, none) with
    | (some source, some target) =>
      let records := (← get).records
      if (baseWay? records searchDepth source target).isSome then
        truthOperand (binaryTerm operator .address (← upcast source target a true) b)
      else
        truthOperand (binaryTerm operator .address a (← upcast target source b true))
    | _ => do
      if similar one other || one.isVoid || other.isVoid then pure ()
      else if plus then failure
      else warn "compare-distinct-pointer-types"
      truthOperand (binaryTerm operator .address a b)
  | .null, .null => do
    require isEquality
    truthOperand (binaryTerm operator .address a b)
  | .pointer _, _ | .null, _ => do
    if right.isNull then
      require (!plus || isEquality)
      truthOperand (binaryTerm operator .address a (.word 0))
    else do
      require (!plus && second.isInteger)
      warn ""
      truthOperand (binaryTerm operator .address a
        (convertTerm ((second.kind?).getD .int) .address b))
  | _, .pointer _ | _, .null => do
    if left.isNull then
      require (!plus || isEquality)
      truthOperand (binaryTerm operator .address (.word 0) b)
    else do
      require (!plus && first.isInteger)
      warn ""
      truthOperand (binaryTerm operator .address
        (convertTerm ((first.kind?).getD .int) .address a) b)
  | .memberPointer tag target, other => do
    require isEquality
    let b ← convertedValue (.memberPointer tag target) other b right.isNull
    truthOperand (binaryTerm operator (.word 8 true) a b)
  | other, .memberPointer tag target => do
    require isEquality
    let a ← convertedValue (.memberPointer tag target) other a left.isNull
    truthOperand (binaryTerm operator (.word 8 true) a b)
  | .enumeration tag true base, .enumeration other true _ => do
    require (tag == other)
    truthOperand (binaryTerm operator base.kind a b)
  | _, _ => do
    let (common, a, b) ← balance left right
    truthOperand (binaryTerm operator common.kind a b)

/-- Combines two numbers, or moves a pointer. -/
def combined (operator : Code.Binary) (left right : Operand) : Parse Operand := do
  let (first, a) ← valueOf left
  let (second, b) ← valueOf right
  match operator, first, second with
  | .add, .pointer item, type => do
    return .value (.pointer item) (advanced a (← distanceOf item type b))
  | .add, type, .pointer item => do
    return .value (.pointer item) (advanced b (← distanceOf item type a))
  | .sub, .pointer item, .pointer other => do
    require (similar item other)
    if item.isVoid || item.isFunction then require !(← isPlus)
    else require (← isComplete item)
    let distance := binaryTerm .sub (.word 8 true) a b
    match ← sizeTerm item with
    | .word 1 => return .value CType.distanceType distance
    | size => return .value CType.distanceType (binaryTerm .div (.word 8 true) distance size)
  | .sub, .pointer item, type => do
    return .value (.pointer item) (receded a (← distanceOf item type b))
  | .shiftLeft, _, _ | .shiftRight, _, _ => do
    let (type, a) ← numberOf left
    let (amount, b) ← numberOf right
    require (!type.isReal && !amount.isReal)
    checkNumbers operator type.kind a b
    return .value (.arithmetic type) (binaryTerm operator type.kind a b)
  | operator, _, _ => do
    let (common, a, b) ← balance left right
    let integral : Bool := match operator with
      | .rem | .bitAnd | .bitOr | .bitXor => true
      | _ => false
    require (!(integral && common.isReal))
    checkNumbers operator common.kind a b
    return .value (.arithmetic common) (binaryTerm operator common.kind a b)

/-- An operator on two operands without the functions of a source. -/
def plainBinary (g : Grammar) (text : String) (left right : Operand) : Parse Operand := do
  if text == "&&" then
    truthOperand (Term.both (← truth g left) (← truth g right)).simplified
  else if text == "||" then
    truthOperand (Term.either (← truth g left) (← truth g right)).simplified
  else
    let operator ← orFail (binaryWords.lookup text)
    if let some found ← laneBinary? operator left right then return found
    let left ← decayed g left
    let right ← decayed g right
    if operator.compares then compared operator left right
    else combined operator left right

/-- An operator on two operands. -/
def binary (g : Grammar) (text : String) (left right : Operand) : Parse Operand := do
  match ← operatorCall? g text [left, right] false with
  | some found => return found
  | none =>
    let isNew := 2020 ≤ (← get).options.year
    let other ← (do
      if isNew && text == "!=" && (isOverloaded left || isOverloaded right) then
        match ← operatorCall? g "==" [left, right] false with
        | some found => pure (some (← truthOperand (unaryTerm .negation .truth (← truth g found))))
        | none => pure none
      else pure none : Parse (Option Operand))
    match other with
    | some found => return found
    | none => plainBinary g text left right

/-! ### Operators with one operand -/

/-- What a pointer leads to. -/
def indirect (operand : Operand) : Parse Operand := do
  let (type, term) ← valueOf operand
  let target ← orFail type.target?
  require (!target.isVoid || !(← isPlus))
  return .place target term none false

/-- The address of an operand. -/
def addressOf (operand : Operand) : Parse Operand := do
  match operand with
  | .place type source bits isSpare => do
    require (bits.isNone && !(isSpare && (← isPlus)))
    match source with
    | .known inner _ => return .value (.pointer type) inner
    | source => return .value (.pointer type) source
  | .functions [_] [] _ none _ => do
    let (type, term) ← valueOf operand
    return .value type term
  | other@(.functions _ _ _ _ _) => return other
  | _ => failure

/-- An operator on one operand without the functions of a source. -/
def plainUnary (g : Grammar) (text : String) (operand : Operand) : Parse Operand := do
  if let some found ← laneUnary? text operand then return found
  match text with
  | "!" => truthOperand (unaryTerm .negation .truth (← truth g operand))
  | "*" => indirect (← decayed g operand)
  | "+" => do
    let operand ← decayed g operand
    let (type, term) ← valueOf operand
    match type with
    | .pointer _ => return .value type term
    | _ => do
      let (type, term) ← numberOf operand
      return .value (.arithmetic type) term
  | "-" => do
    let (type, term) ← numberOf (← decayed g operand)
    return .value (.arithmetic type) (unaryTerm .minus type.kind term)
  | "~" => do
    let (type, term) ← numberOf (← decayed g operand)
    require !type.isReal
    return .value (.arithmetic type) (unaryTerm .complement type.kind term)
  | _ => failure

/-- An operator on one operand. -/
def unary (g : Grammar) (text : String) (operand : Operand) : Parse Operand := do
  match ← operatorCall? g text [operand] false with
  | some found => return found
  | none => plainUnary g text operand

/-! ### Changes -/

/-- A place that is changed by a term before anybody looks at it. -/
def changed (place : Operand) (change : Term) : Parse Operand := do
  match place with
  | .place type target bits _ => do
    if ← isPlus then return .place type (.sequence change target) bits false
    else return .value type.bare change
  | _ => failure

/-- Writes an operand to a place. -/
def assigned (g : Grammar) (left right : Operand) : Parse Operand := do
  match ← operatorCall? g "=" [left, right] true with
  | some found => return found
  | none => do
    require (isChangeable left)
    match left with
    | .place type target bits _ =>
      match type.tag? with
      | some tag => do
        if let some lanes ← lanesOf? type then
          return .place type.bare (.sequence (← laneBuild lanes right target) target) none false
        match right with
        | .place found source none _ => do
          require (found.tag? == some tag && !(← isPlus))
          return .place type.bare (.copy (← sizeOf type) target source) none true
        | .fresh found make => do
          require (found.tag? == some tag && !(← isPlus))
          let offset ← placeFor type
          let made := Term.sequence (make (.place offset)) (.place offset)
          return .place type.bare (.copy (← sizeOf type) target made) none true
        | .braces items => do
          require (← isPlus)
          let offset ← placeFor type
          let made ← g.build type.bare (.braces items) (.place offset)
          let spare : Operand := .place type.bare (.sequence made (.place offset)) none true
          orFail (← operatorCall? g "=" [left, spare] true)
        | _ => failure
      | none => do
        require (isPlace left)
        let plus ← isPlus
        let term ← convertedTo g type.bare right
        if !plus || isFixed target then
          changed (.place type target bits false) (← writeTo left term plus)
        else do
          let (front, target) ← shared target
          let place : Operand := .place type target bits false
          let value ← keptValue type.bare term
          match front, isQuiet term with
          | some front, true =>
            changed place (.sequence front (← writeTo place term false))
          | front, _ =>
            let write ← writeTo place value.2 false
            changed place (behind value.1 (behind front write))
    | _ => failure
where
  /-- Whether an operand is an object. -/
  isPlace (operand : Operand) : Bool := match operand with
    | .place _ _ _ _ => true
    | _ => false

/-- Changes a place by an operator; the value comes first. -/
def compound (g : Grammar) (text : String) (left right : Operand) : Parse Operand := do
  match ← operatorCall? g (text ++ "=") [left, right] false with
  | some found => return found
  | none => do
    require (isChangeable left)
    if let some lanes ← lanesOf? left.type then
      let (front, place) ← sharedPlace left
      let result ← plainBinary g text place right
      match place with
      | .place type target _ _ =>
        let made ← laneBuild lanes result target
        return .place type.bare (behind front (.sequence made target)) none false
      | _ => failure
    let right ← decayed g right
    let (front, place) ← sharedPlace left
    let (type, term) ← valueOf right
    let (kept, right) ← (do
      if isQuiet term then pure (none, right)
      else do
        let (kept, again) ← keptValue type term
        pure (kept, Operand.value type again) : Parse (Option Term × Operand))
    let result ← plainBinary g text place right
    let write ← writeTo place (← convertedTo g place.type.bare result) false
    changed place (behind kept (behind front write))

/-- Changes a place by one, before or after its value is taken. -/
def stepped (g : Grammar) (text : String) (isLate : Bool) (operand : Operand) : Parse Operand := do
  let arguments := if isLate then [operand, Operand.int 0] else [operand]
  match ← operatorCall? g text arguments false with
  | some found => return found
  | none => do
    require (isChangeable operand)
    let (front, place) ← sharedPlace operand
    let sign := if text == "++" then "+" else "-"
    if let some lanes ← lanesOf? operand.type then
      let changed ← compound g sign place (.int 1)
      match place, changed with
      | .place type _ _ _, .place _ made _ _ =>
        if !isLate then return .place type.bare (behind front made) none false
        else
          let offset ← placeFor type
          let kept ← laneBuild lanes place (.place offset)
          return .place type.bare
            (behind front (sequenced [kept, made, .place offset])) none true
      | _, _ => failure
    require (!(place.type.bare == .bool) || !(← isPlus))
    if isLate then
      let (type, term) ← valueOf place
      let (kept, old) ← keptValue type term
      let result ← plainBinary g sign (.value type old) (.int 1)
      let write ← writeTo place (← convertedTo g type result) false
      return .value type (behind front (behind kept (.sequence write old)))
    else
      let result ← plainBinary g sign place (.int 1)
      let write ← writeTo place (← convertedTo g place.type.bare result) false
      changed place (behind front write)

/-! ### Parts of objects -/

/-- An item of an array. -/
def item (g : Grammar) (left right : Operand) : Parse Operand := do
  match ← operatorCall? g "[]" [left, right] true with
  | some found => return found
  | none => do
    if (← lanesOf? left.type).isSome then
      let (type, index) ← valueOf right
      require type.isInteger
      let index ← castValue CType.distanceType type index
      return ← orFail (← laneItem? left index)
    let left ← decayed g left
    let right ← decayed g right
    match left with
    | .fresh _ _ => failure
    | _ => do
      let (type, _) ← valueOf left
      match type with
      | .pointer _ => do
        let result ← combined .add left right
        match left, ← indirect result with
        | .place found _ _ true, .place type source none _ =>
          return .place type source none found.isArray
        | _, result => return result
      | _ => indirect (← combined .add right left)

/-- The way to a member of a record: its distance, the member, and the record that has it. -/
def fieldWay? (records : Std.TreeMap String Record) (name : String) :
    Nat → String → Option (Nat × Field × String)
  | 0, _ => none
  | fuel + 1, tag => do
    let record ← records[tag]?
    match record.fields.find? fun field => field.name == name with
    | some field => return (field.offset, field, tag)
    | none =>
      let inner := record.fields.findSome? fun field =>
        if field.name = "" then do
          let tag ← field.type.tag?
          let (more, found, owner) ← fieldWay? records name fuel tag
          return (field.offset + more, found, owner)
        else none
      match inner with
      | some found => return found
      | none =>
        record.bases.findSome? fun base => do
          let (more, found, owner) ← fieldWay? records name fuel base.tag
          return (base.offset + more, found, owner)

/-- A member of an object that takes room. -/
def fieldOf (type : CType) (source : Term) (isSpare : Bool) (name : String) : Parse Operand := do
  let tag ← orFail type.tag?
  require (← recordAt tag).isComplete
  let (distance, field, owner) ← orFail (fieldWay? (← get).records name searchDepth tag)
  checkAccess field.access owner name
  let place := source.shifted distance
  match field.type with
  | .reference _ target => return .place target (.load .address place) none false
  | found =>
    let found := if type.isConst && !field.isMutable then found.constant else found
    return .place found place field.bits isSpare

/-- An operand as an object whose members are wanted. -/
def asObject (g : Grammar) (operand : Operand) : Parse (CType × Term × Bool) := do
  match operand with
  | .place type source none isSpare => return (type, source, isSpare)
  | .fresh type make => return (type, ← spare g type make, true)
  | _ => failure

/-- The object behind an arrow. -/
def arrow (g : Grammar) : Nat → Operand → Parse Operand
  | 0, _ => failure
  | fuel + 1, operand => do
    match ← operatorCall? g "->" [operand] true with
    | some found => if found.type.tag?.isSome then arrow g fuel found else indirect found
    | none => indirect (← decayed g operand)

/-- A member through a pointer to it. -/
def throughPointer (g : Grammar) (object pointer : Operand) : Parse Operand := do
  let (type, source, isSpare) ← asObject g object
  let (found, term) ← valueOf pointer
  match found with
  | .memberPointer tag target => do
    let owner ← orFail tag.tag?
    let start ← upcast (← orFail type.tag?) owner source false
    match target with
    | .function _ _ _ => return .bound start target term
    | target => return .place (target.asConstAs type) (.binary .add .address start term) none isSpare
  | _ => failure

/-! ### Choices -/

/-- The type of a pointer that can be either of two. -/
def commonPointer (a b : CType) : Parse CType := do
  if similar a b then
    return .pointer (if a.isConst then a else if b.isConst then b else a)
  else if a.isVoid || b.isVoid then
    return .pointer (if a.isConst || b.isConst then CType.void.constant else .void)
  else
    match if ← isPlus then (a.tag?, b.tag?) else (none, none) with
    | (some one, some other) =>
      if ← continues one other then return .pointer b
      else if ← continues other one then return .pointer a
      else failure
    | _ => do
      require !(← isPlus)
      warn "incompatible-pointer-types"
      return .pointer .void

/-- Two operands, as complex numbers of one type when one of them is one. -/
def evenPairs (left right : Operand) : Parse (Operand × Operand) := do
  match (← lanesOf? left.type).toList ++ (← lanesOf? right.type).toList with
  | [] => return (left, right)
  | found =>
    if found.any (·.isComplex) && left.type.bare != right.type.bare then
      let a ← pairOf left
      let b ← pairOf right
      let base := a.base.common b.base
      return (← (a.as base).value, ← (b.as base).value)
    else return (left, right)

/-- One of two operands. -/
def either (g : Grammar) (condition : Term) (yes no : Operand) : Parse Operand := do
  let plus ← isPlus
  let choice (a b : Term) : Term := (Term.conditional condition a b).simplified
  let (yes, no) ← evenPairs yes no
  match yes, no with
  | .place one a none spareA, .place other b none spareB =>
    if plus && one == other && spareA == spareB && !one.isFunction then
      return .place one (.conditional condition a b) none spareA
    else if one.tag?.isSome && one.tag? == other.tag? then
      return .place (if one.isConst then one else other) (.conditional condition a b) none true
    else if plus && one.tag?.isSome && other.tag?.isSome then related condition one a other b
    else numbers choice
  | .fresh one make, .fresh other also => do
    if one.tag? == other.tag? then
      return .fresh one fun target => .conditional condition (make target) (also target)
    else numbers choice
  | .fresh one make, .place other b none isSpare => do
    if one.tag? == other.tag? then
      let copied ← copier one.bare other b isSpare
      return .fresh one.bare fun target => .conditional condition (make target) (copied target)
    else mixed choice
  | .place one a none isSpare, .fresh other make => do
    if one.tag? == other.tag? then
      let copied ← copier other.bare one a isSpare
      return .fresh other.bare fun target => .conditional condition (copied target) (make target)
    else mixed choice
  | .functions _ _ _ _ _, _ | _, .functions _ _ _ _ _ => numbers choice
  | _, _ => mixed choice
where
  /-- Makes an object from another one at an address that comes later. -/
  copier (type found : CType) (source : Term) (isSpare : Bool) : Parse (Term → Term) := do
    let slot ← place 8 8
    let target := Term.load .address (.place slot)
    let made ← g.build type (.place found source none isSpare) target
    return fun place => .sequence (.storeLate .address (.place slot) place) made
  /-- One of two objects, one of which continues the other. -/
  related (condition : Term) (one : CType) (a : Term) (other : CType) (b : Term) :
      Parse Operand := do
    let first ← orFail one.tag?
    let second ← orFail other.tag?
    if ← continues first second then
      return .place other (.conditional condition (← upcast first second a false) b) none false
    else
      return .place one (.conditional condition a (← upcast second first b false)) none false
  /-- One of two operands of which one is of a class. -/
  mixed (choice : Term → Term → Term) : Parse Operand := do
    match yes.type.tag?, no.type.tag? with
    | some tag, none | some tag, some _ => do
      let type := CType.record tag
      match ← trial (fromBoth type) with
      | some _ => fromBoth type
      | none => do
        let yes ← decayed g yes
        numbersOf choice yes (← decayed g no)
    | none, some tag => do
      let type := CType.record tag
      match ← trial (fromBoth type) with
      | some _ => fromBoth type
      | none => numbersOf choice yes (← decayed g no)
    | none, none => numbers choice
  /-- An object made from one of two operands. -/
  fromBoth (type : CType) : Parse Operand := do
    require (← isPlus)
    let slot ← place 8 8
    let target := Term.load .address (.place slot)
    let first ← g.build type yes target
    let second ← g.build type no target
    return .fresh type fun place =>
      .sequence (.storeLate .address (.place slot) place) (.conditional condition first second)
  /-- One of two numbers. -/
  numbers (choice : Term → Term → Term) : Parse Operand := numbersOf choice yes no
  /-- One of two numbers. -/
  numbersOf (choice : Term → Term → Term) (yes no : Operand) : Parse Operand := do
    let (first, a) ← valueOf yes
    let (second, b) ← valueOf no
    match first, second with
    | .void, .void => return .value .void (choice a b)
    | .void, _ | _, .void => do
      require !(← isPlus)
      return .value .void (choice a b)
    | .pointer one, .pointer other => do
      let type ← commonPointer one other
      let a ← convertedValue type first a false
      let b ← convertedValue type second b false
      return .value type (choice a b)
    | .pointer one, other =>
      if no.isNull then return .value (.pointer one) (choice a (.word 0))
      else do
        require (!(← isPlus) && other.isInteger)
        warn ""
        return .value (.pointer one) (choice a (convertTerm ((other.kind?).getD .int) .address b))
    | other, .pointer one =>
      if yes.isNull then return .value (.pointer one) (choice (.word 0) b)
      else do
        require (!(← isPlus) && other.isInteger)
        warn ""
        return .value (.pointer one) (choice (convertTerm ((other.kind?).getD .int) .address a) b)
    | .null, .null => return .value .null (choice a b)
    | .memberPointer tag target, _ => do
      return .value first (choice a (← convertedValue (.memberPointer tag target) second b no.isNull))
    | one, other =>
      if one == other && one.isEnumeration then return .value one (choice a b)
      else if one == other && one == .bool && (← isPlus) then return .value one (choice a b)
      else do
        let (common, a, b) ← balance yes no
        return .value (.arithmetic common) (choice a b)

end Parse

end KernelCache.C
