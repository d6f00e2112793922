import KernelCache.C.Name

/-
**Functions that the language itself has.**

* `Parse.builtin` reads a use of one by its name.

Some are functions of the library under another name; others need no call.
-/

namespace KernelCache.C

open KernelCache.Code (Term Value Kind Instruction Linkage)

namespace Parse

/-! ### Bits -/

/-- Functions on the bits of a number: the name, the type of the operand, and of the result. -/
def bitFunctions : List (String × Arithmetic × Arithmetic) :=
  [("popcount", .unsignedInt, .int), ("popcountl", .unsignedLong, .int),
    ("popcountll", .unsignedLongLong, .int), ("clz", .unsignedInt, .int),
    ("clzl", .unsignedLong, .int), ("clzll", .unsignedLongLong, .int), ("ctz", .unsignedInt, .int),
    ("ctzl", .unsignedLong, .int), ("ctzll", .unsignedLongLong, .int), ("ffs", .int, .int),
    ("ffsl", .long, .int), ("ffsll", .longLong, .int), ("parity", .unsignedInt, .int),
    ("parityl", .unsignedLong, .int), ("parityll", .unsignedLongLong, .int), ("clrsb", .int, .int),
    ("clrsbl", .long, .int), ("clrsbll", .longLong, .int),
    ("bswap16", .unsignedShort, .unsignedShort), ("bswap32", .unsignedInt, .unsignedInt),
    ("bswap64", .unsignedLong, .unsignedLong)]

/-- The lowest bits of a number, the lowest first. -/
def lowBits : Nat → Nat → List Bool
  | 0, _ => []
  | width + 1, number => (number % 2 == 1) :: lowBits width (number / 2)

/-- What a function on bits yields for a number of a width in octets. -/
def bitResult (name : String) (width number : Nat) : Nat :=
  let bits := lowBits (8 * width) number
  let isNamed (text : String) : Bool := text.toList.isPrefixOf name.toList
  if isNamed "popcount" then bits.count true
  else if isNamed "parity" then bits.count true % 2
  else if isNamed "ctz" then (bits.takeWhile (· == false)).length
  else if isNamed "ffs" then
    if number = 0 then 0 else (bits.takeWhile (· == false)).length + 1
  else if isNamed "clrsb" then
    let top := bits.reverse
    (top.takeWhile (· == top.headD false)).length - 1
  else if isNamed "clz" then (bits.reverse.takeWhile (· == false)).length
  else Code.ofOctets (Code.octets width number).reverse

/-- Uses a function on bits. -/
def bitOperand (g : Grammar) (name : String) (argument result : Arithmetic) (operand : Operand) :
    Parse Operand := do
  let term ← convertedTo g (.arithmetic argument) operand
  let width := argument.kind.size
  match term.constant? with
  | some (.word bits) => return .value (.arithmetic result) (.word (bitResult name width bits))
  | _ => return .value (.arithmetic result) (outerCall ("__builtin_" ++ name) [term])

/-! ### Arithmetic that tells whether it fits -/

/-- Operators that tell whether the result fits. -/
def fittingOperators : List (String × Code.Binary) :=
  [("add", .add), ("sub", .sub), ("mul", .mul)]

/-- The operator in the name of a function that tells whether the result fits. -/
def fittingOperator? (name : String) : Option (Code.Binary × Bool) :=
  let ends (text : String) : Bool := name.toList.drop (name.toList.length - text.toList.length)
    == text.toList
  let starts (text : String) : Bool := text.toList.isPrefixOf name.toList
  if ends "_overflow" || ends "_overflow_p" then
    fittingOperators.findSome? fun (word, operator) =>
      if ["", "s", "sl", "sll", "u", "ul", "ull"].any fun front =>
          starts (front ++ word) then some (operator, ends "_p")
      else none
  else none

/-- The widest kind of integers. -/
def widest : Kind := .word 16 true

/-- Combines two integers exactly, keeps what fits, and tells whether that is not all. -/
def fitting (operator : Code.Binary) (isTest : Bool) (left right target : Operand) :
    Parse Operand := do
  let (first, a) ← valueOf left
  let (second, b) ← valueOf right
  let (third, place) ← valueOf target
  let type ← if isTest then pure third else orFail third.target?
  require (first.isInteger && second.isInteger && type.isInteger)
  let kind ← orFail type.kind?
  let wide (type : CType) (term : Term) : Term :=
    convertTerm ((type.kind?).getD .int) widest term
  let (kept, exact) ← keptValue (.arithmetic .wide)
    (binaryTerm operator widest (wide first a) (wide second b))
  let narrow := convertTerm widest kind exact
  let differs := binaryTerm .notEqual widest (convertTerm kind widest narrow) exact
  let stored : List Term := if isTest then [] else [.store kind place narrow]
  return .value .bool (behind kept (sequenced (stored ++ [differs])))

/-! ### Changes in one step -/

/-- Functions that change an object in one step, and whether they yield what was there before. -/
def changeFunctions : List (String × String × Bool) :=
  [("add", "+", true), ("sub", "-", true), ("or", "|", true), ("and", "&", true), ("xor", "^", true)]

/-- The change that the name of a function tells, and whether it yields what was there before. -/
def change? (name : String) : Option (String × Bool) :=
  changeFunctions.findSome? fun (word, mark, _) =>
    if name == "__atomic_fetch_" ++ word || name == "__sync_fetch_and_" ++ word then
      some (mark, true)
    else if name == "__atomic_" ++ word ++ "_fetch" || name == "__sync_" ++ word ++ "_and_fetch" then
      some (mark, false)
    else none

/-- Uses a function that changes an object in one step. -/
def changing (g : Grammar) (mark : String) (yieldsOld : Bool) (pointer value : Operand) :
    Parse Operand := do
  let (type, address) ← valueOf pointer
  let target ← orFail type.target?
  let (front, address) ← (do
    let offset ← place 8 8
    pure (Term.storeLate .address (.place offset) address, Term.load .address (.place offset))
      : Parse (Term × Term))
  let object : Operand := .place target.bare address none false
  let (_, term) ← valueOf object
  let (kept, old) ← keptValue target.bare term
  let value : Operand ← (do
    match target.bare, value with
    | .pointer _, value => do
      let (_, term) ← valueOf value
      pure (Operand.value CType.distanceType term)
    | _, value => pure value)
  let isPointer := target.bare.isPointer
  let result ← (do
    if isPointer then do
      let (_, distance) ← valueOf value
      let operator ← orFail (binaryWords.lookup mark)
      pure (Operand.value target.bare (binaryTerm operator .address old distance))
    else plainBinary g mark (.value target.bare old) value)
  let (keptResult, again) ← keptValue target.bare (← convertedTo g target.bare result)
  let kind ← orFail target.bare.kind?
  let steps := sequenced ([front] ++ kept.toList ++ keptResult.toList ++ [.store kind address again])
  return .value target.bare (.sequence steps (if yieldsOld then old else again))

/-! ### Further arguments -/

/-- The next of the further arguments of a function. -/
def nextArgument (list : Operand) (type : CType) : Parse Operand := do
  match list with
  | .place _ source none _ => do
    let (front, source) ← shared source
    let offset ← place 8 8
    let old := Term.load .address source
    let keep := Term.storeLate .address (.place offset) old
    let step := Term.store .address source
      (.binary .add .address (.load .address (.place offset)) (.word 8))
    let start := Term.load .address (.place offset)
    let front := behind front (.sequence keep step)
    match type.tag? with
    | some _ => return .place type (.sequence front (.load .address start)) none true
    | none => do
      let kind ← orFail type.bare.kind?
      match kind with
      | .real size =>
        let read := Term.load (.real 8) start
        return .value type.bare (.sequence front (convertTerm (.real 8) (.real size) read))
      | kind => return .value type.bare (.sequence front (.load kind start))
  | _ => failure

/-! ### Uses by name -/

/-- Reads a type between brackets. -/
def typesOf (g : Grammar) : Parse (List CType) := do
  mark "("
  let found ← separated (expandable g.typeName)
  mark ")"
  return spliced found.flatten

/-- Whether two types can be used for each other, when neither promises anything. -/
def compatible : CType → CType → Bool
  | .enumeration tag false base, other | other, .enumeration tag false base =>
    other == .arithmetic base || other == .enumeration tag false base
  | .function x ps m, .function y qs n =>
    similar x y && (m.isLoose || n.isLoose || (ps == qs && m.isOpen == n.isOpen))
  | .array _ x, .array _ y => compatible x y
  | .const x, .const y => compatible x y
  | .pointer x, .pointer y => compatible x y
  | a, b => a == b

/-- The distance of a member that designators tell. -/
def memberDistance (g : Grammar) : Nat → CType → Term → Parse (CType × Term)
  | 0, _, _ => failure
  | fuel + 1, type, distance => do
    if ← option "." then
      let name ← identifier
      let tag ← orFail type.tag?
      let (more, field, _) ← orFail (fieldWay? (← get).records name searchDepth tag)
      memberDistance g fuel field.type (binaryTerm .add .address distance (.word more))
    else if ← option "[" then
      let operand ← g.expression
      mark "]"
      let item ← orFail type.item?
      let (kind, term) ← valueOf operand
      let more ← distanceOf item kind term
      memberDistance g fuel item (binaryTerm .add .address distance more)
    else return (type, distance)

/-- An operand of a type that nothing else is known about. -/
def someOperand (type : CType) : Operand :=
  match type with
  | .reference toValue target => .place target (.word 0) none toValue
  | type => .place type (.word 0) none true

/-- Whether objects of a type can be made from operands of types, and whether that never throws. -/
def canBeMade (g : Grammar) (type : CType) (types : List CType) : Parse (Bool × Bool) := do
  let operands := types.map someOperand
  let step : Parse Bool := withoutCode (do
    modify fun reading => { reading with throws := false }
    require !(types.any (·.isVoid))
    match type, type.bare, operands with
    | .reference _ _, _, [operand] => require (← rank? g operand type).isSome
    | .reference _ _, _, _ => failure
    | _, .record _, operands => discard (g.make type.bare operands (.word 0))
    | _, .array _ item, [] => discard (g.start false item (.word 0))
    | _, _, [] => require (← isComplete type)
    | _, _, [operand] => require (← rank? g operand type.bare).isSome
    | _, _, _ => failure
    return !(← get).throws)
  match ← trial step with
  | some isQuiet => return (true, isQuiet)
  | none => return (false, false)

/-- Whether a value of a type can be given to an object of another type. -/
def canBeGiven (g : Grammar) (target source : CType) : Parse Bool := do
  let scope ← addScope (some (← get).scope) .block
  let operandTokens (name : String) (type : CType) : Parse (List Token) := do
    let whole := type.referenceTo true
    bindIn scope name (.type whole .everyone)
    bindIn scope (name ++ "*") (.type (.pointer type.referred) .everyone)
    return [.name "static_cast", .mark "<", .name name, .mark ">", .mark "(", .mark "*",
      .name "static_cast", .mark "<", .name (name ++ "*"), .mark ">", .mark "(", .name "nullptr",
      .mark ")", .mark ")"]
  let left ← operandTokens "(target)" target
  let right ← operandTokens "(source)" source
  let found ← trial (inScope scope (withoutCode (within (left ++ .mark "=" :: right) g.expression)))
  return found.isSome

/-- Properties of types that a source in C++ can ask about. -/
def typeProperty (g : Grammar) (name : String) (types : List CType) : Parse (Option Bool) := do
  let records := (← get).records
  let recordOf (type : CType) : Option Record := (type.tag?).bind (records[·]?)
  match name, types with
  | "__is_same", [a, b] | "__is_same_as", [a, b] => return some (a == b)
  | "__is_enum", [a] => return some a.isEnumeration
  | "__is_class", [a] => return some ((recordOf a).any fun record => !record.isUnion)
  | "__is_union", [a] => return some ((recordOf a).any (·.isUnion))
  | "__is_base_of", [a, b] =>
    match a.tag?, b.tag? with
    | some one, some other => return some (← continues other one)
    | _, _ => return some false
  | "__is_polymorphic", [a] => return some ((recordOf a).any (·.hasTable))
  | "__is_empty", [a] =>
    return some ((recordOf a).any fun record => record.fields.isEmpty && !record.hasTable
      && record.size ≤ 1)
  | "__is_final", [a] => return some ((recordOf a).any (·.isFinal))
  | "__is_abstract", [a] => do
    match recordOf a with
    | some record => do
      let functions ← record.overridables.mapM fun entry => functionAt entry.function
      return some (functions.any (·.isPure))
    | none => return some false
  | "__is_aggregate", [a] =>
    return some (a.isArray || (recordOf a).any (·.isAggregate))
  | "__is_constructible", type :: types => return some (← canBeMade g type types).1
  | "__is_nothrow_constructible", type :: types => return some (← canBeMade g type types).2
  | "__is_convertible", [source, target] =>
    if source.isVoid || target.isVoid then return some (source.isVoid && target.isVoid)
    else return some (← trial (do orFail (← rank? g (someOperand source) target))).isSome
  | "__is_assignable", [target, source] => return some (← canBeGiven g target source)
  | "__is_trivially_copyable", [a] | "__is_pod", [a] | "__is_trivial", [a]
  | "__is_standard_layout", [a] | "__is_literal_type", [a] | "__has_trivial_destructor", [a] =>
    return some ((recordOf a).all fun record => record.destructor.isNone && !record.hasTable)
  | _, _ => return none

/-- Reads one operand between brackets. -/
def operandIn (g : Grammar) : Parse Operand := do
  match ← arguments g with
  | [operand] => return operand
  | _ => failure

/-- Reads a use of a function that only says something about its operands. -/
def sayingFunction (g : Grammar) (name : String) : Parse Operand := do
  match name with
  | "__builtin_expect" | "__builtin_expect_with_probability" => do
    let first ← orFail (← arguments g).head?
    return .value (.arithmetic .long) (← convertedTo g (.arithmetic .long) first)
  | "__builtin_assume_aligned" => do
    let first ← orFail (← arguments g).head?
    let (type, term) ← valueOf first
    return .value type term
  | "__builtin_constant_p" => do
    let operand ← withoutCode (operandIn g)
    let term ← optional (valueOf operand)
    let isText := (← textOf? operand).isSome
    return .int (if isText || term.any (fun entry => entry.2.constant?.isSome) then 1 else 0)
  | "__builtin_is_constant_evaluated" => do
    discard (arguments g)
    return .value .bool (.word 0)
  | "__builtin_prefetch" => do
    let terms ← (← arguments g).mapM valueOf
    return .value .void (sequenced (terms.map (·.2)))
  | "__builtin_trap" => do
    discard (arguments g)
    return .value .void (outerCall "__builtin_trap" [])
  | "__builtin_launder" => operandIn g
  | "__builtin_addressof" => do addressOf (← operandIn g)
  | "__builtin_frame_address" | "__builtin_return_address" => do
    discard (arguments g)
    return .value (.pointer .void) (.place 0)
  | "__builtin_classify_type" => do
    let (type, _) ← valueOf (← withoutCode (operandIn g))
    return .int (if type.isPointer then 5 else if (type.arithmetic?).any (·.isReal) then 8 else 1)
  | "__builtin_object_size" | "__builtin_dynamic_object_size" => do
    match ← arguments g with
    | [_, kind] => do
      let (_, value) ← g.evaluate kind
      let isLeast := value.bits / 2 % 2 = 1
      return .value CType.sizeType (.word (if isLeast then 0 else Code.range 8 - 1))
    | _ => failure
  | _ => do
    discard (arguments g)
    return .nothing

/-- Functions that only say something about their operands. -/
def sayingFunctions : List String :=
  ["__builtin_expect", "__builtin_expect_with_probability", "__builtin_assume_aligned",
    "__builtin_constant_p", "__builtin_is_constant_evaluated", "__builtin_prefetch",
    "__builtin_trap", "__builtin_launder", "__builtin_addressof", "__builtin_frame_address",
    "__builtin_return_address", "__builtin_classify_type", "__builtin_object_size",
    "__builtin_dynamic_object_size", "__builtin_unreachable", "__sync_synchronize",
    "__atomic_thread_fence", "__atomic_signal_fence", "__builtin_va_end"]

/-- Reads a use of a function that takes types or reads its operands in its own way. -/
def typeFunction (g : Grammar) (name : String) : Parse Operand := do
  match name with
  | "__builtin_offsetof" => do
    mark "("
    let type ← g.typeName
    mark ","
    modify fun reading => { reading with tokens := .mark "." :: reading.tokens }
    let (_, distance) ← memberDistance g searchDepth type (.word 0)
    mark ")"
    return .value CType.sizeType distance
  | "__builtin_types_compatible_p" => do
    match ← typesOf g with
    | [a, b] => return .int (if compatible a.bare b.bare then 1 else 0)
    | _ => failure
  | "__builtin_choose_expr" => do
    mark "("
    let condition ← g.assignment
    mark ","
    let first ← itemTokens
    mark ","
    let second ← itemTokens
    mark ")"
    let (_, value) ← g.evaluate condition
    within (if value.isTrue then first else second) g.assignment
  | "__builtin_va_arg" => do
    mark "("
    let list ← g.assignment
    mark ","
    let type ← g.typeName
    mark ")"
    nextArgument list type
  | "__builtin_va_start" | "__builtin_c23_va_start" => do
    match ← arguments g with
    | .place _ list none _ :: _ => do
      let offset ← orFail (← get).work.furtherAt
      return .value .void (.store .address list (.load .address (.place offset)))
    | _ => failure
  | "__builtin_va_copy" => do
    match ← arguments g with
    | [.place _ target none _, source] => do
      let (_, term) ← valueOf source
      return .value .void (.store .address target term)
    | _ => failure
  | "__builtin_complex" => do
    match ← arguments g with
    | [real, imaginary] => do
      let a ← pairOf real
      let b ← pairOf imaginary
      require (a.base == b.base && a.imaginary.isNone && b.imaginary.isNone && a.base.isReal)
      { a with front := a.front ++ b.front, imaginary := some b.real }.value
    | _ => failure
  | "__builtin_shuffle" => do
    match ← arguments g with
    | [row, places] => laneShuffle row none places
    | [row, other, places] => laneShuffle row (some other) places
    | _ => failure
  | "__builtin_shufflevector" => do
    match ← arguments g with
    | row :: other :: places => do
      let numbers ← places.mapM fun place => do
        let (type, value) ← g.evaluate place
        return integerOf type value
      laneChoice row other numbers
    | _ => failure
  | "__builtin_convertvector" => do
    mark "("
    let row ← g.assignment
    mark ","
    let type ← g.typeName
    mark ")"
    laneConverted row type
  | "__builtin_alloca" | "__builtin_alloca_with_align" => do
    let first ← orFail (← arguments g).head?
    return .value (.pointer .void) (.reserve (← convertedTo g CType.sizeType first))
  | _ => failure

/-- Functions that take types or read their operands in their own way. -/
def typeFunctions : List String :=
  ["__builtin_offsetof", "__builtin_types_compatible_p", "__builtin_choose_expr",
    "__builtin_va_arg", "__builtin_va_start", "__builtin_c23_va_start", "__builtin_va_copy",
    "__builtin_alloca", "__builtin_alloca_with_align", "__builtin_complex", "__builtin_shuffle",
    "__builtin_shufflevector", "__builtin_convertvector"]

/-- Constants in floating point. -/
def realConstants : List (String × Arithmetic × Float) :=
  [("__builtin_huge_val", .double, 1.0 / 0.0), ("__builtin_inf", .double, 1.0 / 0.0),
    ("__builtin_huge_valf", .float, 1.0 / 0.0), ("__builtin_inff", .float, 1.0 / 0.0),
    ("__builtin_huge_vall", .longDouble, 1.0 / 0.0), ("__builtin_infl", .longDouble, 1.0 / 0.0),
    ("__builtin_nan", .double, 0.0 / 0.0), ("__builtin_nans", .double, 0.0 / 0.0),
    ("__builtin_nanf", .float, 0.0 / 0.0), ("__builtin_nanl", .longDouble, 0.0 / 0.0)]

/-- Tests of a number in floating point. -/
def realTest? (name : String) : Option (Kind → Term → Term) :=
  let isBounded (kind : Kind) (term : Term) : Term :=
    binaryTerm .less kind (.binary .sub kind term term) (.real 1)
  match name with
  | "__builtin_isnan" => some fun kind term => binaryTerm .notEqual kind term term
  | "__builtin_isinf" | "__builtin_isinf_sign" => some fun kind term =>
    binaryTerm .sub (.word 4 true) (binaryTerm .equal kind term (.real (1.0 / 0.0)))
      (binaryTerm .equal kind term (.real (-1.0 / 0.0)))
  | "__builtin_isfinite" | "__builtin_finite" | "__builtin_isnormal" => some isBounded
  | _ => none

/-- Comparisons of numbers in floating point. -/
def realComparisons : List (String × Code.Binary) :=
  [("__builtin_isgreater", .greater), ("__builtin_isless", .less),
    ("__builtin_isgreaterequal", .greaterEqual), ("__builtin_islessequal", .lessEqual)]

/-- Reads a use of a function on numbers in floating point. -/
def realFunction? (g : Grammar) (name : String) : Parse (Option Operand) := do
  match realConstants.lookup name, realTest? name, realComparisons.lookup name with
  | some (type, number), _, _ => do
    discard (arguments g)
    return some (.value (.arithmetic type) (.real number))
  | none, some test, _ => do
    let (type, term) ← numberOf (← operandIn g)
    let (kept, again) ← keptValue (.arithmetic type) term
    return some (.value CType.int (behind kept (test type.kind again)))
  | none, none, some operator => do
    match ← arguments g with
    | [left, right] => do
      let (type, a, b) ← balance left right
      return some (.value CType.int (binaryTerm operator type.kind a b))
    | _ => failure
  | none, none, none => do
    if ["__builtin_signbit", "__builtin_signbitf", "__builtin_signbitl"].contains name then
      let term ← convertedTo g (.arithmetic .double) (← operandIn g)
      return some (.value CType.int (outerCall "__builtin_signbit" [term]))
    else return none

/-- Reads a use of a function that changes an object only when it is as expected. -/
def exchanging (g : Grammar) (name : String) : Parse Operand := do
  let operands ← arguments g
  let (type, address) ← valueOf (← orFail operands.head?)
  let target ← orFail type.target?
  let bare := target.bare
  let kind ← orFail bare.kind?
  let (front, address) ← shared address
  let (kept, current) ← keptValue bare (.load kind address)
  match name, operands with
  | "__atomic_compare_exchange_n", _ :: expected :: value :: _ => do
    let (_, other) ← valueOf expected
    let (also, other) ← shared other
    let value ← convertedTo g bare value
    let (keptSame, same) ← keptValue .int (binaryTerm .equal kind current (.load kind other))
    let write := Term.conditional same (.store kind address value) (.store kind other current)
    let steps := front.toList ++ also.toList ++ kept.toList ++ keptSame.toList ++ [write]
    return .value .bool (.sequence (sequenced steps) same)
  | _, _ :: old :: new :: _ => do
    let (keptOld, old) ← keptValue bare (← convertedTo g bare old)
    let new ← convertedTo g bare new
    let (keptSame, same) ← keptValue .int (binaryTerm .equal kind current old)
    let write := Term.conditional same (.sequence (.store kind address new) .nothing) .nothing
    let steps := front.toList ++ keptOld.toList ++ kept.toList ++ keptSame.toList ++ [write]
    if name == "__sync_bool_compare_and_swap" then
      return .value .bool (.sequence (sequenced steps) same)
    else return .value bare (.sequence (sequenced steps) current)
  | _, _ => failure

/-- Reads a use of a function that reads or replaces an object. -/
def replacing (g : Grammar) (name : String) : Parse Operand := do
  let operands ← arguments g
  let pointer ← orFail operands.head?
  match name with
  | "__atomic_load_n" => do
    let (type, term) ← valueOf (← indirect pointer)
    return .value type term
  | "__atomic_store_n" | "__sync_lock_release" => do
    let result ← assigned g (← indirect pointer) ((operands.drop 1).headD (.int 0))
    let (_, term) ← valueOf result
    return .value .void (.sequence term .nothing)
  | _ => do
    let (type, address) ← valueOf pointer
    let target ← orFail type.target?
    let isFlag := name == "__atomic_test_and_set" || name == "__atomic_clear"
    let bare := if isFlag then CType.bool else target.bare
    let kind ← orFail bare.kind?
    let (front, address) ← shared address
    let (kept, old) ← keptValue bare (.load kind address)
    let value ← (do
      if isFlag then pure (.word (if name == "__atomic_clear" then 0 else 1))
      else convertedTo g bare (← orFail (operands.drop 1).head?) : Parse Term)
    let write := Term.store kind address value
    return .value bare (.sequence (sequenced (front.toList ++ kept.toList ++ [write])) old)

/-- Functions that change an object only when it is as expected. -/
def exchangeFunctions : List String :=
  ["__atomic_compare_exchange_n", "__sync_bool_compare_and_swap", "__sync_val_compare_and_swap"]

/-- Functions that read or replace an object. -/
def replaceFunctions : List String :=
  ["__atomic_load_n", "__atomic_store_n", "__sync_lock_release", "__atomic_exchange_n",
    "__sync_lock_test_and_set", "__atomic_test_and_set", "__atomic_clear"]

/-- Reads a use of a function of the language behind its name; fails when it is none. -/
def builtin (g : Grammar) (name : String) : Parse Operand := do
  let short := String.ofList (name.toList.drop 10)
  if sayingFunctions.contains name then sayingFunction g name
  else if typeFunctions.contains name then typeFunction g name
  else if exchangeFunctions.contains name then exchanging g name
  else if replaceFunctions.contains name then replacing g name
  else
    match ← realFunction? g name, change? name with
    | some found, _ => return found
    | none, some (sign, yieldsOld) => do
      match ← arguments g with
      | pointer :: value :: _ => changing g sign yieldsOld pointer value
      | _ => failure
    | none, none => do
      if "__builtin_".toList.isPrefixOf name.toList then
        match bitFunctions.lookup short, fittingOperator? short with
        | some (argument, result), _ => bitOperand g short argument result (← operandIn g)
        | none, some (operator, isTest) => do
          match ← arguments g with
          | [left, right, target] => fitting operator isTest left right target
          | _ => failure
        | none, none => do
          require (knownDeclaration? short).isSome
          let target ← libraryFunction g short
          called g target (← arguments g)
      else
        let types ← typesOf g
        match ← typeProperty g name types with
        | some holds => return .value .bool (.word (if holds then 1 else 0))
        | none => failure

/-- Whether a name is one of a function that the language itself has. -/
def isBuiltin (name : String) : Bool :=
  let starts (text : String) : Bool := text.toList.isPrefixOf name.toList
  starts "__builtin_" || starts "__sync_" || starts "__atomic_" || starts "__is_"
    || starts "__has_trivial"

end Parse

end KernelCache.C
