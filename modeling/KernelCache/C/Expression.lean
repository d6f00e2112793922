import KernelCache.C.Primary

/-
**Expressions.**

* `Parse.unaryLevel` and `Parse.castLevel` read an operand with the operators in front of it.
* `Parse.binaryLevel` reads operators between operands, by their strength.
* `Parse.assignmentLevel` and `Parse.expressionLevel` read whole expressions.
* `Parse.initialLevel` reads a first value, perhaps between braces.
-/

namespace KernelCache.C

open KernelCache.Code (Term Value Kind Instruction Linkage)

namespace Parse

/-! ### First values -/

/-- Reads what a first value is for. -/
def designators (g : Grammar) : Parse (List Designator) := do
  let found ← many do
    if ← option "." then
      match ← token with
      | .name name => return Designator.member name
      | _ => failure
    else
      require (← sees "[")
      require (!(← isPlus) || (← peekSecond) != .mark "]")
      mark "["
      let (type, first) ← g.constant
      require type.isInteger
      let last ← (do
        if ← option "..." then
          let (type, last) ← g.constant
          pure (integerOf type last)
        else pure (integerOf type first))
      mark "]"
      require (0 ≤ integerOf type first && integerOf type first ≤ last)
      return Designator.items (integerOf type first).toNat last.toNat
  if found.isEmpty then
    match (← get).tokens with
    | .name name :: .mark ":" :: rest =>
      require !(← isPlus)
      modify fun reading => { reading with tokens := rest }
      return [.member name]
    | _ => return []
  else
    discard (option "=")
    return found

/-- Reads one first value between braces. -/
def listedValue (g : Grammar) : Parse (List (List Designator × Operand)) := do
  let plus ← isPlus
  let next ← peek
  let isDesignated := next == .mark "." || (next == .mark "[" && !plus)
    || (match ← peekSecond with
      | .mark ":" => true
      | _ => false)
  if isDesignated then
    let places ← designators g
    return [(places, ← g.initial)]
  else if plus then
    let designated ← optional (do
      require (← sees "[")
      let places ← designators g
      require !places.isEmpty
      mark "="
      return (places, ← g.initial))
    match designated with
    | some found => return [found]
    | none => return (← expandable g.initial).map fun operand => ([], operand)
  else return [([], ← g.initial)]

/-- Reads first values up to the closing brace. -/
def listedUpTo (g : Grammar) :
    Nat → List (List Designator × Operand) → Parse (List (List Designator × Operand))
  | 0, _ => failure
  | fuel + 1, found => do
    if ← option "\x7d" then return found.reverse
    else
      let item ← listedValue g
      if ← option "," then listedUpTo g fuel (item.reverse ++ found)
      else
        mark "\x7d"
        return (item.reverse ++ found).reverse

/-- Reads a first value, perhaps between braces. -/
def initialLevel (g : Grammar) : Parse Operand := do
  if ← option "\x7b" then
    let items ← withAngles false (listedUpTo g ((← get).tokens.length + 1) [])
    return .braces items
  else g.assignment

/-! ### Types in front of operands -/

/-- Words with which types start. -/
def typeStarts : List String :=
  typeWords ++ ["void", "const", "volatile", "struct", "union", "enum", "signed", "typeof",
    "__typeof__", "__typeof", "typeof_unqual", "__extension__", "_Atomic", "__const",
    "__builtin_va_list", "typename", "decltype", "class", "auto", "__auto_type", "__attribute__",
    "_Alignas", "alignas", "register", "restrict", "__restrict", "_Complex", "__underlying_type"]

/-- Whether a type could start with tokens. -/
def startsType (tokens : List Token) : Parse Bool := do
  match tokens with
  | .name text :: rest =>
    if typeStarts.contains text then return true
    else
      match ← find? text with
      | some (.type _ _, _) => return true
      | some (.template _, _) => return true
      | some (.space _, _) => return rest.head? == some (.mark "::")
      | some _ => return false
      | none => return (← isPlus)
  | .mark "::" :: _ => isPlus
  | _ => return false

/-- Reads a type between brackets. -/
def bracketedType (g : Grammar) : Parse CType := do
  require (← sees "(")
  require (← startsType ((← get).tokens.drop 1))
  mark "("
  let type ← withAngles false g.typeName
  mark ")"
  return type

/-- The type with the number of its items, when first values tell it. -/
def counted (g : Grammar) (type : CType) (operand : Operand) : Parse CType := do
  match type with
  | .array none item => return .array (some (← countFor g item operand)) item
  | .const (.array none item) => return .array (some (← countFor g item operand)) item.constant
  | other => return other

/-- Notes a variable or a constant. -/
def addObject (object : Code.Object) : Parse Unit :=
  modify fun reading => { reading with
    piece := { reading.piece with objects := object :: reading.piece.objects } }

/-- Reads an object that is written as its type and its values. -/
def compoundLiteral (g : Grammar) (type : CType) : Parse Operand := do
  let braces ← g.initial
  let type ← counted g type braces
  require (← isComplete type)
  if ← isLocal then
    if (← isPlus) && type.tag?.isSome then
      freshWith type fun target => g.build type braces target
    else
      let offset ← placeFor type
      let made ← g.build type braces (.place offset)
      return .place type (.sequence made (.place offset)) none (← isPlus)
  else
    let number ← fresh
    let symbol := ".literal" ++ toString number
    addObject { symbol, linkage := .inner, size := ← sizeOf type, alignment := ← alignmentOf type }
    let made ← g.build type braces (.address symbol)
    modify fun reading => { reading with presets := reading.presets ++ [(symbol, made.effect)] }
    return .place type (.address symbol) none false

/-! ### Sizes -/

/-- The type of an operand in front of which its size is asked for. -/
def measuredType (g : Grammar) : Parse CType := do
  match ← optional (do
    let type ← bracketedType g
    require !(← sees "\x7b")
    return type) with
  | some type => return type.referred
  | none => do
    let operand ← withoutCode (do
      match ← optional (bracketedType g) with
      | some type => behindUpTo g behindDepth (← compoundLiteral g type)
      | none => g.operand)
    match operand with
    | .place type _ none _ | .fresh type _ => return type
    | .place _ _ (some _) _ => failure
    | operand => do
      if operand.type == .unknown then
        let (type, _) ← valueOf operand
        match type with
        | .pointer (.function result parameters manner) =>
          return .function result parameters manner
        | other => return other
      else return operand.type

/-- Reads the size of a type or of an operand. -/
def sizeOperand (g : Grammar) : Parse Operand := do
  if (← isPlus) && (← sees "...") then
    skip 1
    match ← enclosed with
    | [.name name] => do
      let found ← orFail (← packOf? name)
      return .value CType.sizeType (.word (packSize found))
    | _ => failure
  else
    let type ← measuredType g
    let plain := type.isVoid || type.isFunction
    let complete ← isComplete type
    let plus ← isPlus
    require (if plain then !plus else complete)
    return .value CType.sizeType (← sizeTerm type)

/-- Reads what the addresses of objects of a type are multiples of. -/
def alignmentOperand (g : Grammar) : Parse Operand := do
  let type ← measuredType g
  return .value CType.sizeType (.word (← alignmentOf type))

/-! ### Objects on demand -/

/-- Whether functions of the source allocate objects, and what they yield. -/
def allocated (g : Grammar) (tag? : Option String) (name : String) (symbol : String) (size : Term)
    (given : List Operand) : Parse Term := do
  if given.isEmpty then noteThrow
  let operands := Operand.value CType.sizeType size :: given
  let own ← (do
    match tag? with
    | some tag => membersNamed tag name
    | none => pure ([], []) : Parse (List Nat × List Nat))
  match own with
  | (first :: rest, templates) => do
    let number ← chosen g (first :: rest) templates [] operands none false
    return (← valueOf (← g.call number none false operands)).2
  | ([], _) =>
    if given.isEmpty then return outerCall symbol [size]
    else
      let (numbers, templates) ← freeFunctions name operands
      match ← trial (chosen g numbers templates [] operands none false) with
      | some number => return (← valueOf (← g.call number none false operands)).2
      | none =>
        match given with
        | [place] =>
          if place.type.tag?.isSome then return outerCall symbol [size]
          else return (← valueOf place).2
        | _ => failure

/-- Reads the steps of the type of a new object, and the number of its items. -/
def newType (g : Grammar) : Parse (CType × Option Operand) := do
  if ← would (do
      mark "("
      discard g.typeName
      mark ")") then
    mark "("
    let type ← g.typeName
    mark ")"
    match type with
    | .array (some count) item => return (item, some (.value CType.sizeType (.word count)))
    | type => return (type, none)
  else
    let found ← specifiers g
    let base ← orFail found.type
    let front ← many (do
      require !(← sees "&")
      frontStep g)
    let type := base.shaped front.reverse
    if ← option "[" then
      let count ← withAngles false g.expression
      mark "]"
      let inner ← many (arrayStep g false)
      return (type.shaped inner, some count)
    else return (type, none)

/-- Reads a new object. -/
def newOperand (g : Grammar) : Parse Operand := do
  let given ← (do
    if ← sees "(" then
      if ← would (do
          mark "("
          discard g.typeName
          mark ")"
          require !(← startsType (← get).tokens)) then pure []
      else arguments g
    else pure [] : Parse (List Operand))
  let (type, count?) ← newType g
  match count? with
  | none => do
    let values? ← (do
      if ← sees "(" then
        let operands ← arguments g
        pure (some (Sum.inl operands))
      else if ← sees "\x7b" then
        let braces ← g.initial
        pure (some (Sum.inr braces))
      else pure none : Parse (Option (Sum (List Operand) Operand)))
    let type ← (do
      match type, values? with
      | .pattern text _, some (.inl operands) => g.guess (text.toNat?.getD 0) operands
      | .pattern text _, some (.inr (.braces items)) =>
        g.guess (text.toNat?.getD 0) (items.map (·.2))
      | type, some (.inl [operand]) =>
        if type.isDeduced then pure (type.deducedAs (← valueType operand)) else pure type
      | type, _ => pure type)
    require (← isComplete type)
    let bare := type.bare
    let size ← sizeOf type
    let start ← allocated g bare.tag? "operatornew" "_Znwm" (.word size) given
    let (kept, target) ← keptValue (.pointer .void) start
    let made ← (do
      match values? with
      | none => g.start false bare target
      | some (.inl operands) =>
        if operands.isEmpty then g.start true bare target else g.make bare operands target
      | some (.inr (.braces [])) => g.start true bare target
      | some (.inr (.braces [(_, operand)])) =>
        if bare.tag?.isSome then g.build bare (.braces [([], operand)]) target
        else g.build bare operand target
      | some (.inr braces) => g.build bare braces target)
    return .value (.pointer type) (behind kept (.sequence made target))
  | some count => do
    require (← isComplete type)
    let (braces?, clears) ← (do
      if ← option "(" then
        mark ")"
        pure (none, true)
      else if ← sees "\x7b" then
        let braces ← g.initial
        pure (some braces, true)
      else pure (none, false) : Parse (Option Operand × Bool))
    let size ← sizeOf type
    let count ← convertedTo g CType.sizeType count
    let (keptCount, count) ← keptValue CType.sizeType count
    let records := (← get).records
    let front := if (enderOf? records type).isSome then 8 else 0
    let bytes := binaryTerm .add .address (binaryTerm .mul .address count (.word size)) (.word front)
    let start ← allocated g none "operatornew[]" "_Znam" bytes given
    let (kept, start) ← keptValue (.pointer .void) start
    let target := if front = 0 then start else .binary .add .address start (.word front)
    let note : List Term := if front = 0 then [] else [.store .address start count]
    let made : List Instruction ← (do
      match braces? with
      | some (.braces items) => do
        let whole : CType := .array (some items.length) type
        let zeros := outerCall "memset" [target, .word 0, binaryTerm .mul .address count
          (.word size)]
        let filled ← g.build whole (.braces items) target
        pure (zeros.effect ++ filled.effect)
      | _ => do
        let probe ← g.start clears type target
        if (stepsOf probe).isEmpty then pure []
        else eachItem count size target false fun place => do
          return stepsOf (← g.start clears type place))
    let steps := sequenced (keptCount.toList ++ kept.toList ++ note ++ [.after made .nothing])
    return .value (.pointer type) (.sequence steps target)

/-- Reads the end of an object that was made on demand. -/
def deleteOperand (g : Grammar) : Parse Operand := do
  let isArray ← (do
    if (← sees "[") && (← peekSecond) == .mark "]" then
      skip 2
      pure true
    else pure false : Parse Bool)
  let operand ← decayed g (← g.cast)
  let (type, term) ← valueOf operand
  let target ← orFail type.target?
  let (kept, pointer) ← keptValue type term
  let records := (← get).records
  let tag? := target.tag?
  let own ← (do
    match tag?, isArray with
    | some tag, false => membersNamed tag "operatordelete"
    | _, _ => pure ([], []) : Parse (List Nat × List Nat))
  let freed (start : Term) : Parse Term := do
    match own with
    | (number :: _, _) => do
      let function ← functionAt number
      let first := Operand.value (.pointer .void) start
      let second := Operand.value CType.sizeType (.word (← sizeOf target))
      let operands := if function.parameters.length = 2 then [first, second] else [first]
      effectOf g (← g.call number none false operands)
    | ([], _) => return outerCall (if isArray then "_ZdaPv" else "_ZdlPv") [start]
  let steps ← (do
    match enderOf? records target with
    | none => freed pointer
    | some number =>
      if isArray then do
        let start := Term.binary .sub .address pointer (.word 8)
        let count := Term.load .address start
        let size ← sizeOf target
        let ends ← eachItem count size pointer true fun place => ending g target.bare place
        pure (Term.sequence (.after ends .nothing) (← freed start))
      else do
        let function ← functionAt number
        let ended ← g.call number (some (target.bare, pointer)) false []
        let ended ← effectOf g ended
        if function.isVirtual then do
          let table := Term.load .address pointer
          let top := Term.load .address (.binary .sub .address table (.word 16))
          let (keptTop, top) ← keptValue (.pointer .void) (.binary .add .address pointer top)
          pure (behind keptTop (.sequence ended (← freed top)))
        else pure (Term.sequence ended (← freed pointer)) : Parse Term)
  return .value .void (behind kept (.conditional pointer (.sequence steps .nothing) .nothing))

/-! ### Exceptions -/

/-- The symbol of what tells a type apart when the program runs. -/
def typeSymbol (type : CType) : Parse String := do
  let symbol := "_ZTI" ++ Symbol.ofType type
  modify fun reading => { reading with neededTypes := reading.neededTypes.insert symbol type }
  return symbol

/-- Reads what is thrown. -/
def throwOperand (g : Grammar) : Parse Operand := do
  require !(← get).options.noExceptions
  noteThrow
  let next ← peek
  if next == .mark ";" || next == .mark ")" || next == .mark "," || next == .mark ":" then
    match (← get).work.handling with
    | some (object, type) =>
      return .value .void
        (.after [.fetch object .address, .fetch type .address, .throw] .nothing)
    | none => return .value .void (.after [.caught, .caughtType, .throw] .nothing)
  else
    let operand ← g.assignment
    let type ← valueType operand
    let symbol ← typeSymbol type
    let size ← sizeOf type
    let (kept, target) ← keptValue (.pointer .void)
      (.binary .add .address (outerCall "malloc" [.word (size + 16)]) (.word 16))
    let made ← g.build type operand target
    let ender ← (do
      match enderOf? (← get).records type with
      | some number => addressOfFunction number
      | none => pure (Term.word 0))
    let note := Term.store .address (.binary .sub .address target (.word 16)) ender
    let count := Term.store .address (.binary .sub .address target (.word 8)) (.word 0)
    let front := (behind kept (sequenced [made, note, count])).effect ++ target.instructions
      ++ [.address symbol, .throw]
    return .value .void (.after front .nothing)

/-! ### Operators in front -/

/-- The number of a label of the function that is being read. -/
def labelFor (name : String) : Parse Nat := do
  let work := (← get).work
  match work.labels.find? fun label => label.name == name with
  | some label => return label.label
  | none => do
    let label ← fresh
    changeWork fun work => { work with
      labels := { name, label, isUsed := true } :: work.labels }
    return label

/-- Reads the address of an operand. -/
def addressOperand (g : Grammar) : Parse Operand := do
  let plus ← isPlus
  let member? ← (do
    if plus then
      match (← get).tokens with
      | .name _ :: .mark "::" :: _ | .name _ :: .mark "<" :: _ | .mark "::" :: _ =>
        optional (do
          let found ← memberPointerTo g
          require !(← sees "(")
          return found)
      | _ => pure none
    else pure none : Parse (Option Operand))
  match member? with
  | some found => return found
  | none => do
    let operand ← g.cast
    match ← (do
      if operand.type.tag?.isSome then operatorCall? g "&" [operand] false
      else pure none : Parse (Option Operand)) with
    | some found => return found
    | none => addressOf operand

/-- Operators that yield a part of a complex number. -/
def partWords : List String := ["__real__", "__real", "__imag__", "__imag"]

/-- Reads an operand with the operators in front of it. -/
def unaryLevel (g : Grammar) : Parse Operand := do
  match ← peek with
  | .mark text =>
    if ["+", "-", "!", "~", "*"].contains text then
      skip 1
      unary g text (← g.cast)
    else if text == "&" then
      skip 1
      addressOperand g
    else if text == "&&" then
      skip 1
      let label ← labelFor (← identifier)
      return .value (.pointer .void) (.labelAddress label)
    else if text == "++" || text == "--" then
      skip 1
      stepped g text false (← g.cast)
    else if text == "::" then
      match ← peekSecond with
      | .name "new" => do
        skip 2
        newOperand g
      | .name "delete" => do
        skip 2
        deleteOperand g
      | _ => withBehind g
    else withBehind g
  | .name text =>
    if text == "sizeof" then
      skip 1
      sizeOperand g
    else if ["_Alignof", "__alignof__", "alignof", "__alignof"].contains text
        && (text != "alignof" || (← isPlus) || 2023 ≤ (← get).options.year) then
      skip 1
      alignmentOperand g
    else if text == "__extension__" then
      skip 1
      g.cast
    else if partWords.contains text then
      skip 1
      pairPart ((text.toList.drop 2).head? == some 'r') (← g.cast)
    else if (text == "new" || text == "delete") && (← isPlus) then
      skip 1
      if text == "new" then newOperand g else deleteOperand g
    else withBehind g
  | _ => withBehind g

/-- Reads an operand that may have a type in front of it. -/
def castLevel (g : Grammar) : Parse Operand := do
  if ← sees "(" then
    match ← optional (bracketedType g) with
    | some type =>
      if ← sees "\x7b" then behindUpTo g behindDepth (← compoundLiteral g type)
      else
        let operand ← g.cast
        castOperand g type operand
    | none => g.operand
  else g.operand

/-! ### Operators between operands -/

/-- The strengths of operators; a stronger one comes first. -/
def strengths : List (String × Nat) :=
  [("||", 1), ("&&", 2), ("|", 3), ("^", 4), ("&", 5), ("==", 6), ("!=", 6), ("<", 7), (">", 7),
    ("<=", 7), (">=", 7), ("<=>", 8), ("<<", 9), (">>", 9), ("+", 10), ("-", 10), ("*", 11),
    ("/", 11), ("%", 11), (".*", 12), ("->*", 12)]

/-- The operator that comes next, with its strength. -/
def nextOperator? : Parse (Option (String × Nat)) := do
  match ← peek with
  | .mark text =>
    if (text == ">" || text == ">>" || text == ">=") && (← get).inAngles then return none
    else return (strengths.lookup text).map fun strength => (text, strength)
  | _ => return none

mutual

/-- Reads operands with operators between them that are at least so strong. -/
def operatorsUpTo (g : Grammar) : Nat → Nat → Parse Operand
  | 0, _ => failure
  | fuel + 1, least => do
    let first ← g.cast
    climb g fuel least first

/-- Goes on behind an operand. -/
def climb (g : Grammar) : Nat → Nat → Operand → Parse Operand
  | 0, _, _ => failure
  | fuel + 1, least, left => do
    match ← nextOperator? with
    | none => return left
    | some (text, strength) =>
      if strength < least then return left
      else
        skip 1
        let right ← operatorsUpTo g fuel (strength + 1)
        let result ← (do
          if text == ".*" then throughPointer g left right
          else if text == "->*" then throughPointer g (← arrow g searchDepth left) right
          else binary g text left right)
        climb g fuel least result

end

/-- An expression has no more operators one behind the other. -/
def operatorDepth : Nat := 100000

/-- Reads operands with operators between them. -/
def binaryLevel (g : Grammar) : Parse Operand := operatorsUpTo g operatorDepth 1

/-- Reads a choice between two operands. -/
def conditionalLevel (g : Grammar) : Parse Operand := do
  let first ← binaryLevel g
  if ← option "?" then
    let plus ← isPlus
    if ← option ":" then
      let (type, term) ← valueOf first
      let (kept, again) ← keptValue type term
      let kind ← orFail type.kind?
      let last ← g.conditional
      let test := match kept with
        | some kept => kept
        | none => convertTerm kind kind again
      either g test (.value type again) last
    else
      let condition ← truth g first
      let yes ← withAngles false g.expression
      mark ":"
      let no ← (do
        if plus then g.assignment else g.conditional : Parse Operand)
      let isThrow (operand : Operand) : Bool := match operand with
        | .value .void (.after _ _) => true
        | _ => false
      if plus && isThrow yes && !isThrow no then thrown condition yes no true
      else if plus && isThrow no && !isThrow yes then thrown condition no yes false
      else either g condition yes no
  else return first
where
  /-- An operand, unless a condition has the given truth; then something is thrown. -/
  thrown (condition : Term) (throws operand : Operand) (whenTrue : Bool) : Parse Operand := do
    let effect ← effectOf g throws
    let front := if whenTrue then Term.conditional condition effect .nothing
      else Term.conditional condition .nothing effect
    return afterTerm (.sequence front .nothing) operand

/-- Operators that change an object. -/
def changeMarks : List String := ["+=", "-=", "*=", "/=", "%=", "<<=", ">>=", "&=", "^=", "|="]

/-- Reads an assignment. -/
def assignmentLevel (g : Grammar) : Parse Operand := do
  if (← isPlus) && (← optionWord "throw") then throwOperand g
  else
    let left ← g.conditional
    match ← peek with
    | .mark "=" => do
      skip 1
      let right ← if ← isPlus then g.initial else g.assignment
      assigned g left right
    | .mark text =>
      if changeMarks.contains text && !(text == ">>=" && (← get).inAngles) then
        skip 1
        let right ← if ← isPlus then g.initial else g.assignment
        compound g (String.ofList text.toList.dropLast) left right
      else return left
    | _ => return left

/-- Goes on behind a comma. -/
def commaUpTo (g : Grammar) : Nat → Operand → Parse Operand
  | 0, _ => failure
  | fuel + 1, left => do
    if ← option "," then
      let right ← g.assignment
      match ← operatorCall? g "," [left, right] false with
      | some found => commaUpTo g fuel found
      | none => do
        let result := afterTerm (← effectOf g left) right
        let result := match result, ← isPlus with
          | .place type source bits _, false => .place type source bits true
          | other, _ => other
        commaUpTo g fuel result
    else return left

/-- Reads expressions with commas between them. -/
def expressionLevel (g : Grammar) : Parse Operand := do
  commaUpTo g operatorDepth (← g.assignment)

end Parse

end KernelCache.C
