import KernelCache.C.Function

/-
**Variables.**

* `Parse.localVariable` makes a variable of a function, and `Parse.outerVariable` one that outlives
  all functions.
* `Parse.boundParts` makes variables for the parts of an object.
-/

namespace KernelCache.C

open KernelCache.Code (Term Value Kind Instruction Linkage)

/-- How a variable gets its first value. -/
inductive First where
  | silent
  /-- From one operand. -/
  | copy (operand : Operand)
  /-- From operands between brackets. -/
  | direct (operands : List Operand)
  /-- From operands between braces. -/
  | list (operand : Operand)

/-- The operand that a first value consists of. -/
def First.operand? : First → Option Operand
  | .copy operand | .list operand | .direct [operand] => some operand
  | _ => none

/-- The operands that an object is made from. -/
def First.operands : First → List Operand
  | .silent => []
  | .copy (.braces items) | .list (.braces items) =>
    items.map fun (entry : List Designator × Operand) => entry.2
  | .copy operand | .list operand => [operand]
  | .direct operands => operands

/-- The type of an object that is copied. -/
def First.copied? : First → Option CType
  | .copy (.fresh type _) | .copy (.place type _ _ _) => some type.bare
  | _ => none

namespace Parse

/-! ### First values -/

/-- The type of the first value that comes next, where the type is to be exactly that one. -/
def exactType (g : Grammar) (type : CType) : Parse CType := do
  match type, (← get).tokens with
  | .exactly, .mark "=" :: rest =>
    let item := (splitAt (.mark ";") ((splitAt (.mark ",") rest).headD [])).headD []
    typeOfTokens g item
  | .exactly, _ => failure
  | type, _ => return type

/-- Reads a first value behind a name, when there is one. -/
def firstHere (g : Grammar) : Parse First := do
  if ← option "=" then return .copy (← g.initial)
  else if ← isPlus then
    if ← sees "\x7b" then return .list (← g.initial)
    else if ← sees "(" then
      let operands ← arguments g
      require !operands.isEmpty
      return .direct operands
    else return .silent
  else return .silent

/-- The template of the classes that lists between braces stand for, when it is declared. -/
def listTemplate? : Parse (Option Nat) := do
  let reading ← get
  match findHere? reading searchDepth 0 "std" with
  | some (.space std, _) =>
    match findHere? reading searchDepth std "initializer_list" with
    | some (.template number, _) => return some number
    | _ => return none
  | _ => return none

/-- The type of a variable, as far as its first value tells it. -/
def typeFrom (g : Grammar) (type : CType) (first : First) : Parse CType := do
  match type, first.operand? with
  | .pattern text _, _ => do
    let record? := (first.copied?.bind CType.tag?).bind ((← get).records[·]?)
    let isSame : Bool := record?.any fun (record : Record) =>
      record.origin.any fun (entry : Nat × List CType) => toString entry.1 == text
    match first.copied?, isSame with
    | some found, true => return found
    | _, _ => g.guess (text.toNat?.getD 0) first.operands
  | .const (.pattern text _), _ => do
    return (← g.guess (text.toNat?.getD 0) first.operands).constant
  | type, some operand =>
    if type.isDeduced then deduced type operand
    else counted g type operand
  | type, none => do
    require !type.isDeduced
    return type
where
  /-- A type with what an operand tells. -/
  deduced (type : CType) (operand : Operand) : Parse CType := do
    let operand ← (do
      match operand, type.bare with
      | .braces [([], inner)], bare => do
        match first, bare with
        | .list _, _ => pure inner
        | _, .arithmetic _ => pure inner
        | _, _ => pure operand
      | operand, _ => pure operand)
    match operand with
    | .braces items => do
      let item ← valueType (← orFail items.head?).2
      g.typeFor (← orFail (← listTemplate?)) [item]
    | operand =>
      match type with
      | .reference toValue inner => do
        match operand with
        | .place found _ _ isSpare =>
          if toValue && inner == .deduced then
            return .reference isSpare found
          else return .reference toValue (inner.bare.deducedAs (if inner.isConst then
            found.bare else found) |> fun type => if inner.isConst then type.constant else type)
        | operand => do
          let found ← valueType operand
          return .reference toValue (inner.deducedAs found)
      | .pointer inner => do
        let found ← valueType operand
        match found with
        | .pointer target => return .pointer (matched inner target)
        | _ => failure
      | .const (.pointer inner) => do
        let found ← valueType operand
        match found with
        | .pointer target => return (CType.pointer (matched inner target)).constant
        | _ => failure
      | type => return type.deducedAs (← valueType operand)
  /-- What a pointer leads to, with what is found in the place of what a value tells. -/
  matched (wanted found : CType) : CType :=
    match wanted with
    | .const inner => (inner.deducedAs found.bare).constant
    | inner => inner.deducedAs found

/-- Makes a variable at an address from its first value. -/
def makeFirst (g : Grammar) (type : CType) (first : First) (target : Term) : Parse Term := do
  let plus ← isPlus
  match first with
  | .silent =>
    if plus then
      match type with
      | .reference _ _ => failure
      | type => do
        let records := (← get).records
        let isMade := (type.bare.tag?).any fun tag => (records[tag]?).any fun record =>
          record.isMade || record.isAggregate
        require (!type.isConst || isMade || type.isArray || type.tag?.isSome)
        g.start false type target
    else return .nothing
  | .copy operand => g.build (typeToBuild type) operand target
  | .list (.braces items) =>
    match type with
    | .reference _ _ =>
      match items with
      | [([], operand)] => g.build type operand target
      | _ => g.build type (.braces items) target
    | type =>
      match type.bare.tag?, type.isArray, items with
      | none, false, [] => g.start true type target
      | none, false, [([], operand)] => g.build type operand target
      | _, _, _ => g.build (typeToBuild type) (.braces items) target
  | .list operand => g.build type operand target
  | .direct operands =>
    match type, operands with
    | .reference _ _, [operand] => g.build type operand target
    | type, operands => g.make type.bare operands target
where
  /-- The type without a promise that is kept only behind the first value. -/
  typeToBuild (type : CType) : CType :=
    match type with
    | .reference toValue target => .reference toValue target
    | .array count item => .array count item
    | type => type.bare

/-- The places that a term writes. -/
def writtenBy : Term → List Nat
  | .store _ (.place offset) value | .storeLate _ (.place offset) value => offset :: writtenBy value
  | .store _ target value | .storeLate _ target value | .storeBits _ _ _ target value =>
    writtenBy target ++ writtenBy value
  | .copy _ target source => writtenBy target ++ writtenBy source
  | .load _ operand | .convert _ _ operand | .unary _ _ operand => writtenBy operand
  | .binary _ _ left right | .both left right | .either left right | .sequence left right =>
    writtenBy left ++ writtenBy right
  | .conditional _ yes no => writtenBy yes ++ writtenBy no
  | _ => []

/-- Whether a term has a value that never changes, so that it can be there from the start. It may
use places that it writes itself. -/
def isSteady (fixed : Std.TreeMap String Unit) (own : List Nat) : Term → Bool
  | .word _ | .real _ | .address _ | .known _ _ | .labelAddress _ => true
  | .load _ (.known _ _) => true
  | .load _ source => isFixedPlace fixed own source && isSteady fixed own source
  | .store _ target value | .storeLate _ target value =>
    isSteady fixed own target && isSteady fixed own value
  | .storeBits _ _ _ target value => isSteady fixed own target && isSteady fixed own value
  | .copy _ target source =>
    isSteady fixed own target && (isText source || isFixedPlace fixed own source)
      && isSteady fixed own source
  | .clear _ target => isSteady fixed own target
  | .convert _ _ operand | .unary _ _ operand => isSteady fixed own operand
  | .binary _ _ left right | .both left right | .either left right | .sequence left right =>
    isSteady fixed own left && isSteady fixed own right
  | .conditional condition yes no =>
    isSteady fixed own condition && isSteady fixed own yes && isSteady fixed own no
  | .place offset => own.contains offset
  | _ => false
where
  /-- Whether an address leads into an object that keeps the constants that it starts with. -/
  isFixedPlace (fixed : Std.TreeMap String Unit) (own : List Nat) : Term → Bool
    | .address symbol => fixed.contains symbol
    | .binary .add _ left (.word _) => isFixedPlace fixed own left
    | .sequence _ last => isFixedPlace fixed own last
    | .conditional _ yes no => isFixedPlace fixed own yes && isFixedPlace fixed own no
    | .known _ _ => true
    | .place offset => own.contains offset
    | _ => false
  /-- Whether an address is one of a text or of an object without a name. -/
  isText : Term → Bool
    | .address symbol => ".text".toList.isPrefixOf symbol.toList
        || ".literal".toList.isPrefixOf symbol.toList
    | _ => false

/-- Adds a first value that is there from the start. -/
def addPreset (symbol : String) (instructions : List Instruction) : Parse Unit := do
  modify fun reading => { reading with
    presets := if instructions.isEmpty then reading.presets
      else reading.presets ++ [(symbol, instructions)]
    presetRoom := max reading.presetRoom reading.work.room }

/-- Instructions that have an object ended when the program ends. -/
def endLater (g : Grammar) (type : CType) (symbol : String) : Parse (List Instruction) := do
  match enderOf? (← get).records type with
  | none => return []
  | some _ => do
    let number ← fresh
    let name := ".end" ++ toString number
    let (ends, room) ← inFunction { function := number, name, result := .void } (← get).scope (do
      let ends ← ending g type (.address symbol)
      return (ends, (← get).work.room))
    addRoutine
      { symbol := name, linkage := .inner, room, parameters := []
        instructions := ends ++ [.word 0, .answer] }
    return (outerCall "atexit" [.address name]).effect

/-- Gives an object that outlives functions its first value, and yields what is to be done where the
program comes by. -/
def fillObject (g : Grammar) (symbol : String) (type : CType) (first : First) :
    Parse (List Instruction) := do
  let spares := (← get).work.spares
  changeWork fun work => { work with spares := [] }
  let made ← makeFirst g type first (.address symbol)
  let isKept : Bool := match type with
    | .reference _ _ => true
    | _ => false
  let term ← if isKept then pure made else finished made
  changeWork fun work => { work with spares }
  let fixed := (← get).fixed
  if isSteady fixed (writtenBy term) term then
    addPreset symbol term.effect
    if type.isConst then
      modify fun reading => { reading with fixed := reading.fixed.insert symbol () }
    endLater g type symbol
  else
    require (← isPlus)
    return term.effect ++ (← endLater g type symbol)

/-- The value of a constant, when its first value tells it. -/
def knownValue? (g : Grammar) (type : CType) (first : First) (isConstexpr : Bool) :
    Parse (Option Value) := do
  if !(← isPlus) || !type.isConst || type.bare.kind?.isNone then return none
  else
    match first.operand? with
    | none => return none
    | some operand => do
      let isNumber := type.isInteger || isConstexpr || type.isEnumeration
      if !isNumber then return none
      else
        let found ← optional (do
          let operand ← match operand with
            | .braces [([], inner)] => pure inner
            | other => pure other
          let term ← convertedTo g type operand
          match term.constant? with
          | some value => return value
          | none => do
            require isConstexpr
            let kind ← orFail type.bare.kind?
            constantly (runTerm g kind (← finished term)))
        return found

/-! ### Variables of functions -/

/-- The symbol of a variable of a function that outlives calls. -/
def localSymbol (name : String) : Parse String := do
  return name ++ "." ++ toString (← fresh)

/-- Makes a variable of a function that outlives calls. -/
def staticVariable (g : Grammar) (name : String) (type : CType) (isConstexpr : Bool)
    (aligned : Option Nat) : Parse (List Instruction) := do
  let number ← fresh
  let symbol ← localSymbol name
  let declare (type : CType) (value : Option Value) : Parse Unit :=
    bind name (.object { number, name, type, home := .symbol symbol, value, isConstexpr })
  let type ← exactType g type
  let isOpen := type.isDeduced || (match type.bare with
    | .array none _ | .pattern _ _ => true
    | _ => false)
  if !isOpen then declare type none
  let first ← firstHere g
  let type ← typeFrom g type first
  require (← isComplete type)
  let value ← knownValue? g type first isConstexpr
  declare type value
  let size ← sizeOf type
  let alignment := max (← alignmentOf type) (aligned.getD 1)
  let steps ← (do
    match first with
    | .silent => if ← isPlus then fillObject g symbol type first else pure []
    | first => fillObject g symbol type first : Parse (List Instruction))
  let isConstant := type.isConst && steps.isEmpty && !type.isReference
  addObject { symbol, linkage := .inner, size, alignment, isConstant }
  if steps.isEmpty then return []
  else
    let guard ← localSymbol "guard"
    addObject { symbol := guard, linkage := .inner, size := 1, alignment := 1 }
    let test := (Term.load .truth (.address guard)).instructions
    let once := steps ++ (Term.store .truth (.address guard) (.word 1)).effect
    return test ++ .skipIf true once.length :: once

/-- Calls the function that the source names for the end of a variable. -/
def cleanupCall (g : Grammar) (name : String) (operand : Operand) : Parse (List Instruction) := do
  let (entity, scope) ← orFail (← find? name)
  let target ← entityOperand g name entity scope false []
  let result ← called g target [← addressOf operand]
  return (← effectOf g result).effect

/-- Takes what is to be done in front of a declaration. -/
def takeFront : Parse (List Instruction) := do
  let front := (← get).work.front
  changeWork fun work => { work with front := [] }
  return front

/-- Makes a variable of a function. -/
def localVariable (g : Grammar) (name : String) (type : CType) (isConstexpr : Bool)
    (attributes : Attributes) (given : Option First) : Parse (List Instruction) := do
  let reading ← get
  let plus := reading.options.isPlus
  require (!type.isVoid && name != "")
  match ((← scopeAt reading.scope).names[name]?) with
  | some (.functions _ _) | some (.type _ _) | none => pure ()
  | some _ => failure
  let type ← settled type
  let type ← if given.isNone then exactType g type else pure type
  let front ← takeFront
  let number ← fresh
  let isOpen := type.isDeduced || (match type.bare with
    | .array none _ | .pattern _ _ => true
    | _ => false)
  let alignment := max (← alignmentOf type) (attributes.aligned.getD 1)
  match type with
  | .measured size _ => do
    let offset ← place 8 8
    bind name (.object { number, name, type, isRemote := true,
                         home := .frame reading.work.function offset })
    match ← firstHere g with
    | .silent => pure ()
    | _ => failure
    let taken := Term.storeLate .address (.place offset)
      (.reserve (.load .address (.place size)))
    return front ++ taken.effect
  | type => do
    let declared (type : CType) (offset : Nat) (value : Option Value) (isRemote : Bool) : Variable :=
      { number, name, type, value, isConstexpr, isRemote
        home := .frame reading.work.function offset }
    let spares := reading.work.spares
    changeWork fun work => { work with spares := [] }
    let offset? ← (do
      if isOpen then pure none
      else
        require (← isComplete type)
        let offset ← place (← sizeOf type) alignment
        bind name (.object (declared type offset none false))
        pure (some offset) : Parse (Option Nat))
    let first ← match given with
      | some first => pure first
      | none => firstHere g
    let type ← typeFrom g type first
    require (← isComplete type)
    let work := (← get).work
    let isResult := plus && work.resultName == some name && type.bare == work.result.bare
      && type.tag?.isSome && work.answerAt.isSome && !isOpen
    let offset ← match offset? with
      | some offset => pure offset
      | none => place (← sizeOf type) alignment
    let value ← knownValue? g type first isConstexpr
    let offset := if isResult then work.answerAt.getD 0 else offset
    let found := declared type offset value isResult
    bind name (.object found)
    let target := if isResult then Term.load .address (.place offset) else Term.place offset
    let made ← makeFirst g type first target
    let madeSpares := (← get).work.spares
    let isReference := type.isReference
    let steps ← (do
      if isReference && !madeSpares.isEmpty then
        let clear := madeSpares.flatMap fun (flag, _) =>
          Term.effect (.store .int (.place flag) (.word 0))
        let ends := madeSpares.flatMap fun (flag, ends) =>
          (Term.load .int (.place flag)).instructions ++ .skipIf false ends.length :: ends
        changeWork fun work => { work with spares := [] }
        let mark ← addCleanup ends
        pure (clear ++ made.effect ++ mark)
      else
        let term ← finished made
        pure term.effect : Parse (List Instruction))
    changeWork fun work => { work with spares }
    let operand ← variableOperand found
    let ends ← (do
      match attributes.cleanup with
      | some cleanup => cleanupCall g cleanup operand
      | none =>
        if isReference || isResult then pure [] else ending g type (.place offset)
        : Parse (List Instruction))
    let mark ← addCleanup ends
    return front ++ steps ++ mark

/-! ### Parts of objects -/

/-- Makes variables for the parts of an object. -/
def boundParts (g : Grammar) (found : Specifiers) (reference? : Option Bool) (names : List String)
    (given : Option First) : Parse (List Instruction) := do
  let base ← orFail found.type
  require base.isDeduced
  let hidden := "(parts" ++ toString (← fresh) ++ ")"
  let type : CType := match reference? with
    | some toValue => .reference toValue base
    | none => base
  let steps ← localVariable g hidden type false {} given
  let object ← (do
    match ← find? hidden with
    | some (.object found, _) => variableOperand found
    | _ => failure : Parse Operand)
  let (whole, source, _) ← asObject g object
  let function := (← get).work.function
  let bindPart (name : String) (operand : Operand) : Parse (List Instruction) := do
    let number ← fresh
    match operand with
    | .place found source bits _ => do
      match bits with
      | some _ => localVariable g name found.bare false {} (some (.copy operand))
      | none => do
        let offset ← place 8 8
        bind name (.object { number, name, type := found, isRemote := true,
                             home := .frame function offset })
        return (Term.storeLate .address (.place offset) source).effect
    | _ => failure
  match whole.bare with
  | .array (some count) item => do
    require (count == names.length)
    let size ← sizeOf item
    let parts ← names.zipIdx.mapM fun (name, index) =>
      bindPart name (.place (item.asConstAs whole) (source.shifted (size * index)) none false)
    return steps ++ parts.flatten
  | .record tag => do
    let record ← recordAt tag
    let size? ← tupleSize tag
    match size? with
    | some count => do
      require (count == names.length)
      let parts ← names.zipIdx.mapM fun (name, index) => do
        let item ← tupleItem whole source index
        match item with
        | .place _ _ _ false => bindPart name item
        | item => do
          let type ← valueType item
          localVariable g name (.reference true type) false {} (some (.copy item))
      return steps ++ parts.flatten
    | none => do
      let owner ← (do
        if record.fields.isEmpty then
          match record.bases with
          | [base] => pure (base.tag, base.offset)
          | _ => failure
        else pure (tag, 0) : Parse (String × Nat))
      let fields := (← recordAt owner.1).fields.filter fun field => field.name != ""
      require (fields.length == names.length)
      let parts ← (names.zip fields).mapM fun (name, field) => do
        let part ← fieldOf (CType.asConstAs (.record owner.1) whole) (source.shifted owner.2) false
          field.name
        bindPart name part
      return steps ++ parts.flatten
  | _ => failure
where
  /-- The number of parts that a class says it has. -/
  tupleSize (tag : String) : Parse (Option Nat) := do
    let reading ← get
    match findHere? reading searchDepth 0 "std" with
    | some (.space std, _) =>
      match findHere? reading searchDepth std "tuple_size" with
      | some (.template number, _) =>
        optional (do
          let type ← g.typeFor number [.record tag]
          let record ← recordAt (← orFail type.tag?)
          require record.isComplete
          match findHere? (← get) searchDepth record.scope "value" with
          | some (.object { value := some value, .. }, _) => return value.bits
          | _ => failure)
      | _ => return none
    | _ => return none
  /-- One of the parts that a class says it has. -/
  tupleItem (type : CType) (source : Term) (index : Nat) : Parse Operand := do
    let tag ← orFail type.tag?
    let object : Operand := .place type source none false
    let (numbers, templates) ← membersNamed tag "get"
    let given : List CType := [.number index]
    if numbers.isEmpty && templates.isEmpty then
      let (numbers, templates) ← freeFunctions "get" [object]
      called g (.functions numbers templates given none false) [object]
    else called g (.functions numbers templates given (some (type, source, false)) false) []

/-! ### Variables outside of functions -/

/-- A variable that was declared before in a scope. -/
def knownVariable? (scope : Nat) (name : String) : Parse (Option Variable) := do
  match ((← scopeAt scope).names[name]?) with
  | some (.object found) => return some found
  | none => return none
  | some (.type _ _) => if ← isPlus then return none else failure
  | some _ => failure

/-- The type of a variable of which two declarations are known. -/
def joined? (old new : CType) : Option CType :=
  match old, new with
  | .array none a, .array count b => if a == b then some (.array count b) else none
  | .array count a, .array none b => if a == b then some (.array count a) else none
  | .const a, .const b => (joinedBare? a b).map CType.constant
  | a, b => if a == b then some a else joinedBare? a b
where
  /-- The same without a promise. -/
  joinedBare? (old new : CType) : Option CType :=
    match old, new with
    | .array none a, .array count b => if a == b then some (.array count b) else none
    | .array count a, .array none b => if a == b then some (.array count a) else none
    | .function a ps m, .function b qs n =>
      if similar (.function a ps m) (.function b qs n) then
        some (if m.isLoose then .function b qs n else .function a ps m)
      else none
    | .pointer a, .pointer b => if similar a b && a.isConst == b.isConst then some (.pointer a)
      else none
    | a, b => if a == b then some a else none

/-- Makes a variable known that outlives functions, and gives it its first value. -/
def outerVariable (g : Grammar) (found : Specifiers) (declarator : Declarator) (type : CType) :
    Parse Unit := do
  let reading ← get
  let plus := reading.options.isPlus
  let attributes := found.attributes.and declarator.attributes
  let name := declarator.name
  require (name != "" && !type.isVoid)
  let scope := match declarator.place with
    | .inside scope => scope
    | _ => reading.scope
  let known ← knownVariable? scope name
  let path := pathOf reading searchDepth scope
  let isQualified : Bool := match declarator.place with
    | .inside _ => true
    | _ => false
  require (!isQualified || known.isSome)
  let outerScope := (← get).scope
  enter scope
  let type ← exactType g type
  let first ← firstHere g
  modify fun reading => { reading with scope := outerScope }
  let isSilent : Bool := match first with
    | .silent => true
    | _ => false
  let type ← (do
    match known, type with
    | some _, .array none item =>
      if isSilent then pure (CType.array none item) else typeFrom g type first
    | _, type => if isSilent && !type.isDeduced then pure type else typeFrom g type first)
  let type ← (do
    match known with
    | some old => orFail (joined? old.type type)
    | none => pure type : Parse CType)
  let isConstexpr := found.isConstexpr || known.any (·.isConstexpr)
  let isInner := found.isStatic || (plus && isSecret reading searchDepth scope)
    || (plus && (type.isConst || found.isConstexpr) && !found.isExternal && !found.isInline
      && known.isNone && !isQualified)
  let symbol := match known with
    | some { home := .symbol symbol, .. } => symbol
    | _ => match attributes.symbol with
      | some symbol => symbol
      | none => if plus && !reading.plainNames then Symbol.ofObject path name else name
  let oldObject := reading.piece.objects.find? fun object => object.symbol == symbol
  let linkage : Linkage :=
    match oldObject with
    | some object => object.linkage
    | none =>
      if attributes.isWeak then .weak
      else if isInner && attributes.standsFor.isNone then .inner
      else if found.isInline || (plus && found.isConstexpr && isQualified) then .shared
      else if !plus && reading.options.common && isSilent && !found.isExternal then .shared
      else .outer
  let number ← match known with
    | some old => pure old.number
    | none => fresh
  let declare (value : Option Value) : Parse Unit :=
    bindIn scope name (.object
      { number, name, type, home := .symbol symbol, isConstexpr
        value := value.or (known.bind (·.value))
        access := (known.map (·.access)).getD .everyone, owner := known.bind (·.owner) })
  declare none
  if attributes.isWeak && isSilent && found.isExternal then
    modify fun reading => { reading with
      piece := { reading.piece with optional := symbol :: reading.piece.optional } }
  match attributes.standsFor with
  | some target =>
    modify fun reading => { reading with
      piece := { reading.piece with aliases := (symbol, target, linkage) :: reading.piece.aliases } }
  | none =>
    if found.isExternal && isSilent then
      return ()
    else
      require (!(isSilent && plus) || oldObject.isNone)
      require (isSilent || !(reading.presets.any fun entry => entry.1 == symbol))
      let sized : CType := match type with
        | .array none item => .array (some 1) item
        | type => type
      let complete ← isComplete sized
      require (complete || (!plus && isSilent))
      let value ← knownValue? g type first isConstexpr
      declare value
      let steps ← (do
        match first with
        | .silent => if plus then fillObject g symbol type first else pure []
        | first => fillObject g symbol type first : Parse (List Instruction))
      let size ← sizeOf sized
      let alignment := max (← alignmentOf type) (attributes.aligned.getD 1)
      let isConstant := type.isConst && steps.isEmpty && !type.isReference
      let visible := (attributes.visible.or reading.visibilities.head?).getD
        !reading.options.hidden
      let object : Code.Object :=
        { symbol, linkage, size, alignment, isConstant, visible }
      modify fun reading => { reading with
        piece := { reading.piece with
          objects := object :: reading.piece.objects.filter fun old => old.symbol != symbol }
        starts := if steps.isEmpty then reading.starts else reading.starts ++ [(symbol, steps)]
        presetRoom := max reading.presetRoom reading.work.room }

end Parse

end KernelCache.C
