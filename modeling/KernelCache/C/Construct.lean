import KernelCache.C.Overload

/-
**Objects and calls.**

* `Parse.buildWith` makes an object from an operand, `Parse.makeWith` from arguments, and
  `Parse.startWith` without a value.
* `Parse.bound` is the address that a reference to an operand has.
* `Parse.callWith` calls a function.
* `Parse.ending` are the instructions that end an object.
-/

namespace KernelCache.C

open KernelCache.Code (Term Value Kind Instruction Linkage)

namespace Parse

/-- The instructions of a term that is worked out for what it does. -/
def stepsOf (term : Term) : List Instruction := term.effect

/-! ### Loops over arrays -/

/-- Instructions that go through so many items of a size from an address on. The body takes the
address of an item. -/
def eachItem (count : Term) (size : Nat) (start : Term) (backwards : Bool)
    (body : Term → Parse (List Instruction)) : Parse (List Instruction) := do
  let counter ← place 8 8
  let base ← place 8 8
  let number := Term.load .address (.place counter)
  let item := Term.binary .add .address (.load .address (.place base))
    (.binary .mul .address number (.word size))
  let inner ← body item
  let setBase := Term.effect (.storeLate .address (.place base) start)
  let set (term : Term) : List Instruction := Term.effect (.storeLate .address (.place counter) term)
  if backwards then
    let down := set (.binary .sub .address number (.word 1))
    let round := number.instructions ++ .skipIf false (down.length + inner.length + 1) :: down
      ++ inner
    return setBase ++ set count ++ round ++ [.skip (-(round.length + 1 : Int))]
  else
    let up := set (.binary .add .address number (.word 1))
    let test := (Term.binary .less .address number count).instructions
    let round := test ++ .skipIf false (inner.length + up.length + 1) :: inner ++ up
    return setBase ++ set (.word 0) ++ round ++ [.skip (-(round.length + 1 : Int))]

/-! ### Ends of objects -/

/-- The function that ends objects of a type, or of its items. -/
def enderOf? (records : Std.TreeMap String Record) : CType → Option Nat
  | .record tag => (records[tag]?).bind (·.destructor)
  | .const type => enderOf? records type
  | .array _ item => enderOf? records item
  | _ => none

/-- Fails where a member may not be used. -/
def checkAccess (access : Access) (owner : String) (name : String) : Parse Unit := do
  if access == .everyone then return ()
  else
    let reading ← get
    let rec around : Nat → Nat → List String
      | 0, _ => []
      | fuel + 1, number =>
        match reading.scopes[number]? with
        | none => []
        | some scope =>
          let own := match scope.holder with
            | .record tag => [tag]
            | _ => []
          own ++ (scope.parent.map (around fuel)).getD []
    let classes := around searchDepth reading.scope
    let works := reading.work :: reading.outer
    let owners := works.filterMap fun work =>
      (reading.functions[work.function]?).bind (·.owner)
    let friends := ((reading.records[owner]?).map (·.friends)).getD []
    let callers := works.filterMap fun work => (reading.functions[work.function]?).map (·.name)
    let originOf (tag : String) : Option String := do
      let record ← reading.records[tag]?
      let (number, _) ← record.origin
      return (← reading.templates[number]?).name
    let inside := classes ++ owners
    let allowed := inside.any fun tag =>
      tag == owner || friends.contains tag || (originOf tag).any friends.contains
        || (access == .heirs && (baseWay? reading.records searchDepth tag owner).isSome)
    let isFriend := callers.any fun caller => friends.contains caller
    let _ := name
    require (allowed || isFriend)

/-- The instructions that end an object. -/
def ending (g : Grammar) (type : CType) (source : Term) : Parse (List Instruction) := do
  match enderOf? (← get).records type with
  | none => return []
  | some number => do
    let function ← functionAt number
    checkAccess function.access (function.owner.getD "") function.name
    let one (source : Term) : Parse (List Instruction) := do
      match ← g.call number (some (.record (function.owner.getD ""), source)) true [] with
      | .value _ term => return stepsOf term
      | _ => failure
    let rec countOf : CType → Option Nat
      | .array count item => some (count.getD 0 * (countOf item).getD 1)
      | .const type => countOf type
      | _ => none
    match countOf type with
    | none => one source
    | some count =>
      let size ← sizeOf (.record (function.owner.getD ""))
      eachItem (.word count) size source true one

/-! ### Objects of an expression -/

/-- The address of an object that is made where the expression needs it, and ends with the
expression. -/
def spare (g : Grammar) (type : CType) (make : Term → Term) : Parse Term := do
  let offset ← placeFor type
  let ends ← ending g type (.place offset)
  if ends.isEmpty then return .sequence (make (.place offset)) (.place offset)
  else
    let flag ← place 4 4
    changeWork fun work => { work with spares := (flag, ends) :: work.spares }
    let noted := Term.store .int (.place flag) (.word 1)
    return .sequence (.sequence (make (.place offset)) noted) (.place offset)

/-- An operand as an object with an address. -/
def materialized (g : Grammar) (operand : Operand) : Parse (CType × Term) := do
  match operand with
  | .place type source none _ => return (type, source)
  | .fresh type make => return (type, ← spare g type make)
  | other => do
    let (type, term) ← valueOf other
    let kind ← orFail type.kind?
    let offset ← placeFor type
    return (type, .sequence (.storeLate kind (.place offset) term) (.place offset))

/-- A term, with the objects of its expression ended behind it. -/
def finished (term : Term) : Parse Term := do
  let spares := (← get).work.spares
  changeWork fun work => { work with spares := [] }
  if spares.isEmpty then return term
  else
    let front := spares.flatMap fun (flag, _) => Term.effect (.store .int (.place flag) (.word 0))
    let ends := spares.flatMap fun (flag, ends) =>
      (Term.load .int (.place flag)).instructions ++ .skipIf false ends.length :: ends
    return .after front (.followed term ends)

/-- Reads an expression whose objects end behind it. -/
def whole {α : Type} (step : Parse α) (finish : α → Parse Term) : Parse Term := do
  let outer := (← get).work.spares
  changeWork fun work => { work with spares := [] }
  let found ← step
  let term ← finished (← finish found)
  changeWork fun work => { work with spares := outer }
  return term

/-! ### Numbers -/

/-- An operand as a number of a type, where a class may help. -/
def convertedTo (g : Grammar) (target : CType) (operand : Operand) : Parse Term := do
  match operand with
  | .functions numbers templates given object _ => do
    let wanted ← match target.bare with
      | .pointer wanted => pure wanted
      | .memberPointer _ wanted => pure wanted
      | _ => failure
    match ← functionOfType? numbers wanted with
    | some number => addressOfFunction number
    | none =>
      match wanted with
      | .function _ parameters _ => do
        let operands := parameters.map fun type =>
          Operand.place type.referred .nothing none false
        let made ← templates.mapM fun template => g.functionFor template given operands
        match made.filterMap id with
        | number :: _ => addressOfFunction number
        | [] =>
          let _ := object
          failure
      | _ => failure
  | .braces [] => do
    require target.isScalar
    return if (target.arithmetic?).any (·.isReal) then .real 0 else .word 0
  | .braces [([], inner)] => converted target inner
  | operand =>
    match operand.type.tag? with
    | none => converted target operand
    | some _ => do
      if (← lanesOf? operand.type).isSome then laneNumber target operand else
      match ← converterFor? operand target false with
      | none => failure
      | some (number, _) => do
        let (type, source) ← materialized g operand
        let result ← g.call number (some (type, source)) false []
        converted target result

/-- The truth of an operand, where a class may help. -/
def truth (g : Grammar) (operand : Operand) : Parse Term := do
  match operand.type.tag? with
  | none => truthOf operand
  | some _ => do
    if (← lanesOf? operand.type).isSome then pairTruth operand else
    let (number, _) ← orFail (← converterFor? operand .bool true)
    let (type, source) ← materialized g operand
    truthOf (← g.call number (some (type, source)) false [])

/-! ### References -/

/-- The address that a reference to a type has when it is one to an operand. -/
def bound (g : Grammar) (toValue : Bool) (wanted : CType) (operand : Operand) : Parse Term := do
  let through (source : Term) (type : CType) : Parse Term := do
    match type.tag?, wanted.tag? with
    | some found, some target => upcast found target source false
    | _, _ => return source
  let made : Parse Term := do
    require (toValue || wanted.isConst)
    match operand with
    | .fresh type make => do
      match type.tag?, wanted.tag? with
      | some found, some target =>
        if (baseWay? (← get).records searchDepth found target).isSome then
          upcast found target (← spare g type make) false
        else do
          let offset ← placeFor wanted.bare
          let _ := offset
          let term ← g.build wanted.bare operand (.place offset)
          return .sequence term (.place offset)
      | _, _ => spare g type make
    | operand => do
      let type := wanted.bare
      let offset ← placeFor type
      let ends ← ending g type (.place offset)
      let term ← g.build type operand (.place offset)
      if ends.isEmpty then return .sequence term (.place offset)
      else
        let flag ← place 4 4
        changeWork fun work => { work with spares := (flag, ends) :: work.spares }
        return .sequence (.sequence term (.store .int (.place flag) (.word 1))) (.place offset)
  match operand with
  | .functions numbers _ _ _ _ => do
    let number ← orFail (← functionOfType? numbers wanted)
    addressOfFunction number
  | .place type source bits isSpare => do
    match ← referenceRank? type wanted with
    | some _ =>
      if bits.isSome then made
      else if toValue then do
        require (isSpare || type.isFunction)
        through source type
      else do
        require (!isSpare || wanted.isConst)
        through source type
    | none => do
      match type.tag? with
      | some _ => do
        match ← converterFor? operand (.reference toValue wanted) false with
        | some (number, _) => do
          let result ← g.call number (some (type, source)) false []
          match result with
          | .place found source none _ => through source found
          | _ => made
        | none => made
      | none => made
  | _ => made

/-! ### Calls -/

/-- A further argument in the type in which it is passed. -/
def passed (g : Grammar) (operand : Operand) : Parse Term := do
  match operand.type.tag?, operand with
  | some _, operand => do
    let (_, source) ← materialized g operand
    return source
  | none, operand => do
    let (type, term) ← valueOf operand
    match type.arithmetic? with
    | some found =>
      let wanted := if found = .float then .double else promotedType operand found
      return convertTerm found.kind wanted.kind term
    | none => return term

/-- An argument for a parameter of a type. -/
def argument (g : Grammar) (type : CType) (operand : Operand) : Parse Term := do
  match type with
  | .reference toValue wanted => bound g toValue wanted operand
  | type =>
    match type.tag? with
    | some _ => do
      match operand with
      | .fresh found make =>
        if found.bare == type.bare then spare g type.bare make
        else do
          let offset ← placeFor type
          let term ← g.build type.bare operand (.place offset)
          return .sequence term (.place offset)
      | operand => do
        let offset ← placeFor type
        let ends ← ending g type (.place offset)
        let term ← g.build type.bare operand (.place offset)
        if ends.isEmpty then return .sequence term (.place offset)
        else
          let flag ← place 4 4
          changeWork fun work => { work with spares := (flag, ends) :: work.spares }
          return .sequence (.sequence term (.store .int (.place flag) (.word 1))) (.place offset)
    | none => convertedTo g type operand

/-- The arguments for parameters; what is not given goes without saying. -/
def argumentsFor (g : Grammar) (scope : Nat) (manner : Manner) :
    List Parameter → List Operand → Parse (List Term)
  | [], [] => return []
  | [], first :: rest => do
    require (manner.isOpen || manner.isLoose)
    let term ← passed g first
    return term :: (← argumentsFor g scope manner [] rest)
  | parameter :: parameters, [] => do
    let tokens ← orFail parameter.initial
    let operand ← inScope scope (within tokens g.initial)
    let term ← argument g parameter.type operand
    return term :: (← argumentsFor g scope manner parameters [])
  | parameter :: parameters, first :: rest => do
    let term ← argument g parameter.type first
    return term :: (← argumentsFor g scope manner parameters rest)

/-- What a call of a function with a result comes to. -/
def answered (result : CType) (call : List Term → Term) (arguments : List Term) : Operand :=
  match result with
  | .reference toValue target =>
    .place target (call arguments) none (toValue && !target.isFunction)
  | .void => .value .void (call arguments)
  | result =>
    match result.tag? with
    | some _ => .fresh result fun target => call (target :: arguments)
    | none => .value result.bare (call arguments)

/-- Calls a function. -/
def callWith (g : Grammar) (number : Nat) (object : Option (CType × Term)) (isDirect : Bool)
    (operands : List Operand) : Parse Operand := do
  let first ← functionAt number
  let isDefault : Bool := match first.body with
    | .default _ => true
    | _ => false
  let reading ← get
  let isClosure := (first.owner.bind fun owner => reading.records[owner]?).any (·.isClosure)
  require (!reading.isConstant || first.isConstexpr || isDefault || isClosure)
  if first.result.isDeduced && first.role != .constructor then g.readBody number
  let function ← functionAt number
  match function.owner with
  | some owner => checkAccess function.access owner function.name
  | none => pure ()
  let self ← match object, function.isMember with
    | some (type, source), true => do
      let found ← orFail type.tag?
      let owner ← orFail function.owner
      let source ← upcast found owner source false
      pure [source]
    | none, true => failure
    | _, false => pure []
  let arguments ← argumentsFor g function.scope function.manner function.parameters operands
  let outOfTable : Option Nat ← (do
    if function.isVirtual && !isDirect then
      let owner ← orFail function.owner
      let record ← recordAt owner
      pure (record.overridables.findIdx? fun entry => entry.function == number)
    else pure none)
  match function.isTrivial, function.body, function.role, self, arguments with
  | true, .default .create, _, _, _ => return .value .void .nothing
  | true, .default .destroy, _, _, _ => return .value .void .nothing
  | true, .default .copy, _, [target], [source] | true, .default .move, _, [target], [source] => do
    let size ← sizeOf (.record (function.owner.getD ""))
    return .value .void (.copy size target source)
  | true, .default .copyAssign, _, [target], [source]
  | true, .default .moveAssign, _, [target], [source] => do
    let tag := function.owner.getD ""
    let size ← sizeOf (.record tag)
    return .place (.record tag) (.copy size target source) none false
  | _, _, _, _, _ => do
    if !(function.nothrow || isDefault || function.role == .destructor) then noteThrow
    match outOfTable, self with
    | some index, source :: _ => do
      let (front, source) ← shared source
      let table := Term.load .address source
      let target := Term.load .address (table.shifted (8 * index))
      let call (arguments : List Term) : Term := behind front (.call target arguments)
      let arguments := source :: arguments
      return answered function.result call arguments
    | _, _ => do
      let target ← addressOfFunction number
      return answered function.result (.call target) (self ++ arguments)

/-! ### Objects -/

/-- Whether a function of a class does nothing but what everyone can see. -/
def isTrivialFunction (number : Nat) : Parse Bool := do return (← functionAt number).isTrivial

/-- The contents of a text, when an operand is one. -/
def textOf? (operand : Operand) : Parse (Option (List Nat × Nat)) := do
  match operand with
  | .place _ (.address symbol) _ _ => return (← get).texts[symbol]?
  | .braces [([], .place _ (.address symbol) _ _)] => return (← get).texts[symbol]?
  | _ => return none

/-- Makes an array of characters from a text. -/
def buildText (count : Option Nat) (item : CType) (operand : Operand) (target : Term) :
    Parse (Option Term) := do
  match ← textOf? operand with
  | none => return none
  | some (units, width) => do
    let size ← sizeOf item
    if size = width && item.isInteger then
      let total := units.length + 1
      let count := count.getD total
      if count + 1 < total then
        if ← isPlus then failure else warn ""
      else if count < total && (← isPlus) then failure
      let source ← match operand with
        | .place _ source _ _ => pure source
        | .braces [([], .place _ source _ _)] => pure source
        | _ => failure
      let copied := Term.copy (size * min count total) target source
      if count ≤ total then return some copied
      else return some (.sequence (.clear (size * count) target) copied)
    else return none

/-- Makes an object from a list that stands for a class. -/
def buildList (g : Grammar) (item : CType) (items : List (List Designator × Operand))
    (target : Term) : Parse Term := do
  let count := items.length
  let size ← sizeOf item
  let offset ← place (size * count) (← alignmentOf item)
  let terms ← items.zipIdx.mapM fun (entry, index) =>
    g.build item.bare entry.2 (.place (offset + size * index))
  let ends ← ending g (.array (some count) item) (.place offset)
  if !ends.isEmpty then
    let flag ← place 4 4
    changeWork fun work => { work with spares := (flag, ends) :: work.spares }
    let noted := Term.store .int (.place flag) (.word 1)
    return sequenced (terms ++ [noted, .store .address target (.place offset),
      .store .address (target.shifted 8) (.word count)])
  else
    return sequenced (terms ++ [.store .address target (.place offset),
      .store .address (target.shifted 8) (.word count)])

/-- The constructor that takes a list as a whole. -/
def listMaker? (tag : String) : Parse (Option (Nat × CType)) := do
  let (numbers, _) ← makersOf tag
  let found ← numbers.mapM fun number => do
    let function ← functionAt number
    match function.parameters with
    | first :: rest =>
      if rest.all (·.initial.isSome) then
        return (← listItem? first.type.referred).map fun item => (number, item)
      else return none
    | [] => return none
  return (found.filterMap id).head?

/-- Makes an object of a class from arguments. -/
def makeRecord (g : Grammar) (tag : String) (arguments : List Operand) (target : Term)
    (implicit : Bool) : Parse Term := do
  let (numbers, templates) ← makersOf tag
  let number ← chosen g numbers templates [] arguments none implicit
  match ← g.call number (some (.record tag, target)) true arguments with
  | .value _ term => return term
  | _ => failure

/-- The items of a list with what they are for. -/
abbrev Items := List (List Designator × Operand)

/-- Whether an operand can become an object of a record as a whole. -/
def fitsWhole (g : Grammar) (type : CType) (operand : Operand) : Parse Bool := do
  match type.bare with
  | .record tag =>
    match operand.type.tag? with
    | some found => if found = tag then return true else return (← rank? g operand type).isSome
    | none => if ← isPlus then return (← rank? g operand type).isSome else return false
  | .array _ item => do
    match ← textOf? operand with
    | some (_, width) => return item.isInteger && width == (← sizeOf item)
    | none => return false
  | _ => return true

/-- Whether the values of a type are listed one by one. -/
def isListed (type : CType) : Parse Bool := do
  match type.bare with
  | .array _ _ => return true
  | .record tag => return (← recordAt tag).isAggregate
  | _ => return false

/-- Whether a record has a member, perhaps in a member without a name. -/
def hasField (records : Std.TreeMap String Record) : Nat → String → String → Bool
  | 0, _, _ => false
  | fuel + 1, tag, name =>
    ((records[tag]?).map (·.fields)).getD [] |>.any fun field =>
      field.name == name || (field.name == ""
        && (field.type.tag?).any fun inner => hasField records fuel inner name)

/-- A part of an object: its type, where it is, and its bits. -/
structure Part where
  name : String
  type : CType
  offset : Nat
  bits : Option (Nat × Nat)
  initial : Option (List Token)

/-- The parts of a record that first values go to. -/
def partsOf (record : Record) : List Part :=
  let bases := record.bases.map fun base =>
    { name := "", type := .record base.tag, offset := base.offset, bits := none, initial := none }
  let fields := record.fields.filter fun field => field.name != "" || field.type.tag?.isSome
  bases ++ fields.map fun field =>
    { name := field.name, type := field.type, offset := field.offset, bits := field.bits
      initial := field.initial }

/-- Makes a part from an operand. -/
def buildPart (g : Grammar) (part : Part) (target : Term) (operand : Operand) : Parse Term :=
  match part.bits with
  | some _ => do
    let place := Operand.place part.type.bare target part.bits false
    writeTo place (← convertedTo g part.type operand) false
  | none => g.build part.type operand target

/-- Makes a part to which no first value goes. -/
def buildSilent (g : Grammar) (scope : Nat) (part : Part) (target : Term) : Parse (List Term) := do
  match part.initial with
  | some tokens => do
    let operand ← inScope scope (within tokens g.initial)
    return [← buildPart g part target operand]
  | none =>
    if part.type.isReference then failure
    else if (← isPlus) && part.bits.isNone then
      match part.type.tag? with
      | some _ => return [← g.start true part.type target]
      | none => return []
    else return []

/-- An object that is made part by part. -/
structure Filling where
  /-- Whether the list is for this object alone. -/
  isOuter : Bool
  target : Term
  record : Option Record
  parts : List Part
  item : CType
  size : Nat
  limit : Option Nat

/-- The part at a position. -/
def Filling.part? (filling : Filling) (index : Nat) : Option Part :=
  if filling.record.isSome then filling.parts[index]?
  else
    some { name := "", type := filling.item, offset := filling.size * index, bits := none
           initial := none }

/-- An object of a type as one that is made part by part. -/
def fillingOf (isOuter : Bool) (type : CType) (target : Term) : Parse Filling := do
  let reading ← get
  let record := (type.bare.tag?).bind (reading.records[·]?)
  let parts := (record.map partsOf).getD []
  let item := (type.bare.item?).getD .int
  let limit : Option Nat := match type.bare with
    | .array count _ => count
    | _ => some (if (record.any (·.isUnion)) && !parts.isEmpty then 1 else parts.length)
  return { isOuter, target, record, parts, item, size := ← sizeOf item, limit }

/-- What has been made of an object. -/
structure Filled where
  terms : List Term := []
  /-- How many parts there are at least. -/
  most : Nat := 0
  done : List Nat := []

/-- Notes terms for parts. -/
def Filled.with (filled : Filled) (terms : List Term) (first last : Nat) : Filled :=
  { terms := filled.terms ++ terms, most := max filled.most (last + 1)
    done := (List.range (last + 1 - first)).map (first + ·) ++ filled.done }

/-- The parts that a designator tells, and the designators inside them. -/
def designated? (filling : Filling) (records : Std.TreeMap String Record) (designator : Designator)
    (inner : List Designator) : Option (Nat × Nat × List Designator) :=
  match designator, filling.record with
  | .items first last, none =>
    if first ≤ last && filling.limit.all (last < ·) then some (first, last, inner) else none
  | .member name, some _ => do
    let index ← filling.parts.findIdx? fun part =>
      part.name == name || (part.name == ""
        && (part.type.tag?).any fun tag => hasField records searchDepth tag name)
    let own := (filling.part? index).any fun part => part.name == name
    return (index, index, if own then inner else designator :: inner)
  | _, _ => none

mutual

/-- Makes the parts of an object of zeros from the items of a list: the terms, the items that are
left, and how many parts there are. `isLed` when the first item tells its part. -/
def fill (g : Grammar) : Nat → Bool → Bool → CType → Term → Items → Parse (List Term × Items × Nat)
  | 0, _, _, _, _, _ => failure
  | fuel + 1, isOuter, isLed, type, target, items => do
    let filling ← fillingOf isOuter type target
    let (filled, left) ← fillFrom g fuel filling 0 isLed {} items
    let silent ← (do
      match filling.record with
      | some record =>
        if (← isPlus) && !record.isUnion then
          filling.parts.zipIdx.mapM fun (part, index) =>
            if filled.done.contains index then pure []
            else buildSilent g record.scope part (target.shifted part.offset)
        else pure []
      | none => pure [])
    return (filled.terms ++ silent.flatten, left, filled.most)

/-- Makes parts from a position on. -/
def fillFrom (g : Grammar) : Nat → Filling → Nat → Bool → Filled → Items → Parse (Filled × Items)
  | 0, _, _, _, _, _ => failure
  | _ + 1, _, _, _, filled, [] => return (filled, [])
  | fuel + 1, filling, _, isLed, filled, (designator :: inner, operand) :: rest => do
    if !filling.isOuter && !isLed then return (filled, (designator :: inner, operand) :: rest)
    else
      let records := (← get).records
      let (first, last, inner) ← orFail (designated? filling records designator inner)
      let (terms, left) ← fillRange g fuel filling first (last + 1 - first) inner operand rest
      fillFrom g fuel filling (last + 1) false (filled.with terms first last) left
  | fuel + 1, filling, position, _, filled, ([], operand) :: rest => do
    if filling.limit.any (· ≤ position) then
      if !filling.isOuter then return (filled, ([], operand) :: rest)
      else if ← isPlus then failure
      else
        warn ""
        return (filled, [])
    else
      let part ← orFail (filling.part? position)
      let (terms, left) ← fillOne g fuel part filling.target [] operand rest
      fillFrom g fuel filling (position + 1) false (filled.with terms position position) left

/-- Makes so many parts from one item and those behind it. -/
def fillRange (g : Grammar) :
    Nat → Filling → Nat → Nat → List Designator → Operand → Items → Parse (List Term × Items)
  | 0, _, _, _, _, _, _ => failure
  | _ + 1, _, _, 0, _, _, rest => return ([], rest)
  | fuel + 1, filling, position, count + 1, inner, operand, rest => do
    let part ← orFail (filling.part? position)
    let (terms, left) ← fillOne g fuel part filling.target inner operand rest
    if count = 0 then return (terms, left)
    else
      let (others, left) ← fillRange g fuel filling (position + 1) count inner operand rest
      return (terms ++ others, left)

/-- Makes one part from an item and those behind it. -/
def fillOne (g : Grammar) :
    Nat → Part → Term → List Designator → Operand → Items → Parse (List Term × Items)
  | 0, _, _, _, _, _ => failure
  | fuel + 1, part, outer, inner, operand, rest => do
    let target := outer.shifted part.offset
    let whole : Parse (List Term × Items) := do return ([← buildPart g part target operand], rest)
    if !inner.isEmpty then
      let (terms, left, _) ← fill g fuel false true part.type target ((inner, operand) :: rest)
      return (terms, left)
    else
      match operand with
      | .braces _ => whole
      | operand => do
        if part.bits.isSome || !(← isListed part.type) then whole
        else if ← fitsWhole g part.type operand then whole
        else
          let (terms, left, _) ← fill g fuel false false part.type target (([], operand) :: rest)
          return (terms, left)

end

/-- More steps than a list of first values takes. -/
def fillFuel : Nat := 200000

/-- Makes an array or a record part by part. -/
def buildParts (g : Grammar) (type : CType) (items : Items) (target : Term) : Parse Term := do
  let (terms, left, _) ← fill g fillFuel true false type target items
  require left.isEmpty
  let size ← sizeOf type
  return sequenced (.clear size target :: terms)

/-- How many items an array has that is made from an operand. -/
def countFor (g : Grammar) (item : CType) (operand : Operand) : Parse Nat := do
  match ← textOf? operand with
  | some (units, _) => return units.length + 1
  | none =>
    match operand with
    | .braces items => do
      let saved ← get
      let (_, _, most) ← fill g fillFuel true false (.array none item) .nothing items
      set saved
      return most
    | _ => failure

/-! ### Making objects -/

/-- Copies an array item by item. -/
def copyItems (g : Grammar) (count : Nat) (item : CType) (source target : Term) (isSpare : Bool) :
    Parse Term := do
  let size ← sizeOf item
  let base ← place 8 8
  let other := Term.load .address (.place base)
  let steps ← eachItem (.word count) size target false fun place => do
    let distance := Term.binary .sub .address place target
    let origin := Term.binary .add .address other distance
    return stepsOf (← g.build item.bare (.place item origin none isSpare) place)
  return .sequence (.storeLate .address (.place base) source) (.after steps .nothing)

/-- Makes an object of a type from an operand at an address. -/
def buildWith (g : Grammar) (type : CType) (operand : Operand) (target : Term) : Parse Term := do
  match type with
  | .reference toValue wanted => return .storeLate .address target (← bound g toValue wanted operand)
  | type =>
    match type.bare with
    | .array count item => do
      match ← buildText count item operand target with
      | some term => return term
      | none =>
        match operand with
        | .braces items => buildParts g type items target
        | .place (.array other inner) source none isSpare => do
          require (count == other && inner.bare == item.bare)
          if item.tag?.isSome then
            let (front, source) ← shared source
            let (more, target) ← shared target
            return behind front (behind more
              (← copyItems g (count.getD 0) item source target isSpare))
          else return .copy (← sizeOf type) target source
        | _ => failure
    | .record tag => do
      let record ← recordAt tag
      require record.isComplete
      let plus ← isPlus
      let listed : Bool := match operand with
        | .braces _ => record.isAggregate
        | _ => false
      match if listed then none else record.lanes with
      | some lanes => laneBuild lanes operand target
      | none =>
      match operand with
      | .fresh found make => do
        if found.tag? == some tag then return make target
        else do
          require plus
          match ← converterFor? operand type.bare false with
          | some (number, _) => do
            let (found, source) ← materialized g operand
            g.build type (← g.call number (some (found, source)) false []) target
          | none => makeRecord g tag [operand] target true
      | .braces items => do
        if !plus || record.lanes.isSome then buildParts g type items target
        else
          let listed ← listMaker? tag
          match ← listItem? type, items, listed with
          | some item, items, _ => buildList g item items target
          | none, [], _ =>
            if record.isAggregate then buildParts g type [] target else g.start true type target
          | none, items, found => do
            match items with
            | [([], inner)] =>
              if inner.type.tag? == some tag then g.build type inner target
              else if record.isAggregate then buildParts g type items target
              else byList items found tag
            | _ =>
              if record.isAggregate then buildParts g type items target
              else byList items found tag
      | operand => do
        if !plus then
          match operand with
          | .place found source none _ => do
            require (found.tag? == some tag)
            return .copy record.size target source
          | _ => failure
        else
          match operand.type.tag? with
          | some found => do
            if found = tag || (← continues found tag) then
              makeRecord g tag [operand] target true
            else
              match ← converterFor? operand type.bare false with
              | some (number, _) => do
                let (found, source) ← materialized g operand
                g.build type (← g.call number (some (found, source)) false []) target
              | none => makeRecord g tag [operand] target true
          | none => makeRecord g tag [operand] target true
    | .void => failure
    | bare => do
      let kind ← orFail bare.kind?
      return .storeLate kind target (← convertedTo g type operand)
where
  /-- Makes an object of a class from the items of a list. -/
  byList (items : Items) (found : Option (Nat × CType)) (tag : String) : Parse Term := do
    let whole ← (do
      match found with
      | some (number, item) => do
        let ranks ← items.mapM fun entry => rank? g entry.2 item
        pure (if ranks.all (·.isSome) then some (number, item) else none)
      | none => pure none)
    match whole with
    | some (number, _) => do
      match ← g.call number (some (.record tag, target)) true [operand] with
      | .value _ term => return term
      | _ => failure
    | none => makeRecord g tag (items.map (·.2)) target false

/-- Makes an object of a type from arguments at an address. -/
def makeWith (g : Grammar) (type : CType) (arguments : List Operand) (target : Term) :
    Parse Term := do
  match type.bare, arguments with
  | _, [] => g.start true type target
  | .record tag, [.fresh found make] =>
    if found.tag? == some tag then return make target
    else makeClass tag
  | .record tag, _ => makeClass tag
  | _, [operand] => g.build type operand target
  | _, _ => failure
where
  /-- Makes an object of a class. -/
  makeClass (tag : String) : Parse Term := do
    let record ← recordAt tag
    require record.isComplete
    let byMaker ← trial (makeRecord g tag arguments target false)
    match byMaker with
    | some _ => makeRecord g tag arguments target false
    | none => do
      match arguments with
      | [operand] => do
        match ← converterFor? operand type.bare true with
        | some (number, _) => do
          let (found, source) ← materialized g operand
          g.build type (← g.call number (some (found, source)) false []) target
        | none => do
          require record.isAggregate
          require (2020 ≤ (← get).options.year)
          buildParts g type (arguments.map fun operand => ([], operand)) target
      | _ => do
        require record.isAggregate
        require (2020 ≤ (← get).options.year)
        buildParts g type (arguments.map fun operand => ([], operand)) target

/-- Makes an object of a type without a value at an address; `clears` when it is zero then. -/
def startWith (g : Grammar) (clears : Bool) (type : CType) (target : Term) : Parse Term := do
  match type.bare with
  | .record tag => do
    let record ← recordAt tag
    require record.isComplete
    let (numbers, templates) ← makersOf tag
    if record.lanes.isSome || !(← isPlus) then return if clears then .clear record.size target else .nothing
    else
      let number ← chosen g numbers templates [] [] none false
      let function ← functionAt number
      let cleared := if clears && !record.isMade then [Term.clear record.size target] else []
      if function.isTrivial then return sequenced cleared
      else
        match ← g.call number (some (.record tag, target)) true [] with
        | .value _ term => return sequenced (cleared ++ [term])
        | _ => failure
  | .array count item => do
    let size ← sizeOf type
    let cleared := if clears then [Term.clear size target] else []
    match item.bare with
    | .record _ | .array _ (.record _) | .array _ (.array _ _) => do
      let (front, target) ← shared target
      let probe ← g.start clears item target
      if (stepsOf probe).isEmpty then return sequenced cleared
      else
        let steps ← eachItem (.word (count.getD 0)) (← sizeOf item) target false fun place => do
          return stepsOf (← g.start clears item place)
        return behind front (.after steps .nothing)
    | _ => return sequenced cleared
  | .reference _ _ => failure
  | .void | .function _ _ _ => failure
  | bare => do
    if clears then
      let kind ← orFail bare.kind?
      let zero : Term := match kind, bare with
        | .real _, _ => .real 0
        | _, .memberPointer _ (.function _ _ _) => .word 0
        | _, .memberPointer _ _ => .word (Code.range 8 - 1)
        | _, _ => .word 0
      return .store kind target zero
    else return .nothing

end Parse

end KernelCache.C
