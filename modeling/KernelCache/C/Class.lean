import KernelCache.C.Statement
import KernelCache.C.Layout

/-
**Members of structures, unions and classes.**

* `Parse.membersHere` reads the members of a record and lays it out.
* `Parse.completeClass` adds the functions of a class that nobody wrote.
* `Parse.inheritMakers` makes the functions that make objects of one class make those of another.
-/

namespace KernelCache.C

open KernelCache.Code (Term Value Kind Instruction Linkage)

namespace Parse

/-! ### Functions -/

/-- The tokens of the body of a function, and those in front of it that start members. -/
def bodyTokens : Parse (List Token × List Token) := do
  let starts ← (do
    if ← option ":" then
      let items ← separatedItems ((← get).tokens.length + 1)
      pure items
    else pure [] : Parse (List Token))
  require (← sees "\x7b")
  return (starts, ← balanced)
where
  /-- The tokens of items with commas between them. -/
  separatedItems : Nat → Parse (List Token)
    | 0 => failure
    | fuel + 1 => do
      let reading ← get
      let name := reading.tokens.takeWhile fun token => token != .mark "(" && token != .mark "\x7b"
      skip name.length
      let inner ← balanced
      let dots ← option "..."
      let item := name ++ inner ++ (if dots then [.mark "..."] else [])
      if ← option "," then return item ++ .mark "," :: (← separatedItems fuel)
      else return item

/-- What says whether one function replaces another one. -/
def overrideKey (function : Function) : String :=
  if function.role == .destructor then "~"
  else
    let types := function.parameters.map fun parameter => Symbol.ofType parameter.type.bare
    let name := if function.role == .conversion then "operator " ++ Symbol.ofType function.result
      else function.name
    name ++ "(" ++ ",".intercalate types ++ ")" ++ (if function.manner.isConst then "c" else "")

/-- The function of a class that continues, or that it continues, under a key. -/
def inheritedSlot? (records : Std.TreeMap String Record) (key : String) (bases : List Base) :
    Option Nat :=
  bases.findSome? fun base => overrider? records key searchDepth base.tag

/-- Notes that a function is found at run time. -/
def noteVirtual (tag : String) (number : Nat) (tail : Tail) (written : Bool) : Parse Unit := do
  let function ← functionAt number
  let record ← recordAt tag
  let key := overrideKey function
  let records := (← get).records
  let isCandidate := function.isMember && function.role != .constructor
  match if isCandidate then inheritedSlot? records key record.bases else none with
  | some old => do
    let replaced ← functionAt old
    require !replaced.isFinal
    changeFunction number fun function => { function with isVirtual := true }
  | none => do
    require (!tail.isOverride && (!tail.isFinal || written))
    if written then changeFunction number fun function => { function with isVirtual := true }
  if (← functionAt number).isVirtual then
    changeRecord tag fun record =>
      let entry : Overridable := { key, function := number }
      let known := record.overridables.any fun entry => entry.key == key
      { record with
        hasTable := true
        overridables := if known then
            record.overridables.map fun old => if old.key == key then entry else old
          else record.overridables ++ [entry] }

/-- What a function without a body of its own does by its parameters. -/
def defaultFor? (tag : String) (function : Function) : Option Default :=
  let own (type : CType) : Bool := type.bare.tag? == some tag
  let kindOf : Option Bool := match function.parameters with
    | [parameter] =>
      match parameter.type with
      | .reference toValue target => if own target then some toValue else none
      | type => if own type then some false else none
    | _ => none
  match function.role, function.name with
  | .constructor, _ =>
    match function.parameters, kindOf with
    | [], _ => some .create
    | _, some true => some .move
    | _, some false => some .copy
    | _, none => none
  | .destructor, _ => some .destroy
  | .ordinary, "operator=" => kindOf.map fun toValue => if toValue then .moveAssign else .copyAssign
  | .ordinary, "operator==" => some .compareEqual
  | _, _ => none

/-- Reads what stands behind the declaration of a function of a class. -/
def memberBody (tag : String) (number : Nat) (isFriend : Bool) : Parse Unit := do
  let record ← recordAt tag
  if ← option "=" then
    if ← optionWord "default" then
      let function ← functionAt number
      let kind ← orFail (defaultFor? tag function)
      changeFunction number fun function => { function with
        body := .default kind, linkage := .shared, isInline := true }
    else if ← optionWord "delete" then
      changeFunction number fun function => { function with body := .deleted }
    else
      match ← token with
      | .number "0" => do
        require (← functionAt number).isVirtual
        changeFunction number fun function => { function with isPure := true }
      | _ => failure
    mark ";"
  else if (← sees "\x7b") || (← sees ":") then
    let (starts, body) ← bodyTokens
    discard (option ";")
    let lazy := record.isLazy
    changeFunction number fun function => { function with
      body := if lazy then .onDemand starts body else .tokens starts body
      linkage := if function.linkage == .outer then .shared else function.linkage
      isInline := true
      scope := if isFriend then record.scope else function.scope }
    if !lazy then
      modify fun reading => { reading with later := number :: reading.later }
  else mark ";"

/-! ### Members -/

/-- Whether a type has functions that make objects of it. -/
def hasMakers (tag : String) : Parse Bool := do
  let (numbers, templates) ← makersOf tag
  return !(numbers.isEmpty && templates.isEmpty)

/-- Makes the members of a record without a name known in the record around it. -/
def bindInner (tag : String) : Nat → String → Parse Unit
  | 0, _ => failure
  | fuel + 1, inner => do
    let record ← recordAt inner
    let outer ← recordAt tag
    record.fields.forM fun field => do
      if field.name = "" then
        match field.type.tag? with
        | some other => bindInner tag fuel other
        | none => pure ()
      else
        require ((← scopeAt outer.scope).names[field.name]?).isNone
        bindIn outer.scope field.name .field

/-- A member of a declaration without a name. -/
def namelessMember (tag : String) (found : Specifiers) : Parse (List Member) := do
  match found.type with
  | some type =>
    match type.tag? with
    | some inner => do
      let record ← recordAt inner
      if record.name = "" && record.isComplete then
        bindInner tag searchDepth inner
        let field : Field := { name := "", type, offset := 0, access := (← get).access }
        return [{ field, aligned := found.attributes.aligned }]
      else return []
    | none => do
      require (type.isEnumeration || type.isOpenType)
      return []
  | none => failure

/-- Makes a variable of a class known. -/
def staticMember (g : Grammar) (tag : String) (found : Specifiers) (declarator : Declarator)
    (type : CType) : Parse Unit := do
  let record ← recordAt tag
  let name := declarator.name
  require (name != "")
  let reading ← get
  let type := if found.isConstexpr then type.constant else type
  let symbol := Symbol.ofObject record.path name
  let number ← fresh
  let declare (type : CType) (value : Option Value) : Parse Unit :=
    bindIn record.scope name (.object
      { number, name, type, home := .symbol symbol, value, isConstexpr := found.isConstexpr
        access := reading.access, owner := some tag })
  if !type.isDeduced then declare type none
  let first ← firstHere g
  match first with
  | .silent =>
    if found.isInline then
      define symbol type first declare
    else pure ()
  | first => do
    let type ← typeFrom g type first
    require (found.isInline || found.isConstexpr || type.isConst)
    define symbol type first declare
where
  /-- Gives the variable a place and its first value. -/
  define (symbol : String) (type : CType) (first : First)
      (declare : CType → Option Value → Parse Unit) : Parse Unit := do
    let isOwn := found.isInline || found.isConstexpr
    let value ← knownValue? g type first found.isConstexpr
    declare type value
    if isOwn then
      let steps ← fillObject g symbol type first
      let object : Code.Object :=
        { symbol, linkage := .shared, size := ← sizeOf type, alignment := ← alignmentOf type
          isConstant := type.isConst && steps.isEmpty && !type.isReference }
      addObject object
      let guarded ← (do
        if steps.isEmpty then pure []
        else
          let guard := symbol ++ ".guard"
          addObject { symbol := guard, linkage := .shared, size := 1, alignment := 1 }
          let test := (Term.load .truth (.address guard)).instructions
          let once := steps ++ (Term.store .truth (.address guard) (.word 1)).effect
          pure (test ++ .skipIf true once.length :: once) : Parse (List Instruction))
      if !guarded.isEmpty then
        modify fun reading => { reading with
          starts := reading.starts ++ [(symbol, guarded)]
          presetRoom := max reading.presetRoom reading.work.room }

/-- Reads one name of a member with what is behind it. -/
def memberItem (g : Grammar) (tag : String) (found : Specifiers) : Parse (List Member × Bool) := do
  let plus ← isPlus
  let declarator ← (do
    if ← sees ":" then pure {} else declarator g : Parse Declarator)
  let attributes := found.attributes.and declarator.attributes
  let reading ← get
  if isFunctionShape declarator && plus then
    let intent ← orFail (← intentOf? found declarator)
    let number ← declareFunction intent
    noteVirtual tag number intent.tail found.isVirtual
    memberBody tag number false
    return ([], true)
  else
    let base ← orFail found.type
    let type := base.shaped declarator.shapes
    if type.isFunction && plus then
      let parts := match type with
        | .function result parameters manner => some (result, parameters, manner)
        | _ => none
      let (result, parameters, manner) ← orFail parts
      let shape := Shape.function (parameters.map fun type => { type, name := "" }) { manner }
      let found := { found with type := some result }
      let intent ← orFail (← intentOf? found { declarator with shapes := [shape] })
      let number ← declareFunction intent
      noteVirtual tag number intent.tail found.isVirtual
      memberBody tag number false
      return ([], true)
    else if found.isStatic && plus then
      staticMember g tag found declarator type
      return ([], false)
    else
      require (!type.isFunction && !type.isVoid)
      let width ← (do
        if ← option ":" then
          let (kind, value) ← g.constant
          require kind.isInteger
          let width := integerOf kind value
          require (0 ≤ width && type.isInteger)
          require (width.toNat ≤ 8 * (← sizeOf type) || plus)
          require (width != 0 || declarator.name == "")
          pure (some width.toNat)
        else pure none : Parse (Option Nat))
      let after ← Parse.attributes g
      let attributes := attributes.and after
      require (width.isSome || declarator.name != "")
      let initial ← (do
        if !plus then pure none
        else if ← option "=" then
          let tokens ← itemTokens
          require !tokens.isEmpty
          pure (some tokens)
        else if ← sees "\x7b" then pure (some (← balanced))
        else pure none : Parse (Option (List Token)))
      let isFlexible := match type.bare with
        | .array none _ => true
        | _ => false
      require (isFlexible || (← isComplete type))
      let record ← recordAt tag
      if declarator.name != "" then
        let isFree : Bool := match (← scopeAt record.scope).names[declarator.name]? with
          | some (.type _ _) => plus
          | some _ => false
          | none => true
        require isFree
        bindIn record.scope declarator.name .field
      let field : Field :=
        { name := declarator.name, type, offset := 0, access := reading.access
          isMutable := found.isMutable, initial }
      return ([{ field, width, aligned := attributes.aligned, isPacked := attributes.isPacked }],
        false)

/-- Reads the names of members behind the words in front of them. -/
def memberItems (g : Grammar) (tag : String) (found : Specifiers) :
    Nat → List Member → Parse (List Member)
  | 0, _ => failure
  | fuel + 1, done => do
    let (members, isClosed) ← memberItem g tag found
    let done := done ++ members
    if isClosed then return done
    else if ← option "," then memberItems g tag found fuel done
    else
      mark ";"
      return done

/-- Makes a class or a function a friend. -/
def friendHere (g : Grammar) (tag : String) : Parse Unit := do
  let record ← recordAt tag
  let reading ← get
  let home := spaceOf reading searchDepth record.scope
  let note (names : List String) : Parse Unit :=
    changeRecord tag fun record => { record with friends := names ++ record.friends }
  match reading.tokens with
  | .name "class" :: _ | .name "struct" :: _ | .name "union" :: _ => do
    skip 1
    let found ← optional (do
      let type ← namedType g
      mark ";"
      return type)
    match found with
    | some type => do
      let name := ((type.tag?).bind (reading.records[·]?)).map (·.name)
      note (type.tag?.toList ++ name.toList)
    | none => do
      let name ← identifier
      mark ";"
      let other ← newRecord home name false true .everyone
      note [other, name]
  | .name "template" :: _ => do
    let tokens := reading.tokens.takeWhile fun token =>
      token != .mark ";" && token != .mark "\x7b"
    let names := tokens.filterMap fun token => match token with
      | .name name => some name
      | _ => none
    note names
    let isDefined := reading.tokens.drop tokens.length |>.head? |> (· == some (.mark "\x7b"))
    let isFunction := tokens.contains (.mark "(")
    if isFunction && isDefined then
      modify fun reading => { reading with tokens := .name "friend" :: reading.tokens }
      g.template
    else
      skip tokens.length
      mark ";"
  | _ => do
    let found ← specifiers g
    if ← option ";" then
      let type ← orFail found.type
      note type.tag?.toList
    else
      let declarator ← declarator g
      let intent? ← intentOf? found declarator
      match intent? with
      | none => failure
      | some intent => do
        let isQualified : Bool := match declarator.place with
          | .inside _ => true
          | _ => false
        let intent := if isQualified then intent
          else { intent with scope := home, owner := none, access := .everyone }
        note [keyOf declarator.naming]
        let number ← (do
          if isQualified then pure 0
          else declareFunction intent : Parse Nat)
        if isQualified then mark ";"
        else memberBody tag number true

/-- Reads members up to the closing brace. -/
def membersUpTo (g : Grammar) (tag : String) : Nat → List Member → Parse (List Member)
  | 0, _ => failure
  | fuel + 1, done => do
    let reading ← get
    let plus := reading.options.isPlus
    match reading.tokens with
    | .mark "\x7d" :: _ => do
      skip 1
      return done
    | .mark ";" :: _ => do
      skip 1
      membersUpTo g tag fuel done
    | .name "public" :: .mark ":" :: _ | .name "protected" :: .mark ":" :: _
    | .name "private" :: .mark ":" :: _ => do
      require plus
      let access ← orFail (← accessWord?)
      mark ":"
      modify fun reading => { reading with access }
      membersUpTo g tag fuel done
    | .name "__pragma_pack" :: _ => do
      g.pragma
      membersUpTo g tag fuel done
    | .name "friend" :: _ =>
      if plus then
        skip 1
        if ← abbreviatedHere then pure ()
        friendHere g tag
        membersUpTo g tag fuel done
      else failure
    | .name "using" :: _ =>
      if plus then
        usingHere g
        membersUpTo g tag fuel done
      else failure
    | .name "template" :: _ =>
      if plus then
        g.template
        membersUpTo g tag fuel done
      else failure
    | _ => do
      if ← seesStaticCheck then
        staticCheck g
        membersUpTo g tag fuel done
      else if plus && (← abbreviatedHere) then
        g.template
        membersUpTo g tag fuel done
      else
        let found ← specifiers g
        if ← option ";" then
          let members ← namelessMember tag found
          membersUpTo g tag fuel (done ++ members)
        else if found.isTypeName then
          discard (separated (do bindTypeName found (← declarator g)))
          mark ";"
          membersUpTo g tag fuel done
        else if found.isFriend then
          let declarator ← declarator g
          let intent ← orFail (← intentOf? found declarator)
          let home := spaceOf (← get) searchDepth (← recordAt tag).scope
          changeRecord tag fun record => { record with
            friends := keyOf declarator.naming :: record.friends }
          let number ← declareFunction
            { intent with scope := home, owner := none, access := .everyone }
          memberBody tag number true
          membersUpTo g tag fuel done
        else
          let members ← memberItems g tag found ((← get).tokens.length + 1) []
          membersUpTo g tag fuel (done ++ members)

/-! ### Functions that nobody wrote -/

/-- The functions of a class in its own scope under a name. -/
def ownFunctions (tag name : String) : Parse (List Function) := do
  let record ← recordAt tag
  match (← scopeAt record.scope).names[name]? with
  | some (.functions numbers _) => numbers.mapM functionAt
  | _ => return []

/-- The function of a class that does something by default, wherever it comes from. -/
def partFunction? (kind : Default) (type : CType) : Parse (Option Function) := do
  let rec itemOf : CType → CType
    | .array _ item => itemOf item
    | .const type => itemOf type
    | other => other
  match itemOf type with
  | .record tag => do
    match kind with
    | .destroy => do
      match (← recordAt tag).destructor with
      | some number => return some (← functionAt number)
      | none => return none
    | kind => do
      let name := match kind with
        | .create | .copy | .move => makerName
        | _ => "operator="
      let functions ← ownFunctions tag name
      let found := functions.find? fun function => match kind with
        | .create => takes function 0 && function.role == .constructor
        | kind => defaultFor? tag function == some kind
      match found, kind with
      | none, .move => return (functions.find? fun function => defaultFor? tag function == some .copy)
      | none, .moveAssign =>
        return (functions.find? fun function => defaultFor? tag function == some .copyAssign)
      | found, _ => return found
  | _ => return none

/-- The types of the parts of an object. -/
def partTypes (record : Record) : List CType :=
  record.bases.map (fun base => CType.record base.tag)
    ++ record.fields.map fun field => field.type

/-- Whether a function is deleted. -/
def isDeleted (function : Function) : Bool :=
  match function.body with
  | .deleted => true
  | _ => false

/-- Whether a default function of a class does no more than copy octets, or nothing. -/
def isPlain (record : Record) (kind : Default) : Parse Bool := do
  if record.hasTable && kind != .destroy && kind != .copyAssign && kind != .moveAssign then
    return false
  else if kind == .compareEqual then return false
  else
    let parts ← (partTypes record).mapM fun type => do
      match kind, type with
      | .copyAssign, .reference _ _ | .moveAssign, .reference _ _ => return true
      | _, type =>
        match ← partFunction? kind type with
        | some function => return function.isTrivial
        | none => return true
    let silent := kind != .create || record.fields.all fun field => field.initial.isNone
    return silent && parts.all id

/-- Whether a default function of a class cannot be. -/
def isImpossible (record : Record) (kind : Default) : Parse Bool := do
  let parts ← (partTypes record).mapM fun type => do
    match kind, type with
    | .copyAssign, .reference _ _ | .moveAssign, .reference _ _ => return true
    | .copyAssign, .const _ | .moveAssign, .const _ => return true
    | .copy, .reference true _ => return true
    | .create, .reference _ _ => return true
    | kind, type =>
      match ← partFunction? kind type with
      | some function =>
        return isDeleted function || (function.access == .nobody && kind != .destroy)
      | none =>
        match kind, type.bare.tag? with
        | .create, some tag => hasMakers tag
        | _, _ => return false
  let reached := match kind with
    | .create => record.fields.any fun field => field.type.isReference && field.initial.isNone
    | _ => false
  let references := match kind with
    | .create => parts.zip (partTypes record) |>.any fun (bad, type) => bad && !type.isReference
    | _ => parts.any id
  return references || reached

/-- Adds a function that nobody wrote. -/
def addDefault (tag : String) (kind : Default) (isVirtual : Bool) : Parse Nat := do
  let record ← recordAt tag
  let number ← fresh
  let own := CType.record tag
  let (name, role, types, result) : String × Role × List CType × CType := match kind with
    | .create => (makerName, .constructor, [], .void)
    | .copy => (makerName, .constructor, [.reference false own.constant], .void)
    | .move => (makerName, .constructor, [.reference true own], .void)
    | .copyAssign => ("operator=", .ordinary, [.reference false own.constant], .reference false own)
    | .moveAssign => ("operator=", .ordinary, [.reference true own], .reference false own)
    | .destroy => (enderName, .destructor, [], .void)
    | .compareEqual => ("operator==", .ordinary, [.reference false own.constant], .bool)
  let symbol := Symbol.ofFunction record.path name role true false result types false
  let isLocal := record.path.any fun part => part.toList.contains '#'
  let impossible ← isImpossible record kind
  let isTrivial ← isPlain record kind
  let function : Function :=
    { number, name, symbol, result, parameters := types.map fun type => { type, name := "" }
      owner := some tag, role, isMember := true, isVirtual, isTrivial := isTrivial && !isVirtual
      linkage := if isLocal then .inner else .shared, scope := record.scope
      body := if impossible then .deleted else .default kind, isInline := true
      isConstexpr := true }
  modify fun reading => { reading with functions := reading.functions.insert number function }
  let old := (← scopeAt record.scope).names[name]?
  bindIn record.scope name (joinedEntity old (.functions [number] []))
  return number

/-- Adds the functions of a class that nobody wrote. -/
def completeClass (tag : String) : Parse Unit := do
  let makers ← ownFunctions tag makerName
  let (_, makerTemplates) ← makersOf tag
  let assigns ← ownFunctions tag "operator="
  let enders ← ownFunctions tag enderName
  let isWritten (functions : List Function) (kind : Default) : Bool :=
    functions.any fun function => defaultFor? tag function == some kind
  let hasCopy := isWritten makers .copy
  let hasMove := isWritten makers .move
  let hasCopyAssign := isWritten assigns .copyAssign
  let hasMoveAssign := isWritten assigns .moveAssign
  -- What is written as a default is as plain as one that nobody wrote.
  (makers ++ assigns ++ enders).forM fun function => do
    match function.body with
    | .default kind => do
      let record ← recordAt tag
      let isTrivial ← isPlain record kind
      let impossible ← isImpossible record kind
      changeFunction function.number fun function => { function with
        isTrivial := isTrivial && !function.isVirtual
        body := if impossible then .deleted else function.body }
    | _ => pure ()
  let isMade := !makers.isEmpty || !makerTemplates.isEmpty
  let year := (← get).options.year
  let isProvided (function : Function) : Bool :=
    match function.body with
    | .default _ | .deleted => 2020 ≤ year
    | _ => true
  let record ← recordAt tag
  let isAggregate := !(makers.any isProvided) && makerTemplates.isEmpty && !record.hasTable && (record.fields.all fun field => field.access == .everyone)
    && (record.bases.all fun base => base.access == .everyone && !base.isShared)
    && !(makers.any (·.isExplicit)) && (2017 ≤ year || record.bases.isEmpty)
    && (2014 ≤ year || record.fields.all fun field => field.initial.isNone)
  changeRecord tag fun record => { record with isMade, isAggregate }
  match enders with
  | function :: _ =>
    changeRecord tag fun record => { record with
      destructor := if function.isTrivial then none else some function.number }
  | [] => do
    let records := (← get).records
    let record ← recordAt tag
    let isVirtual := (inheritedSlot? records "~" record.bases).isSome
    let plain ← isPlain record .destroy
    let parts := (partTypes record).any fun type => (enderOf? records type).isSome
    if (parts && !record.isUnion) || isVirtual || !plain then
      let number ← addDefault tag .destroy isVirtual
      changeRecord tag fun record => { record with destructor := some number }
      if isVirtual then noteVirtual tag number {} true
  if !isMade then discard (addDefault tag .create false)
  let isMoved := hasMove || hasMoveAssign
  if !hasCopy then
    let number ← addDefault tag .copy false
    if isMoved then changeFunction number fun function => { function with body := .deleted }
  if !hasCopyAssign then
    let number ← addDefault tag .copyAssign false
    if isMoved then changeFunction number fun function => { function with body := .deleted }
  let isOwn := hasCopy || hasCopyAssign || !enders.isEmpty
  if !hasMove && !hasMoveAssign && !isOwn then
    let number ← addDefault tag .move false
    let function ← functionAt number
    if isDeleted function then dropFunction tag makerName number
    let number ← addDefault tag .moveAssign false
    let function ← functionAt number
    if isDeleted function then dropFunction tag "operator=" number
where
  /-- Takes a function out of a class. -/
  dropFunction (tag name : String) (number : Nat) : Parse Unit := do
    let record ← recordAt tag
    match (← scopeAt record.scope).names[name]? with
    | some (.functions numbers templates) =>
      bindIn record.scope name (.functions (numbers.filter (· != number)) templates)
    | _ => pure ()

/-- Makes the functions that make objects of one class make those of another one. -/
def inheritMakers (tag base : String) (numbers _templates : List Nat) : Parse Unit := do
  let record ← recordAt tag
  let other ← recordAt base
  numbers.forM fun number => do
    let function ← functionAt number
    let isCopy := match defaultFor? base function with
      | some .copy | some .move | some .create => true
      | _ => false
    if !isCopy then
      let named := function.parameters.zipIdx.map fun (parameter, index) =>
        { parameter with name := "(given" ++ toString index ++ ")" }
      let given := named.map fun parameter => ([.name "static_cast", .mark "<", .name "decltype",
        .mark "(", .name parameter.name, .mark ")", .mark "&&", .mark ">", .mark "(",
        .name parameter.name, .mark ")"] : List Token)
      let tokens := List.intercalate [Token.mark ","] given
      let starts : List Token := .name "(base)" :: .mark "(" :: tokens ++ [.mark ")"]
      bindIn record.scope "(base)" (.type (.record other.tag) .everyone)
      let fresh ← fresh
      let types := function.parameters.map fun parameter => parameter.type.bare
      let made : Function := { function with
        number := fresh
        parameters := named
        owner := some tag
        symbol := Symbol.ofFunction record.path makerName .constructor true false .void types
          function.manner.isOpen
        scope := record.scope
        linkage := .shared
        isUsed := false
        body := .onDemand starts [.mark "\x7b", .mark "\x7d"] }
      modify fun reading => { reading with functions := reading.functions.insert fresh made }
      let old := (← scopeAt record.scope).names[makerName]?
      bindIn record.scope makerName (joinedEntity old (.functions [fresh] []))

/-! ### Whole records -/

/-- Reads the bodies of functions that waited for the end of a class. -/
def readLater (g : Grammar) : Nat → Parse Unit
  | 0 => failure
  | fuel + 1 => do
    match (← get).later.reverse with
    | [] => return ()
    | number :: rest => do
      modify fun reading => { reading with later := rest.reverse }
      g.readBody number
      readLater g fuel

/-- Reads the members of a record and lays it out. -/
def membersHere (g : Grammar) (tag : String) (isPacked : Bool) (aligned : Option Nat) :
    Parse Unit := do
  let reading ← get
  let plus := reading.options.isPlus
  let record ← recordAt tag
  let polymorphic := record.bases.find? fun base =>
    (reading.records[base.tag]?).any (·.hasTable)
  let inherited := ((polymorphic.bind fun base => reading.records[base.tag]?).map
    (·.overridables)).getD []
  changeRecord tag fun record => { record with
    hasTable := polymorphic.isSome, overridables := inherited }
  mark "\x7b"
  let isOutermost := reading.classDepth = 0
  modify fun reading => { reading with
    access := if record.isClass then .nobody else .everyone
    classDepth := reading.classDepth + 1
    later := if isOutermost then [] else reading.later }
  let members ← inScope record.scope
    (membersUpTo g tag ((← get).tokens.length + 1) [])
  modify fun inner => { inner with access := reading.access, classDepth := reading.classDepth }
  let after ← attributes g
  let aligned := match aligned, after.aligned with
    | some a, some b => some (max a b)
    | a, b => a.or b
  let isPrivate := members.any fun member => member.field.access != .everyone
  changeRecord tag fun record => { record with
    isAggregate := !plus || !(isPrivate || record.hasTable) }
  layOut tag members (isPacked || after.isPacked) aligned
  if plus then
    completeClass tag
    if isOutermost then
      readLater g functionDepth
      modify fun inner => { inner with later := reading.later }

end Parse

end KernelCache.C
