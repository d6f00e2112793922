import KernelCache.C.Lifetime

/-
**Functions.**

* `Parse.declareFunction` makes a function known, or adds to what is known about it.
* `Parse.readFunction` reads the body of a function and writes down its routine.
-/

namespace KernelCache.C

open KernelCache.Code (Term Value Kind Instruction Linkage)

namespace Parse

/-! ### Declarations -/

/-- The name under which a function is known in its scope. -/
def keyOf : Naming → String
  | .plain name => name
  | .constructor => makerName
  | .destructor => enderName
  | .conversion _ => converterName
  | .none => ""

/-- What a function is for its class. -/
def roleOf : Naming → Role
  | .constructor => .constructor
  | .destructor => .destructor
  | .conversion _ => .conversion
  | _ => .ordinary

/-- What the declaration of a function says. -/
structure Intent where
  found : Specifiers
  declarator : Declarator
  parameters : List Parameter
  tail : Tail
  result : CType
  /-- The class it belongs to, and its scope. -/
  owner : Option String
  scope : Nat
  access : Access

/-- What the declaration of a function says, when a declarator is one of a function. -/
def intentOf? (found : Specifiers) (declarator : Declarator) : Parse (Option Intent) := do
  match declarator.shapes with
  | .function parameters tail :: rest => do
    let reading ← get
    let scope := match declarator.place with
      | .inside scope => scope
      | _ => homeOf reading searchDepth reading.scope
    let holder : Option Scope := reading.scopes[scope]?
    let owner := match holder with
      | some { holder := .record tag, .. } => some tag
      | _ => none
    let base ← (do
      match declarator.naming, found.type with
      | .conversion type, _ => pure type
      | .constructor, _ | .destructor, _ => pure CType.void
      | _, some type => pure type
      | _, none => if reading.options.isPlus then failure else pure CType.int : Parse CType)
    let whole := CType.shaped base (.function parameters tail :: rest)
    match whole with
    | .function result _ _ => do
      require (!result.isArray && !result.isFunction)
      return some
        { found, declarator, parameters, tail, result, owner, scope, access := reading.access }
    | _ => failure
  | _ => return none

/-- The symbol that a function has. -/
def symbolFor (intent : Intent) (isMember : Bool) : Parse String := do
  let reading ← get
  match intent.declarator.attributes.symbol with
  | some symbol => return symbol
  | none =>
    let name := keyOf intent.declarator.naming
    let path := pathOf reading searchDepth intent.scope
    let isPlain := !reading.options.isPlus || (reading.plainNames && intent.owner.isNone)
      || (name == "main" && path.isEmpty)
    if isPlain then return name
    else
      let types := (intent.parameters.map fun parameter => parameter.type.bare)
      return Symbol.ofFunction path name (roleOf intent.declarator.naming) isMember
        intent.tail.manner.isConst intent.result types intent.tail.manner.isOpen

/-- Whether a function has the parameters that a declaration says. -/
def hasSignature (function : Function) (intent : Intent) : Bool :=
  let types := function.parameters.map fun parameter => parameter.type.bare
  let others := intent.parameters.map fun parameter => parameter.type.bare
  types == others && function.manner.isConst == intent.tail.manner.isConst
    && function.manner.isOpen == intent.tail.manner.isOpen
    && function.onValue == intent.tail.onValue
    && (function.role != .conversion || function.result == intent.result)

/-- Functions of a name in a scope. -/
def functionsIn (scope : Nat) (name : String) : Parse (List Nat × List Nat) := do
  match ((← scopeAt scope).names[name]?) with
  | some (.functions numbers templates) => return (numbers, templates)
  | some (.type _ _) => if ← isPlus then return ([], []) else failure
  | some (.space _) | none => return ([], [])
  | some _ => failure

/-- Parameters with what was said about them before. -/
def mergedParameters (old new : List Parameter) : List Parameter :=
  new.zipIdx.map fun (parameter, index) =>
    { parameter with
      initial := parameter.initial.or ((old[index]?).bind fun parameter => parameter.initial) }

/-- Whether the space of a scope has no name somewhere, so that nobody else sees what is in it. -/
def isSecret (reading : Reading) : Nat → Nat → Bool
  | 0, _ => false
  | fuel + 1, number =>
    match reading.scopes[number]? with
    | none => false
    | some scope =>
      let own := match scope.holder with
        | .space "" => scope.parent.isSome
        | _ => false
      own || (scope.parent.any (isSecret reading fuel))

/-- Adds what a declaration says to what is known about a function. -/
def refine (number : Nat) (intent : Intent) : Parse Unit := do
  let attributes := intent.declarator.attributes.and intent.found.attributes
  let reading ← get
  changeFunction number fun old =>
    let plus := reading.options.isPlus
    let isLoose := intent.tail.manner.isLoose && intent.tail.oldNames.isEmpty
    let parameters := if isLoose && !plus then old.parameters
      else mergedParameters old.parameters intent.parameters
    let manner := if isLoose && !plus && !old.manner.isLoose then old.manner
      else { intent.tail.manner with isConst := old.manner.isConst || intent.tail.manner.isConst }
    let linkage := if attributes.isWeak && old.linkage == .outer then .weak
      else if intent.found.isStatic && intent.owner.isNone then .inner
      else if plus && (intent.found.isInline || intent.found.isConstexpr) && old.linkage == .outer
        then .shared
      else old.linkage
    { old with
      parameters
      manner
      linkage
      result := if old.result.isDeduced then intent.result else old.result
      symbol := attributes.symbol.getD old.symbol
      packs := intent.tail.packs
      visible := attributes.visible.or old.visible
      isInline := old.isInline || intent.found.isInline
      isKept := old.isKept || !intent.found.isInline || intent.found.isExternal
      isConstexpr := old.isConstexpr || intent.found.isConstexpr
      endsRun := old.endsRun || intent.found.endsRun || attributes.endsRun
      isVirtual := old.isVirtual || intent.found.isVirtual
      nothrow := old.nothrow || intent.tail.nothrow
      isDeclaredHere := true
      atStart := attributes.atStart.or old.atStart
      atEnd := old.atEnd || attributes.atEnd
      isOptional := old.isOptional || attributes.isWeak }
  if attributes.isCopied && !reading.options.isPlus then
    changeFunction number fun function =>
      if function.isInline && !function.isKept then { function with linkage := .inner }
      else function
  match attributes.standsFor with
  | some target => do
    let function ← functionAt number
    modify fun reading => { reading with
      piece := { reading.piece with
        aliases := (function.symbol, target, if attributes.isWeak then .weak else function.linkage)
          :: reading.piece.aliases } }
  | none => pure ()

/-- Makes a function known, or adds to what is known about it. -/
def declareFunction (intent : Intent) : Parse Nat := do
  let reading ← get
  let plus := reading.options.isPlus
  let name := keyOf intent.declarator.naming
  require (name != "")
  let holder := (← scopeAt intent.scope).holder
  let isBlock : Bool := match holder with
    | .block => true
    | _ => false
  let home := if isBlock then spaceOf reading searchDepth intent.scope else intent.scope
  let intent := { intent with scope := home }
  let (numbers, templates) ← functionsIn home name
  let functions ← numbers.mapM functionAt
  let known := functions.find? fun function => !plus || hasSignature function intent
  let number ← (do
    match known with
    | some old => do
      if !plus && !(old.manner.isLoose || intent.tail.manner.isLoose) then
        require (similar (typeOfFunction old) (.function intent.result
          (intent.parameters.map fun parameter => parameter.type.bare) intent.tail.manner))
        require (old.manner.isOpen == intent.tail.manner.isOpen)
      else if !plus then require (old.result.bare == intent.result.bare)
      let isDeduced := old.result.isDeduced || intent.result.isDeduced
      if plus && !isDeduced then require (old.result == intent.result)
      pure old.number
    | none => do
      require (match intent.declarator.place with
        | .inside _ => intent.owner.isNone || !plus
        | _ => true)
      let number ← fresh
      let role := roleOf intent.declarator.naming
      let isAllocator := name == "operatornew" || name == "operatordelete"
        || name == "operatornew[]" || name == "operatordelete[]"
      let isMember := intent.owner.isSome && !intent.found.isStatic && !isAllocator
      let symbol ← symbolFor intent isMember
      let isPlain := reading.plainNames
      let secret := plus && isSecret reading searchDepth home && !isPlain
      let linkage : Linkage :=
        if (intent.found.isStatic && intent.owner.isNone) || secret then .inner
        else if plus && (intent.found.isInline || intent.found.isConstexpr) then .shared
        else .outer
      let isLocalClass := reading.work.function != 0 && intent.owner.isSome
      let function : Function :=
        { number, name, symbol, result := intent.result, parameters := intent.parameters
          manner := intent.tail.manner, owner := intent.owner, role, isMember
          isExplicit := intent.found.isExplicit, access := intent.access
          linkage := if isLocalClass then .inner else linkage
          onValue := intent.tail.onValue, scope := home, isFinal := intent.tail.isFinal
          visible := reading.visibilities.head? }
      modify fun reading => { reading with functions := reading.functions.insert number function }
      bindIn home name (.functions (numbers ++ [number]) templates)
      pure number : Parse Nat)
  refine number intent
  if isBlock then
    let scope := reading.scope
    let (others, more) ← (do
      match ((← scopeAt scope).names[name]?) with
      | some (.functions others more) => pure (others, more)
      | some _ => failure
      | none => pure ([], []) : Parse (List Nat × List Nat))
    bindIn scope name (.functions ((others ++ [number]).eraseDups) more)
  let function ← functionAt number
  if function.isOptional then
    modify fun reading => { reading with
      piece := { reading.piece with optional := function.symbol :: reading.piece.optional } }
  return number

/-! ### Parameters inside the function -/

/-- A type with other places in the place of numbers. -/
def relocated (places : List (Nat × Nat)) : CType → CType
  | .measured number item =>
    .measured ((places.lookup number).getD number) (relocated places item)
  | .pointer target => .pointer (relocated places target)
  | .array count item => .array count (relocated places item)
  | .const type => .const (relocated places type)
  | other => other

/-- Gives parameters their places, and yields the places for arguments. -/
def placeParameters (function : Function) (places : List (Nat × Nat)) :
    Parse (List (Kind × Nat)) := do
  let placed ← function.parameters.mapM fun parameter => do
    let type := relocated places parameter.type
    let number ← fresh
    let parameterAt (isRemote : Bool) (offset : Nat) : Variable :=
      { number, name := parameter.name, type, isRemote, home := .frame function.number offset }
    match type.bare.tag? with
    | some _ => do
      let offset ← place 8 8
      return (parameter, parameterAt true offset, Kind.address)
    | none => do
      let kind ← orFail type.bare.kind?
      let offset ← place kind.size kind.size
      return (parameter, parameterAt false offset, kind)
  let plain := placed.filter fun (parameter, _, _) => !parameter.isPack && parameter.name != ""
  plain.forM fun (parameter, found, _) => do bind parameter.name (.object found)
  function.packs.forM fun name => do
    let members := placed.filter fun (parameter, _, _) => parameter.isPack && parameter.name == name
    if name != "" then bind name (.pack (members.map fun entry => entry.2.1))
  return placed.map fun (_, found, kind) =>
    match found.home with
    | .frame _ offset => (kind, offset)
    | .symbol _ => (kind, 0)

/-- Works out the sizes of arrays that parameters tell. -/
def measureParameters (g : Grammar) (measures : List (Nat × List Token))
    (places : List (Nat × Nat)) (types : List CType) : Parse (List Instruction) := do
  let counts ← measures.reverse.mapM fun (number, tokens) => do
    let operand ← within tokens g.assignment
    let term ← convertedTo g CType.sizeType operand
    let offset := (places.lookup number).getD 0
    return (Term.storeLate .address (.place offset) term).effect
  types.forM fun type => discard (settled type)
  let front := (← get).work.front
  changeWork fun work => { work with front := [] }
  return counts.flatten ++ front

/-! ### Bodies -/

/-- Adds a routine. -/
def addRoutine (routine : Code.Routine) : Parse Unit :=
  modify fun reading => { reading with
    piece := { reading.piece with routines := routine :: reading.piece.routines } }

/-- How a function is seen by others. -/
def linkageOf (options : Options) (function : Function) : Option Linkage :=
  if !options.isPlus && function.isInline && !function.isKept && function.linkage == .outer then
    if options.optimized then some .inner else none
  else some function.linkage

/-- Reads in a function of its own; what is read around it is as before behind it. -/
def inFunction {α : Type} (work : Work) (scope : Nat) (step : Parse α) : Parse α := do
  let outer ← get
  set { outer with
    work
    outer := outer.work :: outer.outer
    scope
    inAngles := false
    isUnevaluated := false
    isConstant := false
    plainNames := false
    access := .everyone
    pending := none }
  let found ← step
  modify fun inner => { inner with
    work := outer.work
    outer := outer.outer
    scope := outer.scope
    tokens := outer.tokens
    inAngles := outer.inAngles
    isUnevaluated := outer.isUnevaluated
    isConstant := outer.isConstant
    plainNames := outer.plainNames
    access := outer.access
    pending := outer.pending }
  return found

/-- The variable that a function gives back wherever it gives something back. -/
def resultNameIn (tokens : List Token) : Option String :=
  let rec given : List Token → List (Option String)
    | [] => []
    | .name "return" :: .name name :: .mark ";" :: rest => some name :: given rest
    | .name "return" :: rest => none :: given rest
    | _ :: rest => given rest
  match given tokens with
  | some name :: rest => if rest.all (· == some name) then some name else none
  | _ => none

/-- Templates are used inside each other this deep at most. -/
def deepest : Nat := 900

/-- Reads the body of a function and writes down its routine. -/
def readFunction (g : Grammar) (number : Nat) : Parse Unit := do
  let function ← functionAt number
  let parts? : Option (List Token × List Token × Option Default) := match function.body with
    | .tokens starts body | .onDemand starts body => some (starts, body, none)
    | .default kind => some ([], [], some kind)
    | _ => none
  match parts? with
  | none => return ()
  | some (starts, body, default?) => do
    changeFunction number fun function => { function with body := .done }
    let reading ← get
    require (reading.depth < deepest)
    let scope ← addScope (some function.scope) .block
    let name := match function.role, function.owner with
      | .constructor, some owner | .destructor, some owner =>
        ((reading.records[owner]?).map (·.name)).getD ""
      | .conversion, _ => "operator"
      | _, _ => function.name
    let capture := (function.owner.bind (reading.captures[·]?))
    let result := function.result
    let work : Work := { function := number, name, result, written := result, capture }
    modify fun reading => { reading with depth := reading.depth + 1 }
    inFunction work scope do
      let answerAt ← (do
        if function.result.tag?.isSome || function.result.isDeduced then
          let offset ← place 8 8
          pure (some offset)
        else pure none : Parse (Option Nat))
      let selfAt ← (do
        match function.isMember, function.owner with
        | true, some owner => do
          let offset ← place 8 8
          let isConst := function.manner.isConst
          changeWork fun work => { work with self := some (owner, isConst, offset) }
          pure (some offset)
        | _, _ => pure none : Parse (Option Nat))
      changeWork fun work => { work with answerAt, resultName := resultNameIn body }
      let places ← function.measures.mapM fun (number, _) => do return (number, ← place 8 8)
      let parameters ← placeParameters function places
      let furtherAt ← (do
        if function.manner.isOpen then
          let offset ← place 8 8
          pure (some offset)
        else pure none : Parse (Option Nat))
      let outsideAt ← (do
        match function.outside with
        | some _ => do
          let offset ← place 8 8
          pure (some offset)
        | none => pure none : Parse (Option Nat))
      changeWork fun work => { work with furtherAt, outsideAt }
      let types := function.parameters.map fun parameter => relocated places parameter.type
      let measured ← measureParameters g function.measures places types
      let self := Term.load .address (.place (selfAt.getD 0))
      let tag := function.owner.getD ""
      let record? := reading.records[tag]?
      let inner : List Instruction ← (do
        match default? with
        | some kind => do
          let source := match kind, parameters with
            | _, (_, offset) :: _ => some (Term.load .address (.place offset))
            | _, [] => none
          let made ← defaultBody g tag kind self source
          let ends ← if kind == .destroy then endMembers g tag self else pure []
          pure (made ++ ends)
        | none => do
          let front ← (do
            match function.role with
            | .constructor => do
              let found ← within starts (startsHere g)
              startMembers g tag found self
            | .destructor => do
              let tables ← storeTables tag self
              pure (tables.flatMap Term.effect)
            | _ => pure [] : Parse (List Instruction))
          if function.role == .destructor then
            let label ← fresh
            changeWork fun work => { work with endLabel := some label }
            let read ← within body g.body
            let ends ← if record?.any (·.isUnion) then pure [] else endMembers g tag self
            pure (front ++ read ++ .label label :: ends)
          else
            let read ← within body g.body
            pure (front ++ read))
      let reading ← get
      let work := reading.work
      require (work.labels.all (·.isPlaced))
      let result := work.result
      let result := if result.isDeduced then
          (if work.answers then result else result.deducedAs .void) else result
      changeFunction number fun function => { function with result }
      let hidden := if result.tag?.isSome then
          (answerAt.toList.map fun offset => (Kind.address, offset)) else []
      let selves := selfAt.toList.map fun offset => (Kind.address, offset)
      let function ← functionAt number
      match linkageOf reading.options function with
      | none => pure ()
      | some linkage =>
        addRoutine
          { symbol := function.symbol, linkage
            visible := (function.visible.or reading.visibilities.head?).getD
              !reading.options.hidden
            room := work.room
            parameters := hidden ++ selves ++ parameters
            furtherAt, outsideAt
            instructions := measured ++ inner ++ [.word 0, .answer]
            regions := work.regions
            answerKind := result.bare.kind? }
      let piece := reading.piece
      let starters := match function.atStart with
        | some order => [(order, function.symbol)]
        | none => []
      let finishers := if function.atEnd then [function.symbol] else []
      modify fun reading => { reading with
        piece := { reading.piece with
          starters := piece.starters ++ starters, finishers := piece.finishers ++ finishers } }
    modify fun after => { after with depth := reading.depth }

end Parse

end KernelCache.C
