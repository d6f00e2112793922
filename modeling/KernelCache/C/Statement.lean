import KernelCache.C.Block

/-
**Statements.**

* `Parse.statementHere` reads one statement, and `Parse.bodyHere` those between braces.
* `Parse.tidied` ends the objects of a block behind it, also where an exception leaves it.
* `Parse.valueBlock` reads statements of which the last one has a value.
-/

namespace KernelCache.C

open KernelCache.Code (Term Value Kind Instruction Linkage)

namespace Parse

/-! ### Blocks -/

/-- Adds a region whose exceptions go on at a label; inner ones come first. -/
def addRegion (first last handler : Nat) : Parse Unit :=
  changeWork fun work => { work with regions := work.regions ++ [{ first, last, handler }] }

/-- Ends what exceptions leave behind: handlers that run one into the other, the innermost first. -/
def unwinding (cleanups : List (Cleanup × Nat)) : Parse (List Instruction) := do
  let object ← place 8 8
  let type ← place 8 8
  let keep := Term.effect (.storeLate .address (.place object) .caught)
    ++ Term.effect (.storeLate .address (.place type) .caughtType)
  let parts ← cleanups.zipIdx.mapM fun ((cleanup, ends), index) => do
    match cleanup.start with
    | none => return []
    | some start => do
      let handler ← fresh
      addRegion start ends handler
      let past := if index = 0 then [] else [Instruction.skip (keep.length + 1)]
      return past ++ .label handler :: keep ++ cleanup.otherwise.getD cleanup.steps
  return parts.flatten ++ [.fetch object .address, .fetch type .address, .throw]

/-- Reads what belongs to a block, and ends its objects behind it. -/
def tidied (step : Parse (List Instruction)) : Parse (List Instruction) := do
  let depth := (← get).work.cleanups.length
  let inner ← step
  let cleanups := (← get).work.cleanups
  let added := cleanups.take (cleanups.length - depth)
  changeWork fun work => { work with cleanups := cleanups.drop (cleanups.length - depth) }
  if added.isEmpty then return inner
  else
    let labeled ← added.mapM fun cleanup => do return (cleanup, ← fresh)
    let ends := labeled.flatMap fun (cleanup, label) => .label label :: cleanup.steps
    if added.any (·.start.isSome) then
      let handlers ← unwinding (labeled.filter (·.1.start.isSome))
      return inner ++ ends ++ .skip handlers.length :: handlers
    else return inner ++ ends

/-- Reads statements up to the closing brace. -/
def itemsUpTo (g : Grammar) : Nat → List (List Instruction) → Parse (List Instruction)
  | 0, _ => failure
  | fuel + 1, done => do
    if ← option "\x7d" then return done.reverse.flatten
    else
      let item ← g.statement
      itemsUpTo g fuel (item :: done)

/-- Reads statements between braces, without a block of their own. -/
def bodyHere (g : Grammar) : Parse (List Instruction) := tidied do
  mark "\x7b"
  itemsUpTo g ((← get).tokens.length + 1) []

/-- Reads a block. -/
def blockHere (g : Grammar) : Parse (List Instruction) := inBlock (bodyHere g)

/-- Reads a statement as a block of its own. -/
def branch (g : Grammar) : Parse (List Instruction) := inBlock (tidied g.statement)

/-! ### Expressions and conditions -/

/-- Reads an expression for what it does. -/
def effectHere (g : Grammar) : Parse (List Instruction) := do
  let term ← whole g.expression (effectOf g)
  return term.effect

/-- Instructions that go to a label unless a condition holds. -/
def unlessGoto (condition : Term) (label : Nat) : List Instruction :=
  match condition.constant? with
  | some value => if value.isTrue then [] else [.goto label]
  | none => condition.instructions ++ [.skipIf true 1, .goto label]

/-- Reads a variable as a condition: what makes it, and its truth. -/
def conditionVariable (g : Grammar) : Parse (List Instruction × Operand) := do
  require (← isPlus)
  require (← seesDeclaration)
  let found ← specifiers g
  let base ← orFail found.type
  let declarator ← declarator g
  require (declarator.name != "")
  require ((← sees "=") || (← sees "\x7b"))
  let steps ← localVariable g declarator.name (base.shaped declarator.shapes) found.isConstexpr {}
    none
  let (entity, scope) ← orFail (← find? declarator.name)
  return (steps, ← entityOperand g declarator.name entity scope false [])

/-- Reads a condition: what has to be done before, and its truth. -/
def conditionHere (g : Grammar) : Parse (List Instruction × Term) := do
  match ← optional (do
    let found ← conditionVariable g
    require (← sees ")")
    return found) with
  | some (steps, operand) => return (steps, ← truth g operand)
  | none => do
    let term ← whole g.expression (truth g)
    return ([], term)

/-- Whether the items of a list, as many as given at most, end in front of a semicolon. -/
def endsInFront : Nat → List Token → Bool
  | 0, _ => false
  | fuel + 1, tokens =>
    match itemUpTo (fun _ => false) (tokens.length + 1) 0 0 [] tokens with
    | (_, .mark ";" :: _) => true
    | (_, .mark "," :: rest) => endsInFront fuel rest
    | _ => false

/-- Reads a statement in front of a condition, when there is one. -/
def frontHere (g : Grammar) : Parse (List Instruction) := do
  if !(← isPlus) then return []
  else
    let tokens := (← get).tokens
    if endsInFront searchDepth tokens then
      if ← seesDeclaration then g.declaration
      else if ← option ";" then return []
      else
        let steps ← effectHere g
        mark ";"
        return steps
    else return []

/-! ### Statements that are left out -/

/-- Leaves out a statement. -/
def skipStatement : Nat → Parse Unit
  | 0 => failure
  | fuel + 1 => do
    match ← peek with
    | .mark "\x7b" => discard balanced
    | .name "if" => do
      skip 1
      discard (optionWord "constexpr")
      discard balanced
      skipStatement fuel
      if ← optionWord "else" then skipStatement fuel
    | .name "while" | .name "for" | .name "switch" => do
      skip 1
      discard balanced
      skipStatement fuel
    | .name "do" => do
      skip 1
      skipStatement fuel
      word "while"
      discard balanced
      mark ";"
    | .name "try" => do
      skip 1
      discard balanced
      discard (many (do
        word "catch"
        discard balanced
        discard balanced))
    | _ => do
      let tokens := (← get).tokens
      let (_, rest) := upToEnd (tokens.length + 1) tokens
      modify fun reading => { reading with tokens := rest }
      mark ";"
where
  /-- What is in front of the end of a statement, and the rest. -/
  upToEnd : Nat → List Token → List Token × List Token
    | 0, tokens => ([], tokens)
    | fuel + 1, tokens =>
      match itemUpTo (fun _ => false) (tokens.length + 1) 0 0 [] tokens with
      | (item, .mark "," :: rest) =>
        let (more, rest) := upToEnd fuel rest
        (item ++ more, rest)
      | found => found

/-! ### Choices and loops -/

/-- Whether an empty statement comes next. -/
def seesEmpty : Parse Bool := sees ";"

/-- Reads a choice between two statements. -/
def ifHere (g : Grammar) : Parse (List Instruction) := inBlock <| tidied do
  let isConstexpr ← (do
    if ← isPlus then optionWord "constexpr" else pure false : Parse Bool)
  mark "("
  let front ← frontHere g
  if isConstexpr then
    let (_, value) ← g.constant
    mark ")"
    if value.isTrue then
      let yes ← branch g
      if ← optionWord "else" then skipStatement searchDepth
      return front ++ yes
    else
      skipStatement searchDepth
      if ← optionWord "else" then return front ++ (← branch g) else return front
  else
    let (steps, condition) ← conditionHere g
    mark ")"
    if ← seesEmpty then warn "empty-body"
    let isInner ← seesWord "if"
    let yes ← branch g
    if ← optionWord "else" then
      if isInner then warn "dangling-else"
      if ← seesEmpty then warn "empty-body"
      let no ← branch g
      let otherwise ← fresh
      let ends ← fresh
      return front ++ steps ++ unlessGoto condition otherwise ++ yes
        ++ .goto ends :: .label otherwise :: no ++ [.label ends]
    else
      let ends ← fresh
      return front ++ steps ++ unlessGoto condition ends ++ yes ++ [.label ends]

/-- Reads the body of a loop, which can be left at a label and gone on with at another one. -/
def loopBody (g : Grammar) (breakLabel nextLabel : Nat) : Parse (List Instruction) := do
  let work := (← get).work
  let depth := work.cleanups.length
  changeWork fun work => { work with
    breaks := { label := breakLabel, depth } :: work.breaks
    nexts := { label := nextLabel, depth } :: work.nexts }
  let body ← branch g
  changeWork fun inner => { inner with breaks := work.breaks, nexts := work.nexts }
  return body

/-- Reads a loop that tests its condition first. -/
def whileHere (g : Grammar) : Parse (List Instruction) := do
  let next ← fresh
  let ends ← fresh
  let inner ← inBlock <| tidied do
    mark "("
    let (steps, condition) ← conditionHere g
    mark ")"
    if ← seesEmpty then warn "empty-body"
    let body ← loopBody g ends next
    return steps ++ unlessGoto condition ends ++ body ++ [.goto next]
  return .label next :: inner ++ [.label ends]

/-- Reads a loop that tests its condition last. -/
def doHere (g : Grammar) : Parse (List Instruction) := do
  let start ← fresh
  let next ← fresh
  let ends ← fresh
  let body ← loopBody g ends next
  word "while"
  mark "("
  let condition ← whole g.expression (truth g)
  mark ")"
  mark ";"
  return .label start :: body ++ .label next :: unlessGoto condition ends
    ++ [.goto start, .label ends]

/-- Reads a loop over items behind the bracket, when it is one. -/
def rangeHere (g : Grammar) : Parse (List Instruction) := do
  let front ← (do
    let found ← frontHere g
    pure found)
  let found ← specifiers g
  let base ← orFail found.type
  let (reference?, parts?, declarator) ← (do
    if ← seesParts then
      let (reference?, names) ← partNames g
      pure (reference?, some names, ({} : Declarator))
    else
      let declarator ← declarator g
      pure (none, none, declarator) : Parse (Option Bool × Option (List String) × Declarator))
  mark ":"
  let hidden := "(range" ++ toString (← fresh) ++ ")"
  let operand ← g.initial
  mark ")"
  let listed ← (do
    match operand with
    | .braces items => do
      discard (orFail (← listTemplate?))
      let item ← valueType (← orFail items.head?).2
      localVariable g hidden (.array (some items.length) item) false {} (some (.copy operand))
    | .place _ _ none false =>
      localVariable g hidden (.reference true .deduced) false {} (some (.copy operand))
    | operand =>
      localVariable g hidden (.reference true .deduced) false {} (some (.copy operand))
      : Parse (List Instruction))
  let range ← (do
    match ← find? hidden with
    | some (.object found, _) => variableOperand found
    | _ => failure : Parse Operand)
  let (first, last) ← (do
    match range.type.bare with
    | .array (some count) item => do
      let (_, start) ← valueOf range
      let pointer := CType.pointer (item.asConstAs range.type)
      let size ← sizeOf item
      pure (Operand.value pointer start, Operand.value pointer (advanced start (.word (count * size))))
    | .record tag => do
      let members ← membersNamed tag "begin"
      match members with
      | ([], []) => do
        let (numbers, templates) ← freeFunctions "begin" [range]
        let (others, more) ← freeFunctions "end" [range]
        let first ← called g (.functions numbers templates [] none false) [range]
        let last ← called g (.functions others more [] none false) [range]
        pure (first, last)
      | (numbers, templates) => do
        let (type, source, isSpare) ← asObject g range
        let (others, more) ← membersNamed tag "end"
        let object := some (type, source, isSpare)
        let first ← called g (.functions numbers templates [] object false) []
        let last ← called g (.functions others more [] object false) []
        pure (first, last)
    | _ => failure : Parse (Operand × Operand))
  let begins := "(first" ++ hidden
  let ends := "(last" ++ hidden
  let makeFirst ← localVariable g begins .deduced false {} (some (.copy first))
  let makeLast ← localVariable g ends .deduced false {} (some (.copy last))
  let named (name : String) : Parse Operand := do
    match ← find? name with
    | some (.object found, _) => variableOperand found
    | _ => failure
  let here ← named begins
  let limit ← named ends
  let test ← whole (binary g "!=" here limit) (truth g)
  let step ← whole (stepped g "++" false here) (effectOf g)
  let start ← fresh
  let next ← fresh
  let left ← fresh
  let body ← inBlock <| tidied do
    let spares := (← get).work.spares
    changeWork fun work => { work with spares := [] }
    let item ← unary g "*" here
    let made ← (do
      match parts? with
      | some names => boundParts g found reference? names (some (.copy item))
      | none => do
        let type := base.shaped declarator.shapes
        localVariable g declarator.name type false {} (some (.copy item))
        : Parse (List Instruction))
    changeWork fun work => { work with spares }
    return made ++ (← loopBody g left next)
  return front ++ listed ++ makeFirst ++ makeLast ++ .label start :: unlessGoto test left ++ body
    ++ .label next :: step.effect ++ [.goto start, .label left]

/-- Reads a loop with a start, a condition and a step. -/
def forHere (g : Grammar) : Parse (List Instruction) := inBlock <| tidied do
  let inner ← orFail (← trial enclosed)
  mark "("
  let plus ← isPlus
  let mayBeRange := plus && (splitAt (.mark ";") inner).length ≤ 2 && inner.contains (.mark ":")
  let range? ← (do
    if mayBeRange then optional (rangeHere g) else pure none
    : Parse (Option (List Instruction)))
  match range? with
  | some steps => return steps
  | none => do
    let first ← (do
      if ← option ";" then pure []
      else if ← seesDeclaration then
        require (plus || 1999 ≤ (← get).options.year)
        g.declaration
      else
        let steps ← effectHere g
        mark ";"
        pure steps : Parse (List Instruction))
    let start ← fresh
    let next ← fresh
    let ends ← fresh
    let (steps, condition) ← (do
      if ← sees ";" then pure ([], Term.word 1)
      else
        match ← optional (do
          let found ← conditionVariable g
          require (← sees ";")
          return found) with
        | some (steps, operand) => pure (steps, ← truth g operand)
        | none => do
          let term ← whole g.expression (truth g)
          pure ([], term) : Parse (List Instruction × Term))
    mark ";"
    let last ← (do
      if ← sees ")" then pure [] else effectHere g : Parse (List Instruction))
    mark ")"
    if ← seesEmpty then warn "empty-body"
    let body ← loopBody g ends next
    return first ++ .label start :: steps ++ unlessGoto condition ends ++ body
      ++ .label next :: last ++ [.goto start, .label ends]

/-- Reads a choice by value. -/
def switchHere (g : Grammar) : Parse (List Instruction) := inBlock <| tidied do
  mark "("
  let front ← frontHere g
  let (steps, operand) ← (do
    match ← optional (do
      let found ← conditionVariable g
      require (← sees ")")
      return found) with
    | some found => pure found
    | none => do
      let operand ← g.expression
      pure ([], operand) : Parse (List Instruction × Operand))
  mark ")"
  let operand ← decayed g operand
  let (type, term) ← (do
    let (type, term) ← valueOf operand
    if type.isScoped then pure (type, term)
    else do
      let (number, term) ← numberOf operand
      require !number.isReal
      pure (CType.arithmetic number, term) : Parse (CType × Term))
  let kind ← orFail type.kind?
  let offset ← place kind.size kind.size
  let term ← finished term
  let kept := (Term.storeLate kind (.place offset) term).effect
  let ends ← fresh
  let work := (← get).work
  changeWork fun work => { work with
    choices := { type } :: work.choices
    breaks := { label := ends, depth := work.cleanups.length } :: work.breaks }
  let body ← branch g
  let inner := (← get).work
  let choice := inner.choices.headD { type }
  changeWork fun inner => { inner with choices := work.choices, breaks := work.breaks }
  let value := Term.load kind (.place offset)
  let bits (number : Int) : Term := .word (Value.bitsOf kind.size number)
  let tests := choice.cases.reverse.flatMap fun (low, high, label) =>
    let condition : Term :=
      if low = high then .binary .equal kind value (bits low)
      else .both (.binary .greaterEqual kind value (bits low))
        (.binary .lessEqual kind value (bits high))
    condition.instructions ++ [.skipIf false 1, .goto label]
  return front ++ steps ++ kept ++ tests ++ .goto (choice.fallback.getD ends) :: body
    ++ [.label ends]

/-- Reads the label of a choice. -/
def caseHere (g : Grammar) : Parse (List Instruction) := do
  let choice ← orFail (← get).work.choices.head?
  let number : Parse Int := do
    let (type, value) ← g.constant
    match choice.type, type with
    | .enumeration tag true _, .enumeration other _ _ => require (tag == other)
    | .enumeration _ true _, _ => failure
    | _, type => require (type.isInteger && !type.isScoped)
    let kind ← orFail choice.type.kind?
    let own ← orFail type.kind?
    match kind with
    | .word size signed => do
      let bits := (Value.convert own kind value).bits
      return Value.ofBits size signed bits
    | _ => failure
  let low ← number
  let high ← (do
    if ← option "..." then number else pure low : Parse Int)
  mark ":"
  require (choice.cases.all fun (first, last, _) => high < first || last < low)
  let label ← fresh
  if low ≤ high then
    changeWork fun work => { work with
      choices := match work.choices with
        | choice :: rest => { choice with cases := (low, high, label) :: choice.cases } :: rest
        | [] => [] }
  return [.label label]

/-- Reads the label for all other values of a choice. -/
def defaultHere : Parse (List Instruction) := do
  mark ":"
  let choice ← orFail (← get).work.choices.head?
  require choice.fallback.isNone
  let label ← fresh
  changeWork fun work => { work with
    choices := { choice with fallback := some label } :: work.choices.drop 1 }
  return [.label label]

/-! ### Jumps -/

/-- Goes to where a loop or a choice is left or gone on with. -/
def leave (exits : List Exit) : Parse (List Instruction) := do
  let exit ← orFail exits.head?
  mark ";"
  return (← cleanupsTo exit.depth) ++ [.goto exit.label]

/-- A variable of the running function that is given back, as an object that nobody else needs. -/
def givenBack (g : Grammar) : Parse Operand := do
  let reading ← get
  let moved ← (do
    match reading.options.isPlus, reading.tokens with
    | true, .name name :: .mark ";" :: _ => do
      match ← find? name with
      | some (.object found, _) =>
        match found.home with
        | .frame function _ =>
          if function == reading.work.function && found.type.tag?.isSome
              && !found.type.isReference then
            pure (some name)
          else pure none
        | .symbol _ => pure none
      | _ => pure none
    | _, _ => pure none : Parse (Option String))
  match moved with
  | none => g.initial
  | some _ => do
    match ← g.initial with
    | .place type source bits _ => return .place type source bits true
    | other => return other

/-- Reads what a function gives back. -/
def returnHere (g : Grammar) : Parse (List Instruction) := do
  let work := (← get).work
  let plus ← isPlus
  if ← option ";" then
    require (work.result.isVoid || work.result.isDeduced || !plus)
    if !plus && !work.result.isVoid && !work.result.isDeduced then warn "return-type"
    if work.result.isDeduced then
      let number := work.function
      changeFunction number fun function =>
        { function with result := function.result.deducedAs .void }
      changeWork fun work => { work with result := work.result.deducedAs .void, answers := true }
    let cleanups ← cleanupsTo 0
    match work.endLabel with
    | some label => return cleanups ++ [.goto label]
    | none => return cleanups ++ [.word 0, .answer]
  else
    let isResult : Bool := match (← get).tokens with
      | .name name :: .mark ";" :: _ => work.resultName == some name
      | _ => false
    let resultVariable ← (do
      match (← get).tokens with
      | .name name :: _ => do
        match ← find? name with
        | some (.object found, _) =>
          pure (isResult && found.isRemote && found.home.isAt work.function work.answerAt)
        | _ => pure false
      | _ => pure false : Parse Bool)
    let spares := work.spares
    changeWork fun work => { work with spares := [] }
    let exact ← (do
      match work.written with
      | .exactly => do
        let tokens := (← get).tokens
        pure (some (← typeOfTokens g ((splitAt (.mark ";") tokens).headD [])))
      | _ => pure none : Parse (Option CType))
    let operand ← givenBack g
    mark ";"
    if work.written.isDeduced then
      let result ← match exact with
        | some type => pure type
        | none => typeFrom g work.written (.copy operand)
      require (!work.answers || result == work.result)
      changeWork fun work => { work with result }
      let number := work.function
      if !work.answers then changeFunction number fun function => { function with result }
    changeWork fun work => { work with answers := true }
    let result := (← get).work.result
    let steps ← (do
      match result with
      | .reference toValue target => do
        let term ← finished (← bound g toValue target operand)
        pure term.instructions
      | .void => do
        let term ← effectOf g operand
        require (!plus || operand.type.isVoid)
        if !operand.type.isVoid then warn "return-type"
        pure (← finished term).instructions
      | result =>
        match result.tag? with
        | some _ => do
          let offset ← orFail work.answerAt
          if resultVariable then pure [.word 0]
          else do
            let target := Term.load .address (.place offset)
            let term ← finished (← g.build result.bare operand target)
            pure (term.effect ++ [.word 0])
        | none => do
          if !result.isVoid && operand.type.isVoid then failure
          let term ← finished (← convertedTo g result operand)
          pure term.instructions : Parse (List Instruction))
    changeWork fun work => { work with spares }
    let cleanups ← cleanupsTo 0
    match work.endLabel with
    | some _ => failure
    | none => return steps ++ cleanups ++ [.answer]

/-- Reads a jump to a label. -/
def gotoHere (g : Grammar) : Parse (List Instruction) := do
  if ← option "*" then
    let operand ← g.expression
    mark ";"
    let (type, term) ← valueOf operand
    require type.isPointer
    return term.instructions ++ [.gotoAddress]
  else
    let label ← labelFor (← identifier)
    mark ";"
    return [.goto label]

/-- Reads a label. -/
def labelHere : Parse (List Instruction) := do
  let name ← identifier
  mark ":"
  let label ← labelFor name
  let work := (← get).work
  require !(work.labels.any fun known => known.name == name && known.isPlaced)
  changeWork fun work => { work with
    labels := work.labels.map fun known =>
      if known.name == name then { known with isPlaced := true } else known }
  return [.label label]

/-! ### Exceptions -/

/-- What a handler takes: all, or objects of a type under a name. -/
structure Catch where
  type? : Option CType
  name : String

/-- Reads what a handler takes. -/
def catchHere (g : Grammar) : Parse Catch := do
  mark "("
  if ← option "..." then
    mark ")"
    return { type? := none, name := "" }
  else
    let found ← specifiers g
    let base ← orFail found.type
    let inner ← declarator g
    mark ")"
    return { type? := some (base.shaped inner.shapes), name := inner.name }

/-- Reads a handler: the test whether it takes an exception, and what it does. -/
def handlerHere (g : Grammar) (object type : Nat) : Parse (Term × List Instruction) := do
  let thrown := Term.load .address (.place object)
  let kind := Term.load .address (.place type)
  inBlock <| do
    let found ← catchHere g
    let outer := (← get).work.handling
    changeWork fun work => { work with handling := some (object, type) }
    let way ← place 8 8
    let (test, steps) ← (do
      match found.type? with
      | none => pure (Term.word 1, [])
      | some wanted => do
        let bare := wanted.referred.bare
        let (test, source) ← (do
          match bare.tag? with
          | some _ => do
            let symbol ← typeSymbol bare
            let call := outerCall "__way_to_type" [kind, .address symbol]
            let kept := Term.storeLate .address (.place way) call
            pure (kept, Term.binary .add .address thrown
              (.binary .sub .address (.load .address (.place way)) (.word 1)))
          | none => do
            let symbol ← typeSymbol bare
            let same (symbol : String) : Term := .binary .equal .address kind (.address symbol)
            let test ← (do
              match bare with
              | .pointer target =>
                if target.isConst then do
                  let other ← typeSymbol (.pointer target.bare)
                  pure (Term.either (same symbol) (same other))
                else pure (same symbol)
              | _ => pure (same symbol) : Parse Term)
            pure (test, thrown) : Parse (Term × Term))
        let operand : Operand := .place bare source none false
        let steps ← (do
          if found.name = "" then pure []
          else localVariable g found.name wanted false {} (some (.copy operand))
          : Parse (List Instruction))
        pure (test, steps) : Parse (Term × List Instruction))
    let body ← tidied do
      let ends := (outerCall "__end_catch" [thrown]).effect
      let otherwise := (outerCall "__leave_catch" [thrown, .caught]).effect
      let label ← fresh
      changeWork fun work => { work with
        cleanups := { steps := ends, start := some label, otherwise } :: work.cleanups }
      let inner ← bodyHere g
      return (outerCall "__begin_catch" [thrown]).effect ++ .label label :: steps ++ inner
    changeWork fun work => { work with handling := outer }
    return (test, body)

/-- Reads a block with handlers. -/
def tryHere (g : Grammar) : Parse (List Instruction) := do
  let first ← fresh
  let last ← fresh
  let handler ← fresh
  let ends ← fresh
  let inner ← blockHere g
  addRegion first last handler
  let object ← place 8 8
  let type ← place 8 8
  let keep := Term.effect (.storeLate .address (.place object) .caught)
    ++ Term.effect (.storeLate .address (.place type) .caughtType)
  let handlers ← many (do
    word "catch"
    handlerHere g object type)
  require !handlers.isEmpty
  let steps ← handlers.mapM fun (test, body) => do
    let otherwise ← fresh
    return unlessGoto test otherwise ++ body ++ [.goto ends, .label otherwise]
  return .label first :: inner ++ .label last :: .goto ends :: .label handler :: keep
    ++ steps.flatten ++ [.fetch object .address, .fetch type .address, .throw, .label ends]

/-! ### Statements -/

/-- Whether a label comes next. -/
def seesLabel : Parse Bool := do
  let options := (← get).options
  match (← get).tokens with
  | .name name :: .mark ":" :: _ => return !isReserved options.isPlus options.year name
  | _ => return false

/-- Reads the statement that starts with a word, when it is one of those. -/
def wordStatement? (g : Grammar) (text : String) : Parse (Option (List Instruction)) := do
  let go (step : Parse (List Instruction)) : Parse (Option (List Instruction)) := do
    skip 1
    return some (← step)
  match text with
  | "if" => go (ifHere g)
  | "while" => go (whileHere g)
  | "do" => go (doHere g)
  | "for" => go (forHere g)
  | "switch" => go (switchHere g)
  | "case" => go (caseHere g)
  | "default" =>
    if (← peekSecond) == .mark ":" then go defaultHere else return none
  | "break" => go (do leave (← get).work.breaks)
  | "continue" => go (do leave (← get).work.nexts)
  | "return" => go (returnHere g)
  | "goto" => go (gotoHere g)
  | "try" => if ← isPlus then go (tryHere g) else return none
  | "asm" | "__asm__" | "__asm" => go g.assembly
  | _ => return none

/-- Reads a statement. -/
def statementHere (g : Grammar) : Parse (List Instruction) := do
  match ← peek with
  | .mark "\x7b" => blockHere g
  | .mark ";" => do
    skip 1
    return []
  | .name text => do
    match ← wordStatement? g text with
    | some steps => return steps
    | none =>
      if ← seesLabel then labelHere
      else if ← seesDeclaration then
        match ← optional g.declaration with
        | some steps => return steps
        | none => do
          require (← isPlus)
          plain
      else if text == "__extension__" then
        skip 1
        plain
      else plain
  | .mark "[" =>
    if (← peekSecond) == .mark "[" then
      discard (attributeList g)
      g.statement
    else plain
  | _ =>
    if ← seesDeclaration then
      match ← optional g.declaration with
      | some steps => return steps
      | none => plain
    else plain
where
  /-- An expression as a statement. -/
  plain : Parse (List Instruction) := do
    let steps ← effectHere g
    mark ";"
    return steps

/-! ### Statements with a value -/

/-- Reads statements up to the closing brace; the last one can have a value. -/
def valuedUpTo (g : Grammar) : Nat → List (List Instruction) →
    Parse (List Instruction × Option Operand)
  | 0, _ => failure
  | fuel + 1, done => do
    if ← option "\x7d" then return (done.reverse.flatten, none)
    else
      let last? ← (do
        if ← seesDeclaration then pure none
        else
          match ← peek with
          | .mark "\x7b" | .mark ";" => pure none
          | .name text =>
            if ["if", "while", "do", "for", "switch", "case", "default", "break", "continue",
                "return", "goto", "asm", "__asm__"].contains text then pure none
            else tail
          | _ => tail : Parse (Option Operand))
      match last? with
      | some operand => return (done.reverse.flatten, some operand)
      | none => do
        let item ← g.statement
        valuedUpTo g fuel (item :: done)
where
  /-- An expression behind which nothing follows. -/
  tail : Parse (Option Operand) :=
    optional (do
      let operand ← g.expression
      mark ";"
      mark "\x7d"
      return operand)

/-- Reads statements between brackets of which the last one has a value. -/
def valueBlock (g : Grammar) : Parse Operand := do
  require (← isLocal)
  mark "("
  let spares := (← get).work.spares
  changeWork fun work => { work with spares := [] }
  let depth := (← get).work.cleanups.length
  let result ← inBlock do
    mark "\x7b"
    let (steps, last?) ← valuedUpTo g ((← get).tokens.length + 1) []
    let found ← (do
      match last? with
      | none => pure (Operand.value .void (.after steps .nothing))
      | some operand =>
        match operand.type.tag? with
        | some _ => do
          let offset ← placeFor operand.type.bare
          let made ← finished (← g.build operand.type.bare operand (.place offset))
          let cleanups ← cleanupsTo depth
          pure (Operand.place operand.type.bare
            (.after (steps ++ made.effect ++ cleanups) (.place offset)) none true)
        | none => do
          if operand.type.isVoid then
            let term ← finished (← effectOf g operand)
            let cleanups ← cleanupsTo depth
            pure (Operand.value .void (.after (steps ++ term.effect ++ cleanups) .nothing))
          else do
            let (type, term) ← valueOf operand
            let term ← finished term
            let cleanups ← cleanupsTo depth
            pure (Operand.value type (.after steps (.followed term cleanups))) : Parse Operand)
    return found
  changeWork fun work => { work with
    spares, cleanups := work.cleanups.drop (work.cleanups.length - depth) }
  mark ")"
  return result

end Parse

end KernelCache.C
