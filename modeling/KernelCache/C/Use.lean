import KernelCache.C.Types
import KernelCache.C.Outer

/-
**Uses of templates.**

The tokens of a template are read again for every use, in a scope in which the parameters stand for
the arguments. A use that was read before is not read again.

* `Parse.functionFor` is the function that a template makes, with arguments that operands tell.
* `Parse.typeFor` is the class that a template makes, or the type that one stands for.
* `Parse.useOf` is the variable that a template makes, or what a condition on types says.
-/

namespace KernelCache.C

open KernelCache.Code (Term Value Kind Instruction Linkage)

namespace Parse

/-! ### Arguments -/

/-- Reads tokens in a scope, apart from what is being read. -/
def apart {α : Type} (scope : Nat) (tokens : List Token) (step : Parse α) : Parse α := do
  let depth := (← get).depth
  require (depth < deepest)
  modify fun reading => { reading with depth := depth + 1 }
  let found ← inFunction { function := 0, name := "", result := .void } scope
    (beginning tokens step)
  modify fun reading => { reading with depth }
  return found

/-- Reads all of some tokens in a scope, apart from what is being read. -/
def wholly {α : Type} (scope : Nat) (tokens : List Token) (step : Parse α) : Parse α :=
  apart scope tokens do
    let found ← step
    require (← get).tokens.isEmpty
    return found

/-- What the parameters stand for when arguments are given in their order; all have to be used. -/
def positional? : List TemplateParameter → List CType → Option Substitution
  | [], [] => some []
  | [], _ :: _ => none
  | _ :: _, [] => some []
  | parameter :: rest, argument :: others =>
    if parameter.isPack then some [(parameter.name, .pack (argument :: others))]
    else (positional? rest others).map ((parameter.name, argument) :: ·)

/-- The type of the numbers that a parameter takes. -/
def slotType (g : Grammar) (scope : Nat) (tokens : List Token) : Parse CType :=
  wholly scope tokens do
    let found ← specifiers g
    let declarator ← declarator g
    return (← orFail found.type).shaped declarator.shapes

/-- A number as an argument for numbers of a type. -/
def numberArgument (type : CType) (value : Int) : CType × Int :=
  if type.isDeduced then (if fitsIn .int value then CType.int else .arithmetic .long, value)
  else
    match type.arithmetic? with
    | some .bool => (type, if value = 0 then 0 else 1)
    | some found =>
      let size := found.kind.size
      (type, Value.ofBits size found.isSigned (Value.bitsOf size value))
    | none => (type, value)

/-- Makes a parameter stand for an argument in a scope, and yields the argument as it is kept. -/
def bindArgument (g : Grammar) (scope : Nat) (parameter : TemplateParameter) (argument : CType) :
    Parse CType := do
  let name := parameter.name
  let keep (entity : Entity) (argument : CType) : Parse CType := do
    bindIn scope name entity
    return argument
  match parameter.slot, argument with
  | .value tokens, .pack items => do
    let items ← (do
      if CType.areOpen items then pure items
      else
        let type ← slotType g scope tokens
        items.mapM fun item => match item with
          | .number value => pure (.number (numberArgument type value).2)
          | .routine number => pure (.routine number)
          | _ => failure : Parse (List CType))
    keep (.type (.pack items) .everyone) (.pack items)
  | _, .pack items => keep (.type (.pack items) .everyone) (.pack items)
  | .value tokens, .number value => do
    let type ← slotType g scope tokens
    let (type, value) := numberArgument type value
    let kind ← orFail type.bare.kind?
    keep (.constant type.bare (Value.ofInt kind.size value) .everyone) (.number value)
  | .value _, .routine number => keep (.functions [number] []) argument
  | .value _, argument => do
    require argument.isOpenType
    keep (.type argument .everyone) argument
  | .template, .template text => keep (.type (.template text) .everyone) argument
  | .template, argument => do
    require argument.isOpenType
    keep (.type argument .everyone) argument
  | .type, .number _ | .type, .routine _ | .type, .template _ => failure
  | .type, argument => keep (.type argument .everyone) argument

/-- Whether a condition on the arguments in a scope holds. -/
def holds (g : Grammar) (scope : Nat) (condition : List Token) : Parse Bool := do
  let found ← optional (wholly scope condition g.constant)
  return found.any fun (_, value) => value.isTrue

/-- The arguments of a use, with those that go without saying, and a scope in which the parameters
stand for them. -/
def settledUse (g : Grammar) (template : Template) (known : Substitution) :
    Parse (List CType × Nat) := do
  let scope ← addScope (some template.scope) .template
  let arguments ← template.parameters.mapM fun parameter => do
    let argument ← (do
      match known.lookup parameter.name, parameter.initial with
      | some found, _ => pure found
      | none, some tokens => wholly scope tokens (templateArgument g)
      | none, none => do
        require parameter.isPack
        pure (.pack []) : Parse CType)
    bindArgument g scope parameter argument
  return (spliced arguments, scope)

/-- Whether the conditions of a template hold for the arguments in a scope. -/
def conditionsHold (g : Grammar) (template : Template) (scope : Nat) : Parse Bool := do
  let conditions := template.parameters.filterMap (·.condition) ++ template.condition.toList
  let found ← conditions.mapM (holds g scope)
  return found.all id

/-- What types with the parameters of a template are matched with. -/
def matchingOf (template : Template) (fixed : List String) : Parse Matching := do
  let records := (← get).records
  return {
    origin? := fun tag => (records[tag]?).bind (·.origin)
    names := template.parameters.map (·.name)
    packs := (template.parameters.filter (·.isPack)).map (·.name)
    fixed }

/-! ### Arguments that operands tell -/

/-- The classes that a class continues, at any distance. -/
def basesOf (records : Std.TreeMap String Record) : Nat → String → List String
  | 0, _ => []
  | fuel + 1, tag =>
    match records[tag]? with
    | none => []
    | some record =>
      record.bases.flatMap fun base => base.tag :: basesOf records fuel base.tag

/-- Matches the type of a parameter with that of an argument, which may promise less behind a
pointer, or continue the class that is wanted. -/
def matchArgument? (matching : Matching) (records : Std.TreeMap String Record)
    (wanted found : CType) (known : Substitution) : Option Substitution :=
  match wanted, found with
  | .pointer (.const wanted), .pointer found => deeper wanted found.loosened
  | .pointer wanted, .pointer found => deeper wanted found
  | wanted, found => deeper wanted found
where
  /-- The same for a class or one that it continues. -/
  deeper (wanted found : CType) : Option Substitution :=
    match wanted, found.bare with
    | .pattern _ _, .record tag =>
      (found.bare :: (basesOf records searchDepth tag).map CType.record).findSome? fun type =>
        matching.type? wanted type known
    | wanted, _ => matching.type? wanted found known

/-- The type of an operand, and whether it has an address. -/
def operandType? (g : Grammar) (operand : Operand) : Parse (Option (CType × Bool)) := do
  let ofFunction (number : Nat) : Parse (Option (CType × Bool)) := do
    if (← functionAt number).result.isDeduced then g.readBody number
    return some (typeOfFunction (← functionAt number), true)
  match operand with
  | .place type _ _ isSpare => return some (type, !isSpare || type.isFunction)
  | .fresh type _ => return some (type, false)
  | .value type _ => return some (type.bare, false)
  | .functions [number] [] _ none _ => ofFunction number
  | .functions [] [template] given none _ =>
    match ← g.functionFor template given [] with
    | some number => ofFunction number
    | none => return none
  | _ => return none

/-- The type of the items of a list as a parameter. -/
def listShape? (wanted : CType) : Parse (Option (CType × Option CType)) := do
  let templates := (← get).templates
  match wanted.referred.bare with
  | .pattern text [item] => do
    let template? := (text.toNat?).bind fun number => templates[number]?
    return if template?.any fun (template : Template) => template.name == "initializer_list" then
      some (item, none) else none
  | .arrayOf count item => return some (item, some count)
  | .array (some count) item => return some (item, some (.number count))
  | _ => return none

/-- What a parameter of a function tells about those of its template. -/
def learnOne (g : Grammar) (matching : Matching) (wanted : CType) (operand : Operand)
    (known : Substitution) : Parse Substitution := do
  let records := (← get).records
  match operand with
  | .braces items => do
    match ← listShape? wanted with
    | none => return known
    | some (item, count?) => do
      let known ← items.foldlM (fun known entry => do
        match ← operandType? g entry.2 with
        | some (type, _) => orFail (matchArgument? matching records item.bare type.valued known)
        | none => return known) known
      match count? with
      | some count => orFail (matching.type? count (.number items.length) known)
      | none => return known
  | operand => do
    match ← operandType? g operand with
    | none => return known
    | some (type, isPlace) =>
      match wanted with
      | .reference toValue target => do
        let isOpen : Bool := match target with
          | .parameter name => toValue && matching.names.contains name
          | _ => false
        if isOpen then
          orFail (matching.type? target (if isPlace then .reference false type else type) known)
        else
          match target with
          | .const inner => orFail (matchArgument? matching records inner type.loosened known)
          | .arrayOf _ (.const _) | .array _ (.const _) =>
            orFail (matchArgument? matching records target type.constant known)
          | inner => orFail (matchArgument? matching records inner type known)
      | wanted => orFail (matchArgument? matching records wanted.bare type.valued known)

/-- What operands behind the others tell about parameters for any number of types. -/
def learnMany (g : Grammar) (matching : Matching) (wanted : CType) (operands : List Operand)
    (known : Substitution) : Parse Substitution := do
  let own := wanted.parameterNames.filter matching.packs.contains
  let given := (own.map fun name => (known.items name).length).foldl max 0
  let start := known.without own
  let (common, done) ← operands.zipIdx.foldlM (fun (state : Substitution × List Substitution) (operand, index) => do
    let (common, done) := state
    if index < given then
      let kept := own.filterMap fun name => ((known.items name)[index]?).map fun type => (name, type)
      return (common, kept :: done)
    else
      let next ← learnOne g matching wanted operand common
      let taken := own.filterMap fun name => (next.lookup name).map fun type => (name, type)
      return (next.without own, taken :: done)) (start, [])
  let packs := own.map fun name => (name, CType.pack (done.reverse.filterMap (·.lookup name)))
  return packs ++ common

/-- What operands tell about the parameters of a template. -/
def learnAll (g : Grammar) (matching : Matching) :
    List CType → List Operand → Substitution → Parse Substitution
  | [.expansion wanted], operands, known =>
    if wanted.parameterNames.all matching.fixed.contains then return known
    else learnMany g matching wanted operands known
  | wanted :: others, operand :: rest, known => do
    let names := wanted.parameterNames.filter matching.names.contains
    let known ← if names.all matching.fixed.contains then pure known
      else learnOne g matching wanted operand known
    learnAll g matching others rest known
  | _, _, known => return known

/-- What the parameters of a template of functions stand for when some arguments are given. -/
def given? (template : Template) (given : List CType) : Option (Substitution × List String) :=
  (positional? template.parameters given).map fun known =>
    (known, known.filterMap fun entry => match entry.2 with
      | .pack _ => none
      | _ => some entry.1)

/-! ### Functions -/

/-- A type in which parameters are spelled by their places, and templates by their names. -/
def spelled (templates : Std.TreeMap Nat Template) (places : List (String × String)) :
    CType → CType
  | .parameter name => .parameter ((places.lookup name).getD name)
  | .pointer type => .pointer (spelled templates places type)
  | .reference toValue type => .reference toValue (spelled templates places type)
  | .array count item => .array count (spelled templates places item)
  | .const type => .const (spelled templates places type)
  | .expansion type => .expansion (spelled templates places type)
  | .arrayOf count item =>
    .arrayOf (spelled templates places count) (spelled templates places item)
  | .pattern text arguments =>
    let name := ((text.toNat?).bind fun number => (templates[number]?).map (·.name)).getD text
    .pattern name (spelledAll templates places arguments)
  | other => other
where
  /-- The same for several types. -/
  spelledAll (templates : Std.TreeMap Nat Template) (places : List (String × String)) :
      List CType → List CType
    | [] => []
    | first :: rest => spelled templates places first :: spelledAll templates places rest

/-- The letters for the place of a parameter. -/
def placeLetters (index : Nat) : String := if index = 0 then "" else toString (index - 1)

/-- The symbol of a function that a template makes. -/
def symbolOfUse (template : Template) (arguments : List CType) (intent : Intent)
    (isMember : Bool) : Parse String := do
  let reading ← get
  let places := template.parameters.zipIdx.map fun (parameter, index) =>
    (parameter.name, placeLetters index)
  let spell := spelled reading.templates places
  let packs := arguments.drop (template.parameters.filter fun parameter => !parameter.isPack).length
  let arguments := if template.parameters.any (·.isPack) then
      arguments.take (arguments.length - packs.length) ++ [.pack packs]
    else arguments
  let isKnown (type : CType) : Bool := match type with
    | .unknown => false
    | _ => true
  let plain := intent.parameters.map fun parameter => parameter.type.bare
  let shape := if template.shape.all isKnown then template.shape.map fun type => spell type.bare
    else plain
  let result := if isKnown template.result then spell template.result else intent.result
  let path := pathOf reading searchDepth (homeOf reading searchDepth template.scope)
  return Symbol.ofUse path (keyOf intent.declarator.naming) (roleOf intent.declarator.naming)
    isMember intent.tail.manner.isConst arguments result shape intent.tail.manner.isOpen

/-- The body of a function in the tokens behind its declarator, to be read when it is needed. -/
def lazyBody (owner : Option String) (function : Function) : Parse Body := do
  match (← get).tokens with
  | .mark "=" :: .name "delete" :: _ => return .deleted
  | .mark "=" :: .name "default" :: _ => do
    return .default (← orFail (defaultFor? (← orFail owner) function))
  | .mark "\x7b" :: _ | .mark ":" :: _ | .name "try" :: _ => do
    discard (optionWord "try")
    let (starts, body) ← bodyTokens
    return .onDemand starts body
  | _ => return .elsewhere

/-- Makes a function that a template says for arguments. -/
def useFunction (g : Grammar) (template : Template) (known : Substitution) : Parse Nat := do
  let (arguments, scope) ← settledUse g template known
  let template ← templateAt template.number
  match template.uses.find? fun use => CType.sameAll use.1 arguments with
  | some (_, number, _) => return number
  | none => do
    require (← conditionsHold g template scope)
    let number ← fresh
    let function ← apart scope template.tokens (do
      let found ← specifiers g
      let declarator ← declarator g
      let intent ← orFail (← intentOf? found declarator)
      discard takeMeasures
      let owner := template.owner
      let role := roleOf declarator.naming
      let isMember := owner.isSome && !found.isStatic
      let symbol ← symbolOfUse template arguments intent isMember
      let reading ← get
      let secret := isSecret reading searchDepth scope || (found.isStatic && owner.isNone)
      let attributes := declarator.attributes.and found.attributes
      let function : Function :=
        { number, name := keyOf declarator.naming, symbol := attributes.symbol.getD symbol
          result := intent.result, parameters := intent.parameters, manner := intent.tail.manner
          owner, role, isMember, isExplicit := found.isExplicit, access := template.access
          linkage := if secret then .inner else .shared, onValue := intent.tail.onValue
          scope, packs := intent.tail.packs, isInline := true, isConstexpr := found.isConstexpr
          endsRun := found.endsRun || attributes.endsRun, nothrow := intent.tail.nothrow
          visible := reading.visibilities.head?, origin := some (template.number, arguments) }
      return { function with body := ← lazyBody owner function })
    modify fun reading => { reading with functions := reading.functions.insert number function }
    changeTemplate template.number fun template =>
      { template with uses := (arguments, number, .void) :: template.uses }
    return number

/-- The function that a template makes, with arguments that are given and those that operands
tell. -/
def functionFor (g : Grammar) (number : Nat) (given : List CType) (operands : List Operand) :
    Parse (Option Nat) := optional do
  let template ← templateAt number
  require (template.product == .function)
  let (known, fixed) ← orFail (given? template given)
  let matching ← matchingOf template fixed
  let known ← learnAll g matching template.shape operands known
  useFunction g template known

/-- The function that a template makes with parameters of some types. -/
def functionOfTypes? (g : Grammar) (number : Nat) (given : List CType) (types : List CType) :
    Parse (Option Nat) := optional do
  let template ← templateAt number
  require (template.product == .function)
  let (known, fixed) ← orFail (given? template given)
  let matching ← matchingOf template []
  let shape := template.shape.map fun type => type.bare
  let known ← orFail (matching.types? shape types known)
  let _ := fixed
  let number ← useFunction g template known
  let function ← functionAt number
  require (CType.sameAll (function.parameters.map fun parameter => parameter.type.bare) types)
  return number

/-! ### Definitions of members outside their class -/

/-- Reads a member that is defined outside its class, for one use of the template of the class. -/
def applyOuter (g : Grammar) (tag : String) (known : Substitution)
    (definition : List TemplateParameter × List Token) : Parse Unit := do
  let record ← recordAt tag
  let (parameters, tokens) := definition
  let scope ← addScope (some record.scope) .template
  (parameters.zip known).forM fun (parameter, entry) =>
    discard (bindArgument g scope parameter entry.2)
  match tokens with
  | .name "template" :: _ | .name "struct" :: _ | .name "class" :: _ | .name "union" :: _
  | .name "enum" :: _ => wholly scope tokens g.outerDeclaration
  | _ =>
    apart scope tokens do
      let found ← specifiers g
      let declarator ← declarator g
      if isFunctionShape declarator then
        let intent ← orFail (← intentOf? found declarator)
        let number ← declareFunction intent
        discard takeMeasures
        let function ← functionAt number
        let body ← lazyBody (some tag) function
        changeFunction number fun function => { function with
          parameters := mergedParameters function.parameters intent.parameters
          packs := intent.tail.packs
          body, scope, linkage := .shared, isInline := true }
        if function.isUsed then
          modify fun reading => { reading with waiting := number :: reading.waiting }
      else
        let base ← orFail found.type
        outerVariable g { found with isInline := true, isStatic := false } declarator
          (base.shaped declarator.shapes)

/-! ### Classes -/

/-- Reads the arguments that a template for some arguments only is for. -/
def patternHere (g : Grammar) (template : Template) : Parse (List CType) := do
  match template.product with
  | .record => do
    skip 1
    discard (attributes g)
    discard (nested g)
    discard identifier
    templateArguments g
  | _ => do
    discard (specifiers g)
    let declarator ← declarator g
    orFail declarator.given

/-- What the parameters of a template for some arguments only stand for, when it is for the given
ones. -/
def specialFor? (g : Grammar) (primary special : Template) (arguments : List CType) :
    Parse (Option Substitution) := trial do
  let matching ← matchingOf special []
  let pattern ← orFail special.pattern
  let known ← orFail (matching.types? pattern arguments [])
  let (_, scope) ← settledUse g special known
  require (← conditionsHold g special scope)
  let again ← apart scope special.tokens (patternHere g special)
  let whole ← orFail (positional? primary.parameters again)
  let (again, _) ← settledUse g primary whole
  require (CType.sameAll again arguments)
  return known

/-- Whether one template is for less than another one. -/
def isMoreSpecial (first second : Template) : Parse Bool := do
  let reaches (wide narrow : Template) : Parse Bool := do
    let matching ← matchingOf wide []
    match wide.pattern, narrow.pattern with
    | some wide, some narrow => return (matching.types? wide narrow []).isSome
    | _, _ => return false
  let below ← reaches second first
  let above ← reaches first second
  let conditions (template : Template) : Nat :=
    (template.parameters.filter (·.condition.isSome)).length + template.condition.toList.length
  return below && (!above || conditions second < conditions first)

/-- The template that a use is read from, with what its parameters stand for. -/
def definition? (g : Grammar) (template : Template) (arguments : List CType) :
    Parse (Option (Template × Substitution)) := do
  let special ← template.special.filterMapM fun number => do
    let special ← templateAt number
    return (← specialFor? g template special arguments).map fun known => (special, known)
  match special with
  | [] => return (positional? template.parameters arguments).map fun known => (template, known)
  | [found] => return some found
  | several => do
    let best ← several.filterM fun (special, _) => do
      let found ← several.mapM fun (other, _) => do
        if other.number = special.number then return true else isMoreSpecial special other
      return found.all id
    match best with
    | [found] => return some found
    | _ => failure

/-- What the parameters of a template stand for, in their order. -/
def inOrder (template : Template) (known : Substitution) : Substitution :=
  template.parameters.map fun parameter =>
    (parameter.name, (known.lookup parameter.name).getD (.pack []))

/-- Whether the tokens of a class have its members. -/
def hasMembers (tokens : List Token) : Bool := tokens.contains (.mark "\x7b")

/-- Reads the definition of a use of a template for a class, when there is one. -/
def completeUse (g : Grammar) (template : Template) (tag : String) (arguments : List CType) :
    Parse Unit := do
  let opened := (← get).opened
  if opened.contains tag then return ()
  else
    match ← definition? g template arguments with
    | none => return ()
    | some (chosen, known) => do
      if !hasMembers chosen.tokens then return ()
      let (_, scope) ← settledUse g chosen known
      let record ← recordAt tag
      changeScope record.scope fun found => { found with parent := some scope }
      modify fun reading => { reading with opened := tag :: opened }
      apart scope chosen.tokens do
        modify fun reading => { reading with pending := some tag }
        discard g.tagged
      modify fun reading => { reading with opened }
      let chosen ← templateAt chosen.number
      chosen.outer.reverse.forM (applyOuter g tag (inOrder chosen known))

/-- Adds a record for a use of a template. -/
def newUse (template : Template) (arguments : List CType) : Parse String := do
  let reading ← get
  let path := pathOf reading searchDepth template.scope
  let name := Symbol.useName template.name (Symbol.fullAll arguments)
  let plain := "::".intercalate (path ++ [name])
  let number ← fresh
  let tag := if reading.records.contains plain then plain ++ "#" ++ toString number else plain
  let scope ← addScope (some template.scope) (.record tag)
  let record : Record :=
    { tag, name := template.name, path := path ++ [name], isUnion := false, scope
      origin := some (template.number, arguments), isLazy := true }
  modify fun reading => { reading with records := reading.records.insert tag record }
  changeTemplate template.number fun template =>
    { template with uses := (arguments, 0, .record tag) :: template.uses }
  return tag

/-- The class that a template makes of arguments that are known. -/
def classFor (g : Grammar) (template : Template) (arguments : List CType) : Parse CType := do
  let tag ← (do
    match template.uses.find? fun use => CType.sameAll use.1 arguments with
    | some (_, _, .record tag) => pure tag
    | _ => newUse template arguments : Parse String)
  if !(← recordAt tag).isComplete then
    discard (optional (do
      completeUse g (← templateAt template.number) tag arguments
      require (← recordAt tag).isComplete))
  return .record tag

/-- The type that a template makes of arguments. -/
def typeFor (g : Grammar) (number : Nat) (given : List CType) : Parse CType := do
  let template ← templateAt number
  match template.uses.find? fun use => CType.sameAll use.1 given with
  | some (arguments, _, .record _) => classFor g template arguments
  | _ => do
    let known ← orFail (positional? template.parameters given)
    match template.product with
    | .synonym =>
      let read : Parse CType := do
        let (_, scope) ← settledUse g template known
        require (← conditionsHold g template scope)
        wholly scope template.tokens g.typeName
      if CType.areOpen given then read <|> pure .unknown else read
    | .record => do
      if CType.areOpen given then
        let settled? ← optional (settledUse g template known)
        let arguments := (settled?.map (·.1)).getD given
        return .pattern (toString number) arguments
      else
        let (arguments, scope) ← settledUse g template known
        require (← conditionsHold g template scope)
        classFor g (← templateAt number) arguments
    | _ => failure

/-! ### Variables and conditions -/

/-- The variable that a template makes of arguments. -/
def variableFor (g : Grammar) (template : Template) (arguments : List CType) : Parse Operand := do
  let scope ← (do
    match template.uses.find? fun use => CType.sameAll use.1 arguments with
    | some (_, scope, _) => pure scope
    | none => do
      let (chosen, known) ← orFail (← definition? g template arguments)
      let (_, scope) ← settledUse g chosen known
      let reading ← get
      let path := pathOf reading searchDepth template.scope
      let symbol := "_Z" ++ String.join (path.map Symbol.counted)
        ++ Symbol.counted (Symbol.useName template.name (Symbol.fullAll arguments))
      apart scope chosen.tokens do
        let found ← specifiers g
        let declarator ← declarator g
        let base ← orFail found.type
        let attributes := { declarator.attributes with symbol := some symbol }
        let named : Declarator :=
          { declarator with naming := .plain template.name, place := .here, given := none, attributes }
        outerVariable g { found with isInline := true, isStatic := false } named
          (base.shaped declarator.shapes)
      changeTemplate template.number fun template =>
        { template with uses := (arguments, scope, .void) :: template.uses }
      pure scope : Parse Nat)
  match (← scopeAt scope).names[template.name]? with
  | some (.object found) => variableOperand found
  | _ => failure

/-- The variable that a template makes of arguments, or what a condition says about them. -/
def useOf (g : Grammar) (number : Nat) (given : List CType) : Parse Operand := do
  let template ← templateAt number
  let known ← orFail (positional? template.parameters given)
  let (arguments, scope) ← settledUse g template known
  match template.product with
  | .condition => do
    let held ← holds g scope template.tokens
    return .value .bool (.word (if held then 1 else 0))
  | .object => do
    require (← conditionsHold g template scope)
    variableFor g (← templateAt number) arguments
  | _ => failure

end Parse

end KernelCache.C
