import KernelCache.C.Use

/-
**Declarations of templates.**

A template is kept as tokens. What is read at its declaration are its parameters, its name and, for a
function, the types of the parameters as far as they are known.

* `Parse.templateHere` reads the declaration of a template, a version of it for some arguments only,
  or a member of a template of classes that is defined outside.
* `Parse.guess` is the class that operands tell, and `Parse.requirementHere` reads a condition on
  types.
-/

namespace KernelCache.C

open KernelCache.Code (Term Value Kind Instruction Linkage)

namespace Parse

/-! ### Parameters -/

/-- The items between the brackets for the parameters of a template, and what is behind them. -/
def angleItems (isTemplate : String → Bool) :
    Nat → Nat → Nat → List Token → List (List Token) → List Token →
      Option (List (List Token) × List Token)
  | 0, _, _, _, _, _ => none
  | _ + 1, _, _, _, _, [] => none
  | fuel + 1, depth, angles, item, done, token :: rest =>
    let go (depth angles : Nat) := angleItems isTemplate fuel depth angles (token :: item) done rest
    let finish (item rest : List Token) := some ((item.reverse :: done).reverse, rest)
    match token with
    | .mark "(" | .mark "[" | .mark "\x7b" => go (depth + 1) angles
    | .mark ")" | .mark "]" | .mark "\x7d" => if depth = 0 then none else go (depth - 1) angles
    | .mark "," =>
      if depth = 0 && angles = 0 then
        angleItems isTemplate fuel depth angles [] (item.reverse :: done) rest
      else go depth angles
    | .mark "<" =>
      let opens : Bool := match item with
        | .name name :: _ => name == "template" || isTemplate name
        | _ => false
      go depth (if opens && depth = 0 then angles + 1 else angles)
    | .mark ">" =>
      if 0 < depth then go depth angles
      else if angles = 0 then finish item rest else go depth (angles - 1)
    | .mark ">>" =>
      if 0 < depth then go depth angles
      else if angles = 0 then finish item (.mark ">" :: rest)
      else if angles = 1 then finish (.mark ">" :: item) rest
      else go depth (angles - 2)
    | .mark ">=" =>
      if depth = 0 && angles = 0 then finish item (.mark "=" :: rest) else go depth angles
    | _ => go depth angles

/-- Words that leave it open which type is meant. -/
def vagueWords : List String := ["const", "volatile", "typename", "class", "struct", "enum"]

/-- The name that the tokens of a parameter introduce. -/
def nameOfParameter (tokens : List Token) : Option String :=
  let rec inside : List Token → Option String
    | .mark "*" :: .name name :: .mark ")" :: _ | .mark "&" :: .name name :: .mark ")" :: _
    | .mark "&" :: .name name :: .mark "[" :: _ => some name
    | _ :: rest => inside rest
    | [] => none
  let isType (token : Token) : Bool := match token with
    | .name word => !vagueWords.contains word
    | .mark _ => true
    | _ => false
  if tokens.contains (.mark "(") then inside tokens
  else
    match tokens.reverse with
    | .name _ :: .mark "::" :: _ => none
    | .name name :: before =>
      if isReserved true 2020 name || !before.any isType then none else some name
    | _ => none

/-- The tokens of a name of a condition on types with its arguments in front of tokens, and those
behind it. -/
def conditionName? (g : Grammar) (tokens : List Token) :
    Parse (Option (List Token × List Token × List Token)) := optional do
  beginning tokens do
    let place ← nested g
    let name ← identifier
    match ← findIn? place name with
    | some (.template number, _) => require ((← templateAt number).product == .condition)
    | _ => failure
    let behind := (← get).tokens
    let front := tokens.take (tokens.length - behind.length)
    match behind with
    | .mark "<" :: rest => do
      let (items, rest) ← orFail
        (angleItems (isTemplateName (← get)) (rest.length + 1) 0 0 [] [] rest)
      return (front, List.intercalate [Token.mark ","] items, rest)
    | behind => return (front, [], behind)

/-- What one parameter of a template is. -/
def parameterFrom (g : Grammar) (index : Nat) (tokens : List Token) : Parse TemplateParameter := do
  let front := tokens.takeWhile (· != .mark "=")
  let initial : Option (List Token) :=
    if front.length = tokens.length then none else some (tokens.drop (front.length + 1))
  let nameless := "(" ++ toString index ++ ")"
  let made (name : Option String) (slot : Slot) (isPack : Bool) (condition : Option (List Token)) :
      TemplateParameter :=
    { name := name.getD nameless, slot, isPack, initial, condition }
  let named (rest : List Token) : Parse (Option String × Bool) := do
    let isPack := rest.head? == some (.mark "...")
    match if isPack then rest.drop 1 else rest with
    | [] => return (none, isPack)
    | [.name name] => return (some name, isPack)
    | _ => failure
  let valued : Parse TemplateParameter := do
    let isPack := front.contains (.mark "...")
    let plain := front.filter (· != .mark "...")
    return made (nameOfParameter plain) (.value plain) isPack none
  match front with
  | .name "template" :: .mark "<" :: rest => do
    let (_, behind) ← orFail (angleItems (fun _ => false) (rest.length + 1) 0 0 [] [] rest)
    match behind with
    | .name "class" :: rest | .name "typename" :: rest => do
      let (name, isPack) ← named rest
      return made name .template isPack none
    | _ => failure
  | .name "class" :: rest | .name "typename" :: rest =>
    (do
      let (name, isPack) ← named rest
      return made name .type isPack none) <|> valued
  | _ => do
    match ← conditionName? g front with
    | some (condition, arguments, .name "auto" :: rest) => do
      let (name, isPack) ← named rest
      let _ := condition
      let _ := arguments
      return made name (.value [.name "auto"]) isPack none
    | some (condition, arguments, rest) => do
      let (name, isPack) ← named rest
      let own := name.getD nameless
      let others := if arguments.isEmpty then [] else .mark "," :: arguments
      let use := condition ++ .mark "<" :: .name own :: others ++ [.mark ">"]
      let whole : List Token := if isPack then
          .mark "(" :: use ++ [.mark "&&", .mark "...", .mark ")"]
        else use
      return made name .type isPack (some whole)
    | none => valued

/-- Reads the parameters of a template. -/
def templateHead (g : Grammar) : Parse (List TemplateParameter) := do
  mark "<"
  let reading ← get
  let (items, rest) ← orFail
    (angleItems (isTemplateName reading) (reading.tokens.length + 1) 0 0 [] [] reading.tokens)
  modify fun reading => { reading with tokens := rest }
  if items == [[]] then return []
  else items.zipIdx.mapM fun (tokens, index) => parameterFrom g index tokens

/-- A scope in which the parameters of a template stand for nothing yet. -/
def openScope (parameters : List TemplateParameter) : Parse Nat := do
  let scope ← addScope (some (← get).scope) .template
  parameters.forM fun parameter =>
    bindIn scope parameter.name (.type (.parameter parameter.name) .everyone)
  return scope

/-! ### Tokens of declarations -/

/-- Reads the tokens of a declaration. -/
def declarationTokensUpTo : Nat → List Token → Parse (List Token)
  | 0, _ => failure
  | fuel + 1, taken => do
    match (← get).tokens with
    | .mark ";" :: _ => do
      skip 1
      return (.mark ";" :: taken).reverse
    | .mark "\x7b" :: _ => do
      let inner ← balanced
      let taken := inner.reverse ++ taken
      match (← get).tokens with
      | .mark ";" :: _ => do
        skip 1
        return (.mark ";" :: taken).reverse
      | .mark "," :: _ | .mark "\x7b" :: _ => declarationTokensUpTo fuel taken
      | .name "catch" :: _ => declarationTokensUpTo fuel taken
      | _ => return taken.reverse
    | .mark "(" :: _ | .mark "[" :: _ => do
      let inner ← balanced
      declarationTokensUpTo fuel (inner.reverse ++ taken)
    | token :: _ => do
      skip 1
      declarationTokensUpTo fuel (token :: taken)
    | [] => failure

/-- Reads the tokens of a declaration. -/
def declarationTokens : Parse (List Token) := do
  declarationTokensUpTo ((← get).tokens.length + 1) []

/-! ### Keeping templates -/

/-- Keeps a template. -/
def keepTemplate (template : Template) : Parse Unit :=
  modify fun reading => { reading with
    templates := reading.templates.insert template.number template
    templateNames := reading.templateNames.insert template.name () }

/-- Parameters with what was said about them before. -/
def mergedHeads (old new : List TemplateParameter) : List TemplateParameter :=
  new.zipIdx.map fun (parameter, index) =>
    { parameter with
      initial := parameter.initial.or ((old[index]?).bind fun parameter => parameter.initial) }

/-- The types of a template with the names of parameters of another one. -/
def renamed (own other : List TemplateParameter) (types : List CType) : List CType :=
  let places := (own.zip other).map fun (parameter, other) => (parameter.name, other.name)
  spelled.spelledAll {} places types

/-- Whether two templates are declarations of one. -/
def isSameHead (a b : Template) : Bool :=
  let kinds (template : Template) : List (Bool × Nat) := template.parameters.map fun parameter =>
    (parameter.isPack, match parameter.slot with
      | .type => 0
      | .value _ => 1
      | .template => 2)
  let slots (template : Template) : List (List Token) := template.parameters.map fun parameter =>
    match parameter.slot with
    | .value tokens => tokens.filter fun token => token != .name parameter.name
    | _ => []
  kinds a == kinds b && a.condition == b.condition && (slots a == slots b || a.parameters.isEmpty)
    && CType.sameAll (renamed a.parameters b.parameters (a.shape ++ [a.result])) (b.shape ++ [b.result])

/-- Gives a use of a template that was made before the template had a body its body. -/
def completeFunction (g : Grammar) (template : Template) (arguments : List CType) (number : Nat) :
    Parse Unit := do
  let known ← orFail (positional? template.parameters arguments)
  let (_, scope) ← settledUse g template known
  apart scope template.tokens do
    let found ← specifiers g
    let declarator ← declarator g
    let intent ← orFail (← intentOf? found declarator)
    discard takeMeasures
    let function ← functionAt number
    let body ← lazyBody template.owner function
    changeFunction number fun function => { function with
      parameters := mergedParameters function.parameters intent.parameters
      packs := intent.tail.packs
      body, scope }
    if function.isUsed then
      modify fun reading => { reading with waiting := number :: reading.waiting }

/-- Adds a template of functions to a scope, or what a declaration says to one that is known. -/
def addFunctionTemplate (g : Grammar) (home : Nat) (template : Template) (hasBody : Bool) :
    Parse Unit := do
  let name := template.name
  let (numbers, templates) ← functionsIn home name
  let isBodied (template : Template) : Bool := template.tokens.getLast? != some (.mark ";")
  let olds ← templates.mapM templateAt
  match olds.find? fun old => isSameHead old template && !(isBodied old && hasBody) with
  | some old =>
    if isBodied old then
      changeTemplate old.number fun old =>
        { old with parameters := mergedHeads template.parameters old.parameters }
    else
      let parameters := mergedHeads old.parameters template.parameters
      let whole := { template with number := old.number, parameters, uses := old.uses, access := old.access }
      changeTemplate old.number fun _ => whole
      if hasBody then
        old.uses.forM fun (arguments, number, _) => completeFunction g whole arguments number
  | none => do
    keepTemplate template
    bindIn home name (.functions numbers (templates ++ [template.number]))

/-- Reads a template of functions or of variables in its tokens. -/
def plainTemplate (g : Grammar) (isFriend : Bool) (parameters : List TemplateParameter)
    (condition : Option (List Token)) (tokens : List Token) : Parse Unit := do
  let here := (← get).scope
  let scope ← openScope parameters
  let (found, declarator, intent?, hasBody) ← apart scope tokens (do
    let found ← specifiers g
    let declarator ← declarator g
    let intent? ← intentOf? found declarator
    discard takeMeasures
    let hasBody := !(← sees ";")
    return (found, declarator, intent?, hasBody))
  let reading ← get
  let number ← fresh
  match intent? with
  | some intent => do
    let home := if isFriend || found.isFriend then spaceOf reading searchDepth here else intent.scope
    let owner := if isFriend || found.isFriend then none else intent.owner
    let template : Template :=
      { number, name := keyOf declarator.naming, product := .function, parameters, tokens
        shape := intent.parameters.map fun parameter => parameter.type
        result := intent.result, scope := here, owner, access := reading.access, condition }
    addFunctionTemplate g home template hasBody
  | none => do
    let name := declarator.name
    require (name != "")
    match declarator.given with
    | some pattern => do
      match ← findIn? declarator.place name with
      | some (.template primary, _) => do
        keepTemplate
          { number, name, product := .object, parameters, tokens, scope := here, condition
            pattern := some pattern }
        changeTemplate primary fun template =>
          { template with special := template.special ++ [number] }
      | _ => failure
    | none => do
      keepTemplate
        { number, name, product := .object, parameters, tokens, scope := here, condition
          access := reading.access }
      bind name (.template number)

/-! ### Classes -/

/-- Words that classes start with. -/
def classWords : List String := ["class", "struct", "union"]

/-- Whether tokens declare or define a class. -/
def declaresClass (g : Grammar) (tokens : List Token) : Parse Bool := do
  match tokens with
  | .name text :: rest =>
    if !classWords.contains text then return false
    else would <| beginning rest do
      discard (attributes g)
      discard (nested g)
      discard identifier
      if ← option "<" then
        let reading ← get
        let rest ← orFail
          (behindAngles (isTemplateName reading) (reading.tokens.length + 1) reading.tokens)
        modify fun reading => { reading with tokens := rest }
      let next ← peek
      require ([Token.mark "\x7b", .mark ":", .mark ";", .name "final"].contains next)
  | _ => return false

/-- Reads a version of a template of classes for given arguments. -/
def explicitClass (g : Grammar) (primary : Nat) (arguments : List CType) (tokens : List Token) :
    Parse Unit := do
  let template ← templateAt primary
  let known ← orFail (positional? template.parameters arguments)
  let (arguments, _) ← settledUse g template known
  let template ← templateAt primary
  let tag ← (do
    match template.uses.find? fun use => CType.sameAll use.1 arguments with
    | some (_, _, .record tag) => pure tag
    | _ => newUse template arguments : Parse String)
  if hasMembers tokens then
    require !(← recordAt tag).isComplete
    changeRecord tag fun record => { record with isLazy := false }
    let opened := (← get).opened
    modify fun reading => { reading with opened := tag :: opened }
    apart (← get).scope tokens do
      modify fun reading => { reading with pending := some tag }
      discard g.tagged
    modify fun reading => { reading with opened }
  else
    -- A declaration alone keeps the use from being read from the template.
    changeTemplate primary fun template => { template with special := template.special }

/-- Reads a template of classes in its tokens. -/
def classTemplate (g : Grammar) (parameters : List TemplateParameter)
    (condition : Option (List Token)) (tokens : List Token) : Parse Unit := do
  let here := (← get).scope
  let access := (← get).access
  let scope ← openScope parameters
  let (place, name, pattern?) ← apart scope tokens (do
    skip 1
    discard (attributes g)
    let place ← nested g
    let name ← identifier
    let pattern? ← if ← sees "<" then pure (some (← templateArguments g)) else pure none
    return (place, name, pattern?))
  let known ← (do
    match place, pattern? with
    | .here, none => pure ((← scopeAt here).names[name]?)
    | place, _ => pure ((← findIn? place name).map (·.1)) : Parse (Option Entity))
  match pattern?, known with
  | none, some (.template number) => do
    let old ← templateAt number
    require (old.product == .record && !parameters.isEmpty)
    let isNew := hasMembers tokens
    require !(isNew && hasMembers old.tokens)
    changeTemplate number fun old =>
      if isNew then
        { old with parameters := mergedHeads old.parameters parameters, tokens, scope := here, condition }
      else { old with parameters := mergedHeads parameters old.parameters }
  | none, none => do
    require !parameters.isEmpty
    let number ← fresh
    keepTemplate
      { number, name, product := .record, parameters, tokens, scope := here, condition, access }
    bind name (.template number)
  | some pattern, some (.template primary) =>
    if parameters.isEmpty then explicitClass g primary pattern tokens
    else do
      let template ← templateAt primary
      let known ← orFail (positional? template.parameters pattern)
      let settled? ← optional (settledUse g template known)
      let number ← fresh
      keepTemplate
        { number, name, product := .record, parameters, tokens, scope := here, condition
          pattern := some ((settled?.map (·.1)).getD pattern) }
      changeTemplate primary fun template =>
        { template with special := template.special ++ [number] }
  | _, _ => failure

/-! ### Synonyms and conditions -/

/-- Reads another name for types, or a condition on types, in its tokens. -/
def namedTemplate (g : Grammar) (product : Product) (parameters : List TemplateParameter)
    (condition : Option (List Token)) (tokens : List Token) : Parse Unit := do
  let here := (← get).scope
  let access := (← get).access
  let (name, tokens) ← beginning tokens (do
    skip 1
    let name ← identifier
    discard (attributes g)
    mark "="
    let tokens := (← get).tokens
    require (tokens.getLast? == some (.mark ";"))
    return (name, tokens.dropLast))
  require ((← scopeAt here).names[name]?).isNone
  let number ← fresh
  keepTemplate { number, name, product, parameters, tokens, scope := here, condition, access }
  bind name (.template number)

/-! ### Members outside their class -/

/-- The template of classes that tokens define a member of, with the arguments in front of it. -/
def ownerIn (g : Grammar) : Nat → Place → List Token → Option (Nat × List CType) →
    Parse (Option (Nat × List CType))
  | 0, _, _, found => return found
  | fuel + 1, place, tokens, found => do
    match tokens with
    | [] | .mark "(" :: _ | .mark "\x7b" :: _ | .mark "=" :: _ | .mark ";" :: _ => return found
    | .name "decltype" :: .mark "(" :: rest => do
      let rest ← orFail (balancedUpTo (rest.length + 2) 0 [] (.mark "(" :: rest))
      ownerIn g fuel .here rest.2 found
    | .name name :: .mark "::" :: rest => do
      match ← findIn? place name with
      | some (.space scope, _) => ownerIn g fuel (.inside scope) rest found
      | _ => ownerIn g fuel .here rest found
    | .name name :: .mark "<" :: rest => do
      match ← findIn? place name with
      | some (.template number, _) => do
        if (← templateAt number).product != .record then ownerIn g fuel .here rest found
        else
          let read ← optional (beginning (.mark "<" :: rest) do
            let arguments ← templateArguments g
            return (arguments, (← get).tokens))
          match read with
          | some (arguments, .mark "::" :: rest) =>
            let found := if isDeclared (rest.length + 1) rest then some (number, arguments) else found
            ownerIn g fuel .here rest found
          | some (_, rest) => ownerIn g fuel .here rest found
          | none => ownerIn g fuel .here rest found
      | _ => ownerIn g fuel .here rest found
    | _ :: rest => ownerIn g fuel .here rest found
where
  /-- Whether tokens are the name that a declaration introduces. -/
  isDeclared : Nat → List Token → Bool
    | 0, _ => false
    | _ + 1, .name "operator" :: _ | _ + 1, .mark "~" :: _ => true
    | fuel + 1, .name _ :: .mark "::" :: rest => isDeclared fuel rest
    | _ + 1, .name _ :: .name "final" :: _ => true
    | _ + 1, .name _ :: .mark text :: _ =>
      ["(", "=", ";", "\x7b", "[", "<", ",", ":"].contains text
    | _, _ => false

/-- Keeps the definition of a member outside its class, and reads it for the uses that there are. -/
def addOuter (g : Grammar) (primary : Nat) (arguments : List CType)
    (parameters : List TemplateParameter) (tokens : List Token) : Parse Unit := do
  let template ← templateAt primary
  let plain := template.parameters.map fun parameter =>
    if parameter.isPack then CType.expansion (.parameter parameter.name)
    else .parameter parameter.name
  let isPlain := CType.sameAll (renamed parameters template.parameters arguments) plain
  let chosen ← (do
    if isPlain then pure template
    else
      let specials ← template.special.mapM templateAt
      orFail (specials.find? fun special =>
        CType.sameAll (renamed parameters special.parameters arguments) (special.pattern.getD []))
    : Parse Template)
  let definition := (parameters, tokens)
  changeTemplate chosen.number fun template =>
    { template with outer := definition :: template.outer }
  template.uses.forM fun (arguments, _, type) => do
    match type with
    | .record tag =>
      if (← recordAt tag).isComplete then
        match ← definition? g template arguments with
        | some (found, known) =>
          if found.number = chosen.number then applyOuter g tag (inOrder found known) definition
        | none => pure ()
    | _ => pure ()

/-- Reads a template of functions of a class that is defined outside the class. -/
def outerTemplate (g : Grammar) (parameters : List TemplateParameter)
    (condition : Option (List Token)) (tokens : List Token) : Parse Unit := do
  let here := (← get).scope
  let scope ← openScope parameters
  let intent ← apart scope tokens (do
    let found ← specifiers g
    let declarator ← declarator g
    discard takeMeasures
    orFail (← intentOf? found declarator))
  let name := keyOf intent.declarator.naming
  let (_, templates) ← functionsIn intent.scope name
  let template : Template :=
    { number := 0, name, product := .function, parameters, tokens
      shape := intent.parameters.map fun parameter => parameter.type
      result := intent.result, scope := here, owner := intent.owner, condition }
  let olds ← templates.mapM templateAt
  let old ← orFail ((olds.find? fun old => isSameHead old template).or
    (match olds with
      | [old] => some old
      | _ => none))
  let whole : Template := { old with
    parameters := mergedHeads old.parameters parameters
    tokens, shape := template.shape, result := template.result, scope := here }
  changeTemplate old.number fun _ => whole
  old.uses.forM fun (arguments, number, _) => completeFunction g whole arguments number

/-! ### Versions for given arguments -/

/-- Gives a function the body behind its declarator. -/
def explicitBody (g : Grammar) (number : Nat) (intent : Intent) : Parse Unit := do
  let scope := (← get).scope
  if ← seesBody intent then
    discard (optionWord "try")
    let (starts, body) ← bodyTokens
    let isInline := intent.found.isInline || intent.found.isConstexpr
    changeFunction number fun function => { function with
      parameters := mergedParameters function.parameters intent.parameters
      packs := intent.tail.packs
      body := .tokens starts body
      scope := if intent.owner.isSome then intent.scope else scope
      linkage := if isInline then .shared else .outer
      isInline
      isConstexpr := intent.found.isConstexpr }
    g.readBody number
  else if ← option "=" then
    word "delete"
    changeFunction number fun function => { function with body := .deleted }
  else
    changeFunction number fun function => { function with body := .elsewhere }

/-- The function that a declaration means, when it is a use of a template or of a class. -/
def meantFunction (g : Grammar) (intent : Intent) : Parse Nat := do
  let name := keyOf intent.declarator.naming
  let (numbers, templates) ← functionsIn intent.scope name
  let functions ← numbers.mapM functionAt
  match functions.find? fun function => hasSignature function intent && intent.owner.isSome with
  | some function => return function.number
  | none => do
    let types := intent.parameters.map fun parameter => parameter.type.bare
    let given := intent.declarator.given.getD []
    let found ← templates.filterMapM fun template => do
      match ← functionOfTypes? g template given types with
      | some number => return some ((← templateAt template).shape.foldl
          (fun weight type => weight + specialty type) 0, number)
      | none => return none
    let best := (found.map (·.1)).foldl max 0
    orFail ((found.find? fun entry => entry.1 == best).map (·.2))

/-- Reads a version of a template for given arguments in its tokens. -/
def explicitPlain (g : Grammar) (tokens : List Token) : Parse Unit := do
  apart (← get).scope tokens do
    let found ← specifiers g
    let declarator ← declarator g
    match ← intentOf? found declarator with
    | some intent => do
      discard takeMeasures
      explicitBody g (← meantFunction g intent) intent
    | none => do
      match declarator.place, declarator.given with
      | .inside _, none => do
        let base ← orFail found.type
        outerVariable g found declarator (base.shaped declarator.shapes)
      | _, _ => plainTemplate g false [] none tokens

/-- Reads what asks for a use of a template. -/
def demand (g : Grammar) : Parse Unit := do
  let want (number : Nat) : Parse Unit := do
    let function ← functionAt number
    match function.body with
    | .deleted | .elsewhere => return ()
    | _ => do
      changeFunction number fun function => { function with linkage := .weak }
      discard (addressOfFunction number)
  match ← peek with
  | .name text =>
    if classWords.contains text && (← would (do discard (specifiers g); mark ";")) then
      let found ← specifiers g
      mark ";"
      let tag ← orFail ((← orFail found.type).tag?)
      completed g (.record tag)
      let record ← recordAt tag
      require record.isComplete
      (← scopeAt record.scope).names.toList.forM fun (_, entity) => do
        match entity with
        | .functions numbers _ => numbers.forM want
        | _ => return ()
    else single want
  | _ => single want
where
  /-- Asks for a function or for a variable. -/
  single (want : Nat → Parse Unit) : Parse Unit := do
    let found ← specifiers g
    let declarator ← declarator g
    match ← intentOf? found declarator with
    | some intent => do
      discard takeMeasures
      mark ";"
      want (← meantFunction g intent)
    | none => do
      mark ";"
      match ← findIn? declarator.place declarator.name, declarator.given with
      | some (.template number, _), some given => discard (g.useOf number given)
      | some (.object _, _), none => return ()
      | _, _ => failure

/-! ### Guides -/

/-- The name of functions that tell the arguments of a class from operands. -/
def guideName : String := "(guide)"

/-- The template of classes that tokens guide, with the tokens from the bracket on. -/
def guideIn? (g : Grammar) (tokens : List Token) : Parse (Option (Nat × List Token)) := do
  let tokens := match tokens with
    | .name "explicit" :: rest => rest
    | tokens => tokens
  match tokens with
  | .name _ :: _ =>
    optional <| beginning tokens do
      let place ← nested g
      let name ← identifier
      let behind := (← get).tokens
      match ← findIn? place name with
      | some (.template number, _) => do
        require ((← templateAt number).product == .record && (← sees "("))
        discard balanced
        mark "->"
        return (number, behind)
      | _ => failure
  | _ => return none

/-- Keeps a function that tells the arguments of a class from operands. -/
def addGuide (g : Grammar) (primary : Nat) (scope : Nat) (parameters : List TemplateParameter)
    (condition : Option (List Token)) (tokens : List Token) : Parse Unit := do
  let whole := .name "auto" :: .name guideName :: tokens
  let around ← inScope scope (openScope parameters)
  let intent ← apart around whole (do
    let found ← specifiers g
    let declarator ← declarator g
    discard takeMeasures
    orFail (← intentOf? found declarator))
  let number ← fresh
  keepTemplate
    { number, name := guideName, product := .function, parameters, tokens := whole, scope, condition
      shape := intent.parameters.map fun parameter => parameter.type }
  changeTemplate primary fun template => { template with guides := template.guides ++ [number] }

/-- The tokens of the members of a class, one by one. -/
def memberTokens : Nat → Parse (List (List Token))
  | 0 => failure
  | fuel + 1 => do
    match (← get).tokens with
    | [] => return []
    | .name text :: .mark ":" :: _ =>
      if ["public", "protected", "private"].contains text then
        skip 2
        memberTokens fuel
      else next fuel
    | _ => next fuel
where
  /-- The next member and those behind it. -/
  next (fuel : Nat) : Parse (List (List Token)) := do
    let first ← declarationTokens
    return first :: (← memberTokens fuel)

/-- The tokens of the names of parameters as arguments. -/
def argumentsFrom (parameters : List TemplateParameter) : List Token :=
  List.intercalate [Token.mark ","] (parameters.map fun parameter =>
    .name parameter.name :: (if parameter.isPack then [.mark "..."] else []))

/-- Adds the functions that tell the arguments of a class by the functions that make its objects. -/
def addOwnGuides (g : Grammar) (template : Template) : Parse Unit := do
  let result : List Token := .mark "->" :: .name template.name :: .mark "<"
    :: argumentsFrom template.parameters ++ [.mark ">", .mark ";"]
  let front := template.tokens.takeWhile (· != .mark "\x7b")
  let inner := ((template.tokens.drop front.length).drop 1).takeWhile fun _ => true
  let inner := (inner.reverse.dropWhile (· != .mark "\x7d")).drop 1 |>.reverse
  let members ← (do
    let found ← optional (within inner (memberTokens (inner.length + 1)))
    pure (found.getD []) : Parse (List (List Token)))
  let guide (parameters : List TemplateParameter) (tokens : List Token) : Parse Unit :=
    discard (optional (addGuide g template.number template.scope parameters template.condition tokens))
  let makers ← members.filterMapM fun tokens => optional <| beginning tokens do
    let more ← if ← optionWord "template" then templateHead g else pure []
    discard (many do
      match ← peek with
      | .name text => do
        require (["explicit", "constexpr", "inline", "noexcept"].contains text)
        skip 1
      | _ => failure)
    word template.name
    require (← sees "(")
    return (more, ← balanced)
  makers.forM fun (more, list) => guide (template.parameters ++ more) (list ++ result)
  let own : List Token := .mark "(" :: .name template.name :: .mark "<"
    :: argumentsFrom template.parameters ++ [.mark ">", .mark ")"]
  guide template.parameters (own ++ result)
  if makers.isEmpty then
    guide template.parameters (.mark "(" :: .mark ")" :: result)
    let bases := front.contains (.mark ":")
    if 2020 ≤ (← get).options.year && !bases then
      let fields := members.filterMap fieldTokens
      if fields.length == members.length then
        let list := List.intercalate [Token.mark ","] fields.flatten
        guide template.parameters (.mark "(" :: list ++ .mark ")" :: result)
where
  /-- The tokens of the members that a declaration of plain members consists of. -/
  fieldTokens (tokens : List Token) : Option (List (List Token)) :=
    if tokens.contains (.mark "(") || tokens.contains (.mark "\x7b") then none
    else
      match splitAt (.mark ",") (tokens.takeWhile fun token => token != .mark ";" && token != .mark "=") with
      | first :: others =>
        match first.reverse with
        | .name _ :: type => some (first :: others.map fun other => type.reverse ++ other)
        | _ => none
      | [] => none

/-- The class that operands tell. -/
def guess (g : Grammar) (number : Nat) (operands : List Operand) : Parse CType := do
  let template ← templateAt number
  require (template.product == .record)
  let written := template.guides
  if !template.isGuided then
    changeTemplate number fun template => { template with isGuided := true }
    addOwnGuides g (← templateAt number)
  let template ← templateAt number
  let others := template.guides.drop written.length
  let listed : Operand := .braces (operands.map fun operand => ([], operand))
  let attempts := [(template.guides, operands), (written, operands), (others, operands),
    (template.guides, [listed])]
  let found ← attempts.findSomeM? fun (guides, operands) => optional do
    let number ← chosen g [] guides [] operands none false
    return (← functionAt number).result
  orFail found

/-! ### Declarations -/

/-- Reads a template in its tokens, behind the parameters. -/
def declareTemplate (g : Grammar) (isFriend : Bool) (parameters : List TemplateParameter)
    (condition : Option (List Token)) (tokens : List Token) : Parse Unit := do
  let scope ← openScope parameters
  let owner? ← inScope scope (ownerIn g (tokens.length + 1) .here tokens none)
  match owner?.filter fun found => CType.areOpen found.2, parameters with
  | some (primary, arguments), _ :: _ => addOuter g primary arguments parameters tokens
  | _, _ =>
    match tokens with
    | .name "template" :: rest => do
      match parameters with
      | [] => do
        -- A version of a template of functions of a use of a class.
        let (inner, condition, tokens) ← beginning rest (do
          let inner ← templateHead g
          let condition ← if ← optionWord "requires" then pure (some (← conditionTokens)) else pure none
          return (inner, condition, (← get).tokens))
        if inner.isEmpty then explicitPlain g tokens else outerTemplate g inner condition tokens
      | _ => failure
    | .name "using" :: _ => namedTemplate g .synonym parameters condition tokens
    | .name "concept" :: _ => namedTemplate g .condition parameters condition tokens
    | tokens => do
      if ← declaresClass g tokens then classTemplate g parameters condition tokens
      else
        match ← guideIn? g tokens with
        | some (primary, tokens) => addGuide g primary (← get).scope parameters condition tokens
        | none =>
          if parameters.isEmpty then explicitPlain g tokens
          else
            let reading ← get
            let holder := (← scopeAt (homeOf reading searchDepth reading.scope)).holder
            match holder with
            | .block => failure
            | _ => do
              let isOuter : Bool ← (do
                match reading.scopes[reading.scope]? with
                | some { holder := .template, .. } => pure true
                | _ => pure false)
              if isOuter then outerTemplate g parameters condition tokens
              else plainTemplate g isFriend parameters condition tokens

/-- Makes what tokens declare a friend of the class around it; says whether there is more to read. -/
def befriend (tokens : List Token) : Parse Bool := do
  let reading ← get
  let tag ← orFail (classOf? reading searchDepth reading.scope)
  let early := tokens.takeWhile fun token => token != .mark "\x7b"
  let names := early.filterMap fun token => match token with
    | .name name => some name
    | _ => none
  changeRecord tag fun record => { record with friends := names ++ record.friends }
  match tokens with
  | .name text :: .name _ :: .mark ";" :: _ => return !classWords.contains text
  | _ => return tokens.contains (.mark "(") && !tokens.contains (.mark "::")

/-- Reads a template. -/
def templateHere (g : Grammar) : Parse Unit := do
  let isFriend ← optionWord "friend"
  word "template"
  if !(← sees "<") then demand g
  else
    let parameters ← templateHead g
    let condition ← if ← optionWord "requires" then pure (some (← conditionTokens)) else pure none
    let tokens ← declarationTokens
    let (isFriend, tokens) := match tokens with
      | .name "friend" :: rest => (true, rest)
      | tokens => (isFriend, tokens)
    if isFriend then
      if !(← befriend tokens) then return ()
    let short? ← (if parameters.isEmpty then pure none else abbreviated? tokens :
      Parse (Option (List (List Token) × List Token)))
    match short? with
    | some (heads, tokens) => do
      let more ← heads.zipIdx.mapM fun (head, index) =>
        parameterFrom g (parameters.length + index) head
      declareTemplate g isFriend (parameters ++ more) condition tokens
    | none => declareTemplate g isFriend parameters condition tokens

/-! ### Conditions on types -/

/-- Whether one requirement is met. -/
def isMet (g : Grammar) (tokens : List Token) : Parse Bool := do
  let met ← optional <| within tokens do
    match tokens with
    | .name "typename" :: _ => do
      skip 1
      discard (namedType g)
    | .name "requires" :: _ => do
      skip 1
      let (_, value) ← g.constant
      require value.isTrue
    | .mark "\x7b" :: _ => do
      let inner ← enclosed
      let operand ← withoutCode (within inner g.expression)
      discard (optionWord "noexcept")
      if ← option "->" then
        let type ← writtenType operand
        let type := match operand with
          | .place _ _ _ isSpare => type.referenceTo isSpare
          | _ => type
        let place ← nested g
        let name ← identifier
        match ← findIn? place name with
        | some (.template number, _) => do
          let given ← if ← sees "<" then templateArguments g else pure []
          let (_, value) ← g.evaluate (← g.useOf number (type :: given))
          require value.isTrue
        | _ => failure
    | _ => discard (withoutCode g.expression)
  return met.isSome

/-- Reads a condition on types. -/
def requirementHere (g : Grammar) : Parse Operand := do
  word "requires"
  let scope ← addScope (some (← get).scope) .block
  let outer := (← get).scope
  modify fun reading => { reading with scope }
  if ← sees "(" then discard (parameterList g declaratorDepth)
  let inner ← enclosed
  let items := (splitAt (.mark ";") inner).filter fun item => !item.isEmpty
  let found ← items.mapM (isMet g)
  modify fun reading => { reading with scope := outer }
  return .value .bool (.word (if found.all id then 1 else 0))

end Parse

end KernelCache.C
