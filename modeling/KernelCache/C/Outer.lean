import KernelCache.C.Class

/-
**Declarations outside of functions.**

* `Parse.outerDeclarationHere` reads one declaration.
* `Parse.functionDefinition` reads a function with its body.
* `Parse.spaceHere` reads a space of names, and `Parse.languageHere` declarations of another language.
* `Parse.pragmaHere` obeys a directive that is meant for the reader.
-/

namespace KernelCache.C

open KernelCache.Code (Term Value Kind Instruction Linkage)

namespace Parse

/-! ### Directives -/

/-- The arguments of a directive between brackets. -/
def pragmaArguments : Parse (List Token) := do
  let inner ← (do
    if ← sees "(" then enclosed else pure [] : Parse (List Token))
  let rest := (← get).tokens.takeWhile (· != .mark ";")
  skip rest.length
  mark ";"
  return inner

/-- The alignments that members have at most behind a directive. -/
def packedBy (packs : List Nat) (arguments : List Token) : List Nat :=
  let number (text : String) : Nat := text.toNat?.getD 0
  match arguments with
  | [] => 0 :: packs.drop 1
  | [.number text] => number text :: packs.drop 1
  | .name "push" :: rest =>
    let top := packs.headD 0
    match rest.getLast? with
    | some (.number text) => number text :: packs
    | _ => top :: packs
  | .name "pop" :: _ => packs.drop 1
  | _ => packs

/-- Makes a symbol one that other definitions replace, or that may be missing. -/
def weaken (name : String) (target : Option String) : Parse Unit := do
  modify fun reading => { reading with
    piece := { reading.piece with
      optional := name :: reading.piece.optional
      aliases := match target with
        | some target => (name, target, .weak) :: reading.piece.aliases
        | none => reading.piece.aliases
      routines := reading.piece.routines.map fun routine =>
        if routine.symbol == name then { routine with linkage := .weak } else routine
      objects := reading.piece.objects.map fun object =>
        if object.symbol == name then { object with linkage := .weak } else object } }
  match ← find? name with
  | some (.functions numbers _, _) =>
    numbers.forM fun number =>
      changeFunction number fun function => { function with linkage := .weak, isOptional := true }
  | _ => pure ()

/-- Obeys a directive that is meant for the reader. -/
def pragmaHere : Parse Unit := do
  match ← token with
  | .name "__pragma_pack" => do
    let arguments ← pragmaArguments
    modify fun reading => { reading with packs := packedBy reading.packs arguments }
  | .name "__pragma_visibility" => do
    let isPush ← optionWord "push"
    discard (optionWord "pop")
    let arguments ← pragmaArguments
    let isHidden := arguments == [.name "hidden"] || arguments == [.name "internal"]
    modify fun reading => { reading with
      visibilities := if isPush then (!isHidden) :: reading.visibilities
        else reading.visibilities.drop 1 }
  | .name "__pragma_weak" => do
    let name ← identifier
    let target ← (do
      if ← option "=" then
        let target ← identifier
        pure (some target)
      else pure none : Parse (Option String))
    mark ";"
    weaken name target
  | _ => failure

/-- Words for directives that are meant for the reader. -/
def pragmaWords : List String := ["__pragma_pack", "__pragma_visibility", "__pragma_weak"]

/-! ### Functions -/

/-- Reads a function behind its declarator. -/
def functionDefinition (g : Grammar) (intent : Intent) : Parse Unit := do
  let plus ← isPlus
  let names := intent.tail.oldNames
  let intent ← (do
    if plus then pure intent
    else if ← sees "\x7b" then
      require names.isEmpty
      pure intent
    else pure { intent with parameters := ← oldParameters g names } : Parse Intent)
  let number ← declareFunction intent
  let function ← functionAt number
  let isFree : Bool := match function.body with
    | .elsewhere => true
    | .deleted | .default _ | .tokens _ _ | .onDemand _ _ | .done => false
  require isFree
  let isNamed := intent.parameters.all fun parameter => parameter.name != ""
  if !plus && !isNamed && (← get).options.year < 2023 then warn "pedantic"
  let (starts, body) ← (do
    if plus then
      discard (optionWord "try")
      bodyTokens
    else pure ([], ← balanced) : Parse (List Token × List Token))
  let measures ← takeMeasures
  changeFunction number fun function => { function with
    parameters := mergedParameters function.parameters intent.parameters
    manner := { function.manner with isLoose := function.manner.isLoose && intent.tail.manner.isLoose }
    body := .tokens starts body
    measures }
  g.readBody number

/-- Whether the body of a function starts behind its declarator. -/
def seesBody (intent : Intent) : Parse Bool := do
  let plus ← isPlus
  match (← get).tokens with
  | .mark "\x7b" :: _ => return true
  | .mark ":" :: _ | .name "try" :: _ => return plus
  | .name _ :: _ => return !plus && !intent.tail.oldNames.isEmpty
  | _ => return false

/-- Reads what stands behind the declaration of a function that is no definition. -/
def behindDeclaration (g : Grammar) (number : Nat) : Parse Unit := do
  if ← option "=" then
    require (← isPlus)
    if ← optionWord "delete" then
      changeFunction number fun function => { function with body := .deleted }
    else
      word "default"
      let function ← functionAt number
      let owner ← orFail function.owner
      let kind ← orFail (defaultFor? owner function)
      changeFunction number fun function => { function with body := .default kind }
      g.readBody number

/-! ### Names in a declaration -/

/-- Reads one name in a declaration with what is behind it; says whether it was a function with its
body, behind which a declaration ends. -/
def outerItem (g : Grammar) (found : Specifiers) (isFirst : Bool) : Parse Bool := do
  let declarator ← declarator g
  let plus ← isPlus
  if found.isTypeName then
    bindTypeName found declarator
    return false
  else if isFunctionShape declarator then
    let intent ← orFail (← intentOf? found declarator)
    if isFirst && (← seesBody intent) then
      functionDefinition g intent
      return true
    else
      require (intent.tail.oldNames.isEmpty)
      discard takeMeasures
      let number ← declareFunction intent
      behindDeclaration g number
      return false
  else
    let base ← (do
      match found.type with
      | some type => pure type
      | none => do
        require !plus
        warn "implicit-int"
        pure CType.int : Parse CType)
    let type := base.shaped declarator.shapes
    let type := if found.isConstexpr then type.constant else type
    match type with
    | .function result parameters manner => do
      let shape := Shape.function (parameters.map fun type => { type, name := "" }) { manner }
      let found := { found with type := some result }
      let intent ← orFail (← intentOf? found { declarator with shapes := [shape] })
      discard (declareFunction intent)
      return false
    | type => do
      require (!isMeasured type)
      outerVariable g found declarator type
      return false

/-- Reads the names of a declaration. -/
def outerItems (g : Grammar) (found : Specifiers) : Nat → Bool → Parse Unit
  | 0, _ => failure
  | fuel + 1, isFirst => do
    if ← outerItem g found isFirst then return ()
    else if ← option "," then outerItems g found fuel false
    else mark ";"

/-- Reads a declaration of types, functions or variables. -/
def plainDeclaration (g : Grammar) : Parse Unit := do
  let found ← specifiers g
  let plus ← isPlus
  if ← option ";" then
    require (found.type.isSome || found.isWritten)
  else if ← seesParts then failure
  else
    if found.type.isNone && !plus then warn "implicit-int"
    outerItems g found ((← get).tokens.length + 1) true

/-! ### Groups of declarations -/

/-- Reads declarations up to a closing brace. -/
def declarationsUpTo (g : Grammar) : Nat → Parse Unit
  | 0 => failure
  | fuel + 1 => do
    if ← option "\x7d" then return ()
    else
      g.outerDeclaration
      declarationsUpTo g fuel

/-- The name of a space that has none in the source. -/
def namelessSpace : String := "(nameless)"

/-- The scope of a space of a name, which is made when there is none. -/
def spaceNamed (name : String) (isInline : Bool) : Parse Nat := do
  let here := (← get).scope
  let key := if name = "" then namelessSpace else name
  match (← scopeAt here).names[key]? with
  | some (.space scope) => return scope
  | some _ => failure
  | none => do
    let scope ← addScope (some here) (.space name)
    bind key (.space scope)
    if isInline || name = "" then
      changeScope here fun found => { found with used := found.used ++ [scope] }
    return scope

/-- Opens spaces one inside the other. -/
def openSpaces (isInline : Bool) : List String → Parse Unit
  | [] => return ()
  | name :: rest => do
    let scope ← spaceNamed name isInline
    modify fun reading => { reading with scope }
    openSpaces false rest

/-- Reads a space of names, or another name for one. -/
def spaceHere (g : Grammar) : Parse Unit := do
  let isInline ← optionWord "inline"
  match (← get).tokens with
  | .name "namespace" :: .name _ :: .mark "=" :: _ => spaceName g
  | _ => do
    word "namespace"
    discard (attributes g)
    let names ← (do
      if ← sees "\x7b" then pure [""] else separatedNames ((← get).tokens.length + 1))
    discard (attributes g)
    mark "\x7b"
    let outer := (← get).scope
    openSpaces isInline names
    declarationsUpTo g ((← get).tokens.length + 1)
    modify fun reading => { reading with scope := outer }
where
  /-- Names with colons between them. -/
  separatedNames : Nat → Parse (List String)
    | 0 => failure
    | fuel + 1 => do
      let name ← identifier
      if ← option "::" then
        discard (optionWord "inline")
        return name :: (← separatedNames fuel)
      else return [name]

/-- Reads declarations of another language. -/
def languageHere (g : Grammar) : Parse Unit := do
  word "extern"
  let language ← (do
    match ← token with
    | .text text => pure (textIn text)
    | _ => failure : Parse String)
  require (language == "C" || language == "C++")
  let outer := (← get).plainNames
  modify fun reading => { reading with plainNames := language == "C" }
  if ← option "\x7b" then declarationsUpTo g ((← get).tokens.length + 1)
  else
    match ← peek with
    | .name text =>
      if ["template", "namespace", "typedef", "using", "extern", "struct", "class", "union",
          "enum"].contains text then
        require (text != "template")
        g.outerDeclaration
      else
        modify fun reading => { reading with tokens := .name "extern" :: reading.tokens }
        g.outerDeclaration
    | _ => g.outerDeclaration
  modify fun reading => { reading with plainNames := outer }

/-- Notes a text for the assembler outside of functions. -/
def machineOutside : Parse Unit := do
  skip 1
  let words := ["volatile", "__volatile__", "__volatile", "inline"]
  discard (many do
    match ← peek with
    | .name text => do
      require (words.contains text)
      skip 1
    | _ => failure)
  let texts ← (← enclosed).mapM fun token =>
    match token with
    | .text text => pure (textIn text)
    | _ => (failure : Parse String)
  mark ";"
  require !texts.isEmpty
  modify fun reading =>
    { reading with machineTexts := String.join texts :: reading.machineTexts }

/-- Reads a declaration outside of functions. -/
def outerDeclarationHere (g : Grammar) : Parse Unit := do
  let plus ← isPlus
  match (← get).tokens with
  | .mark ";" :: _ => do
    skip 1
    if !plus then warn "pedantic"
  | .name "__extension__" :: _ => do
    skip 1
    g.outerDeclaration
  | .name "extern" :: .text _ :: _ => do
    require plus
    languageHere g
  | .name "extern" :: .name "template" :: _ => do
    require plus
    skip 1
    g.template
  | .name text :: rest =>
    if pragmaWords.contains text then pragmaHere
    else if ["asm", "__asm__", "__asm"].contains text then machineOutside
    else if ← seesStaticCheck then staticCheck g
    else if plus && text == "using" then usingHere g
    else if plus && text == "template" then g.template
    else if plus && (text == "namespace" || (text == "inline" && rest.head? == some (.name "namespace")))
      then spaceHere g
    else if plus && (← abbreviatedHere) then g.template
    else plainDeclaration g
  | _ => plainDeclaration g

end Parse

end KernelCache.C
