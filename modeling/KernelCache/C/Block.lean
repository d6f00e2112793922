import KernelCache.C.Declaration

/-
**Declarations in blocks.**

* `Parse.blockDeclaration` reads a declaration between statements.
* `Parse.usingHere`, `Parse.staticCheck` and `Parse.bindTypeName` read what can stand both in blocks and
  outside of functions.
-/

namespace KernelCache.C

open KernelCache.Code (Term Value Kind Instruction Linkage)

namespace Parse

/-! ### Names for types and for other names -/

/-- Makes a name stand for a type. -/
def bindTypeName (found : Specifiers) (declarator : Declarator) : Parse Unit := do
  let base ← orFail found.type
  let type ← settled (base.shaped declarator.shapes)
  let attributes := found.attributes.and declarator.attributes
  let type ← (do
    match attributes.mode, type with
    | some mode, .arithmetic number => pure (.arithmetic (← orFail (modeType? mode number)))
    | _, type =>
      match attributes.vector, found.attributes.vector with
      | some size, none => rowType size type
      | _, _ => pure type : Parse CType)
  let name := declarator.name
  require (name != "")
  let reading ← get
  match ((← scopeAt reading.scope).names[name]?) with
  | some (.type old _) => require (old == type || old.isOpenType || type.isOpenType)
  | some (.object _) | some (.functions _ _) => failure
  | _ => pure ()
  bind name (.type type reading.access)

/-- Fails unless a condition holds that the source says. -/
def staticCheck (g : Grammar) : Parse Unit := do
  skip 1
  mark "("
  let (_, value) ← g.constant
  require value.isTrue
  if ← option "," then
    discard (many do
      match ← token with
      | .text text => return text
      | _ => failure)
  mark ")"
  discard (option ";")

/-- Whether a condition comes next that the source says. -/
def seesStaticCheck : Parse Bool := do
  let reading ← get
  match reading.tokens with
  | .name "_Static_assert" :: .mark "(" :: _ => return true
  | .name "static_assert" :: .mark "(" :: _ =>
    return reading.options.isPlus || 2023 ≤ reading.options.year
  | _ => return false

/-- Functions of two names together. -/
def joinedEntity (old? : Option Entity) (new : Entity) : Entity :=
  match old?, new with
  | some (.functions numbers templates), .functions more others =>
    .functions ((numbers ++ more).eraseDups) ((templates ++ others).eraseDups)
  | _, new => new

/-- Reads names that count here, behind the word for it. -/
def usingHere (g : Grammar) : Parse Unit := do
  skip 1
  let here := (← get).scope
  if ← optionWord "namespace" then
    let place ← nested g
    let name ← identifier
    discard (attributes g)
    match ← findIn? place name with
    | some (.space scope, _) =>
      changeScope here fun found => { found with used := found.used ++ [scope] }
    | _ => failure
    mark ";"
  else if ← optionWord "enum" then
    let type ← namedType g
    match type with
    | .enumeration tag _ _ => do
      let scope ← orFail (← get).enumerations[tag]?
      changeScope here fun found => { found with used := found.used ++ [scope] }
    | _ => failure
    mark ";"
  else
    let named ← optional (do
      let name ← identifier
      discard (attributes g)
      mark "="
      return name)
    match named with
    | some name => do
      let type ← g.typeName
      mark ";"
      bind name (.type type (← get).access)
    | none => do
      let one : Parse Unit := do
        discard (optionWord "typename")
        let place ← nested g
        let isMaker ← (do
          match ← classAt? place, (← get).tokens with
          | some record, .name name :: _ => pure (record.name == name)
          | _, _ => pure false : Parse Bool)
        if isMaker then
          let record ← orFail (← classAt? place)
          skip 1
          let (numbers, templates) ← makersOf record.tag
          let tag ← orFail (classOf? (← get) searchDepth here)
          g.inherit tag record.tag numbers templates
        else
          let name ← (do
            if ← optionWord "operator" then
              match ← operatorName g with
              | .plain name => pure name
              | _ => pure converterName
            else identifier : Parse String)
          let (entity, home) ← orFail (← findIn? place name)
          let old := (← scopeAt here).names[name]?
          let access := (← get).access
          let entity := match entity with
            | .type type _ => Entity.type type access
            | other => other
          match entity, (← scopeAt here).holder with
          | .functions numbers templates, .record _ => do
            let own := match old with
              | some (.functions numbers _) => numbers
              | _ => []
            let mine ← own.mapM functionAt
            let others ← numbers.mapM functionAt
            let visible := others.filter fun other => !mine.any fun function =>
              (function.parameters.map (·.type)) == (other.parameters.map (·.type))
            bindIn here name (joinedEntity old (.functions (visible.map (·.number)) templates))
          | .field, _ => bindIn here name .field
          | entity, _ => bindIn here name (joinedEntity old entity)
          match (← scopeAt home).tags[name]? with
          | some type => changeScope here fun found =>
              { found with tags := found.tags.insert name type }
          | none => pure ()
      discard (separated (expandable one))
      mark ";"

/-- Reads another name for a space, behind the word for it. -/
def spaceName (g : Grammar) : Parse Unit := do
  word "namespace"
  let name ← identifier
  mark "="
  let place ← nested g
  let other ← identifier
  match ← findIn? place other with
  | some (.space scope, _) => bind name (.space scope)
  | _ => failure
  mark ";"

/-! ### Functions inside functions -/

/-- Makes a function known inside another one, whose variables it uses. -/
def innerFunction (intent : Intent) : Parse Nat := do
  let reading ← get
  let name := intent.declarator.name
  let known ← (do
    match ((← scopeAt reading.scope).names[name]?) with
    | some (.functions [number] _) => do
      let function ← functionAt number
      pure (if function.outside.isSome then some number else none)
    | none => pure none
    | some _ => failure : Parse (Option Nat))
  match known with
  | some number => do
    refine number intent
    return number
  | none => do
    let number ← fresh
    let function : Function :=
      { number, name, symbol := name ++ "." ++ toString number, result := intent.result
        parameters := intent.parameters, manner := intent.tail.manner, linkage := .inner
        scope := reading.scope, outside := some reading.work.function }
    modify fun reading => { reading with functions := reading.functions.insert number function }
    bind name (.functions [number] [])
    return number

/-! ### Declarations -/

/-- The sizes of parameters that were read since the last declaration. -/
def takeMeasures : Parse (List (Nat × List Token)) := do
  let found := (← get).measures
  modify fun reading => { reading with measures := [] }
  return found

/-- Parameters of a definition in the old style, whose types come behind the brackets. -/
def oldParameters (g : Grammar) (names : List String) : Parse (List Parameter) := do
  let found ← many (do
    require !(← sees "\x7b")
    let found ← specifiers g
    let base ← orFail found.type
    let items ← separated do
      let declarator ← declarator g
      return (declarator.name, parameterType (base.shaped declarator.shapes))
    mark ";"
    return items)
  let types := found.flatten
  return names.map fun name =>
    let type := (types.lookup name).getD CType.int
    let type := if type == .arithmetic .float then CType.arithmetic .double else type
    { type, name, initial := none }

/-- Whether a declarator with its type is one of a function. -/
def isFunctionShape (declarator : Declarator) : Bool :=
  match declarator.shapes with
  | .function _ _ :: _ => true
  | _ => false

/-- Reads the body of a function inside another one. -/
def innerBody (g : Grammar) (intent : Intent) : Parse Unit := do
  let number ← innerFunction intent
  let body ← balanced
  let measures ← takeMeasures
  changeFunction number fun function =>
    { function with parameters := intent.parameters, body := .tokens [] body, measures }
  g.readBody number

/-- Reads the names between brackets in a declaration of parts. -/
def partNames (g : Grammar) : Parse (Option Bool × List String) := do
  let reference? ← (do
    if ← option "&&" then pure (some true)
    else if ← option "&" then pure (some false)
    else pure none : Parse (Option Bool))
  mark "["
  let names ← separated identifier
  mark "]"
  discard (attributes g)
  return (reference?, names)

/-- Whether names for parts come next. -/
def seesParts : Parse Bool := do
  if !(← isPlus) then return false
  else
    match (← get).tokens with
    | .mark "[" :: .name _ :: _ | .mark "&" :: .mark "[" :: _ | .mark "&&" :: .mark "[" :: _ =>
      return true
    | _ => return false

/-- Reads one name in a declaration with what is behind it. -/
def blockItemHere (g : Grammar) (found : Specifiers) : Parse (List Instruction) := do
  let declarator ← declarator g
  let attributes := found.attributes.and declarator.attributes
  if found.isTypeName then
    bindTypeName found declarator
    takeFront
  else if isFunctionShape declarator then
    let intent ← orFail (← intentOf? found declarator)
    discard takeMeasures
    discard (declareFunction intent)
    return []
  else
    let base ← (do
      match found.type with
      | some type => pure type
      | none => do
        require (!(← isPlus) && found.isWritten)
        warn "implicit-int"
        pure CType.int : Parse CType)
    let type := base.shaped declarator.shapes
    let type := if found.isConstexpr then type.constant else type
    let name := declarator.name
    let plus ← isPlus
    if type.isFunction then
      let parts := match type with
        | .function result parameters manner => some (result, parameters, manner)
        | _ => none
      let (result, parameters, manner) ← orFail parts
      let shape := Shape.function (parameters.map fun type => { type, name := "" }) { manner }
      let found := { found with type := some result }
      let intent ← orFail (← intentOf? found { declarator with shapes := [shape] })
      discard (declareFunction intent)
      return []
    else if found.isExternal then
      let type ← settled type
      let number ← fresh
      let reading ← get
      let path := if plus then
          pathOf reading searchDepth (spaceOf reading searchDepth reading.scope)
        else []
      let symbol := attributes.symbol.getD (if plus then Symbol.ofObject path name else name)
      let outer ← find? name
      let symbol := match outer with
        | some (.object { home := .symbol symbol, .. }, _) => symbol
        | _ => symbol
      bind name (.object { number, name, type, home := .symbol symbol })
      return []
    else if found.isStatic || found.isThread || (plus && found.isConstexpr) then
      staticVariable g name type found.isConstexpr attributes.aligned
    else localVariable g name type found.isConstexpr attributes none

/-- Words with which declarations start. -/
def declarationStarts : List String :=
  typeStarts ++ ["typedef", "static", "extern", "inline", "_Noreturn", "_Thread_local", "__thread",
    "thread_local", "constexpr", "constinit", "using", "namespace", "__inline", "__inline__",
    "_Static_assert", "static_assert", "__pragma_pack", "__label__"]

/-- Whether a declaration could start here. -/
def seesDeclaration : Parse Bool := do
  match (← get).tokens with
  | .mark "[" :: .mark "[" :: _ => return true
  | .name _ :: .mark ":" :: _ => return false
  | .name text :: rest =>
    let options := (← get).options
    if declarationStarts.contains text then
      if isReserved options.isPlus options.year text || "_".toList.isPrefixOf text.toList
          || text == "typeof" || text == "typeof_unqual" || text == "restrict" then
        return true
      else
        match ← find? text with
        | some (.type _ _, _) => return true
        | some _ => return false
        | none => return options.isPlus
    else startsType (.name text :: rest)
  | tokens => startsType tokens

/-- Reads a declaration between statements. -/
def blockDeclaration (g : Grammar) : Parse (List Instruction) := do
  if ← seesStaticCheck then
    staticCheck g
    return []
  else
    match (← get).tokens with
    | .name "using" :: _ => do
      usingHere g
      return []
    | .name "namespace" :: _ => do
      spaceName g
      return []
    | .name "__label__" :: _ => do
      skip 1
      discard (separated identifier)
      mark ";"
      return []
    | .name "__pragma_pack" :: rest => do
      modify fun reading => { reading with tokens := rest.dropWhile (· != .mark ";") }
      mark ";"
      return []
    | _ => do
      let found ← specifiers g
      require found.isWritten
      if ← option ";" then
        require found.type.isSome
        takeFront
      else if ← seesParts then
        let (reference?, names) ← partNames g
        let steps ← boundParts g found reference? names none
        mark ";"
        return steps
      else
        let start ← get
        let inner? ← (do
          if start.options.isPlus then pure none
          else
            optional (do
              let declarator ← declarator g
              require (isFunctionShape declarator && (← sees "\x7b"))
              let intent ← orFail (← intentOf? found declarator)
              innerBody g intent) : Parse (Option Unit))
        match inner? with
        | some _ => return []
        | none => do
          let steps ← separated (blockItemHere g found)
          mark ";"
          return steps.flatten

end Parse

end KernelCache.C
