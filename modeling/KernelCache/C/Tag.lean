import KernelCache.C.Expression

/-
**Structures, unions, classes and enumerations.**

* `Parse.taggedType` reads a type that starts with the word for one of them.
* `Parse.enumeration` reads the constants of an enumeration.
-/

namespace KernelCache.C

open KernelCache.Code (Term Value Kind Instruction Linkage)

namespace Parse

/-! ### Names of types -/

/-- A tag for a type of a name, different from all others. -/
def newTag (name : String) : Parse (String × List String) := do
  let reading ← get
  let path := pathOf reading searchDepth reading.scope
  let full := "::".intercalate (path ++ [name])
  if name = "" || reading.records.contains full || reading.enumerations.contains full
      || reading.work.function != 0 then
    let number ← fresh
    return (full ++ "#" ++ toString number, path ++ [name ++ "#" ++ toString number])
  else return (full, path ++ [name])

/-- Makes a type known under its name. -/
def bindType (scope : Nat) (name : String) (type : CType) (access : Access) : Parse Unit := do
  if name = "" then return ()
  else
    changeScope scope fun found => { found with tags := found.tags.insert name type }
    if ← isPlus then
      let known := ((← scopeAt scope).names[name]?)
      match known with
      | some (.functions _ _) | some (.object _) => return ()
      | _ => bindIn scope name (.type type access)

/-- Adds a record about which nothing is known yet. -/
def newRecord (scope : Nat) (name : String) (isUnion isClass : Bool) (access : Access) :
    Parse String := do
  let (tag, path) ← inScope scope (newTag name)
  let inner ← addScope (some scope) (.record tag)
  let record : Record := { tag, name, path, isUnion, isClass, scope := inner }
  modify fun reading => { reading with records := reading.records.insert tag record }
  bindType scope name (.record tag) access
  if ← isPlus then bindType inner name (.record tag) .everyone
  return tag

/-! ### Enumerations -/

/-- The types that an enumeration can be kept in, by preference. -/
def enumerationTypes (short hasNegative : Bool) : List Arithmetic :=
  let small : List Arithmetic := if !short then []
    else if hasNegative then [.signedChar, .short] else [.unsignedChar, .unsignedShort]
  small ++ (if hasNegative then [.int, .long] else [.unsignedInt, .unsignedLong])

/-- Whether an integer is one of a type. -/
def fitsIn (type : Arithmetic) (number : Int) : Bool :=
  Value.ofBits type.kind.size type.isSigned (Value.bitsOf type.kind.size number) == number

/-- Reads the constants of an enumeration up to the closing brace: names with their values. -/
def enumerators (g : Grammar) (scope : Nat) (given : Option Arithmetic) :
    Nat → Int → List (String × Int) → Parse (List (String × Int))
  | 0, _, _ => failure
  | fuel + 1, next, found => do
    if ← option "\x7d" then return found.reverse
    else
      let name ← identifier
      discard (attributes g)
      let number ← (do
        if ← option "=" then
          let (type, value) ← withAngles false g.constant
          require type.isInteger
          pure (integerOf type value)
        else pure next)
      require (found.all fun entry => entry.1 != name)
      let type : Arithmetic := match given with
        | some type => type
        | none => if fitsIn .int number then .int else if fitsIn .unsignedInt number then .unsignedInt
            else if fitsIn .long number then .long else .unsignedLong
      require (fitsIn type number || given.isNone)
      bindIn scope name (.constant (.arithmetic type) (Value.ofInt type.kind.size number) .everyone)
      let found := (name, number) :: found
      if ← option "," then enumerators g scope given fuel (number + 1) found
      else
        mark "\x7d"
        return found.reverse

/-- Reads an enumeration behind its word. -/
def enumeration (g : Grammar) (access : Access) : Parse CType := do
  let plus ← isPlus
  let strict ← (do
    if plus then
      if ← optionWord "class" then pure true else optionWord "struct"
    else pure false : Parse Bool)
  let before ← attributes g
  let outer := (← get).scope
  let place ← (do
    if plus then nested g else pure .here : Parse Place)
  let name ← (do
    match ← peek with
    | .name _ => identifier
    | _ => pure "" : Parse String)
  let base? ← (do
    let allowed : Bool := plus || 2023 ≤ (← get).options.year
    if allowed && (← sees ":") then
      optional (do
        mark ":"
        let found ← specifiers g
        let type ← orFail found.type
        require ((← sees "\x7b") || (← sees ";"))
        orFail type.arithmetic?)
    else pure none : Parse (Option Arithmetic))
  let scope := match place with
    | .inside scope => scope
    | _ => outer
  if ← option "\x7b" then
    let reading ← get
    let known := ((reading.scopes[scope]?).bind (·.tags[name]?)).bind fun type =>
      match type with
      | .enumeration tag _ base => some (tag, base)
      | _ => none
    let (tag, _) ← (do
      match known with
      | some (tag, _) => do
        require ((((← get).enumerations[tag]?).bind fun inner =>
          (reading.scopes[inner]?).map fun found => found.names.isEmpty).getD true)
        pure (tag, [])
      | none => newTag name : Parse (String × List String))
    let given : Option Arithmetic := base?.or (if strict then some .int else none)
    let inner ← (do
      match (← get).enumerations[tag]? with
      | some inner => pure inner
      | none => addScope (some scope) .block : Parse Nat)
    modify fun reading => { reading with enumerations := reading.enumerations.insert tag inner }
    match given with
    | some base => bindType scope name (.enumeration tag strict base) access
    | none => pure ()
    let found ← inScope inner (enumerators g inner given ((← get).tokens.length + 1) 0 [])
    let after ← attributes g
    let short := (before.and after).isPacked || (← get).options.shortEnums
    let hasNegative := found.any fun entry => entry.2 < 0
    let base := given.getD (((enumerationTypes short hasNegative).find? fun type =>
      found.all fun entry => fitsIn type entry.2).getD .unsignedLong)
    let base := match (before.and after).mode with
      | some mode => (modeType? mode base).getD base
      | none => base
    let type := CType.enumeration tag strict base
    bindType scope name type access
    found.forM fun (constant, number) => do
      let own : CType :=
        if plus then type
        else if fitsIn .int number then CType.int
        else .arithmetic (if fitsIn .unsignedInt number && base == .unsignedInt then .unsignedInt
          else if base.kind.size = 4 then .long else base)
      let size := (own.kind?.getD .int).size
      let entity : Entity := .constant own (Value.ofInt size number) access
      bindIn inner constant entity
      if !strict then
        require (plus || ((← scopeAt scope).names[constant]?).isNone)
        bindIn scope constant entity
    return type
  else
    require (name != "")
    let reading ← get
    let here := (reading.scopes[scope]?).bind (·.tags[name]?)
    match base?, strict && (← sees ";") with
    | some base, _ =>
      match here with
      | some type => return type
      | none => declare scope name strict base
    | none, true =>
      match here with
      | some type => return type
      | none => declare scope name true .int
    | none, false =>
      match here.or (tagFrom? reading name searchDepth scope) with
      | some type => return type
      | none => do
        require !plus
        warn "pedantic"
        declare scope name false .unsignedInt
where
  /-- Makes an enumeration known without its constants. -/
  declare (scope : Nat) (name : String) (strict : Bool) (base : Arithmetic) : Parse CType := do
    let (tag, _) ← inScope scope (newTag name)
    let inner ← addScope (some scope) .block
    modify fun reading => { reading with enumerations := reading.enumerations.insert tag inner }
    let type := CType.enumeration tag strict base
    bindType scope name type access
    return type

/-! ### Classes -/

/-- Reads who may use what follows. -/
def accessWord? : Parse (Option Access) := do
  if ← optionWord "public" then return some .everyone
  else if ← optionWord "protected" then return some .heirs
  else if ← optionWord "private" then return some .nobody
  else return none

/-- Reads a class that another one continues. -/
def baseHere (g : Grammar) (isClass : Bool) : Parse Base := do
  discard (attributes g)
  let first ← optionWord "virtual"
  let access? ← accessWord?
  let second ← optionWord "virtual"
  let type ← namedType g
  let tag ← orFail type.tag?
  let record ← recordAt tag
  require (record.isComplete && !record.isFinal && !record.isUnion)
  return {
    tag, offset := 0, isShared := first || second
    access := access?.getD (if isClass then .nobody else .everyone) }

/-- Reads the classes that a class continues. -/
def basesHere (g : Grammar) (isClass : Bool) : Parse (List Base) := do
  if (← isPlus) && (← option ":") then
    return (← separated (expandable (baseHere g isClass))).flatten
  else return []

/-- Reads a class behind its head. -/
def recordBody (g : Grammar) (tag : String) (before : Attributes) : Parse CType := do
  let record ← recordAt tag
  require !record.isComplete
  if ← optionWord "final" then changeRecord tag fun record => { record with isFinal := true }
  let bases ← basesHere g record.isClass
  changeRecord tag fun record => { record with bases }
  require (← sees "\x7b")
  g.members tag before.isPacked before.aligned
  return .record tag

/-- Whether the definition of a class starts behind its name. -/
def seesRecordBody : Parse Bool := do
  match (← get).tokens with
  | .mark "\x7b" :: _ => return true
  | .mark ":" :: _ => isPlus
  | .name "final" :: .mark "\x7b" :: _ | .name "final" :: .mark ":" :: _ => isPlus
  | _ => return false

/-- The tag of a class that is declared and not yet defined in a scope, or a new one. -/
def tagToDefine (scope : Nat) (name : String) (isUnion isClass : Bool) (access : Access) :
    Parse String := do
  let known := ((← scopeAt scope).tags[name]?).bind CType.tag?
  match known with
  | some tag => do
    let record ← recordAt tag
    require (!record.isComplete && record.isUnion == isUnion)
    changeRecord tag fun record => { record with isClass }
    return tag
  | none => newRecord scope name isUnion isClass access

/-- Who may use what is declared here unless the source says otherwise. -/
def accessHere : Parse Access := return (← get).access

/-- Reads a type that starts with the word for a structure, a union, a class or an enumeration. -/
def taggedType (g : Grammar) : Parse CType := do
  let text ← (do
    match ← token with
    | .name text => pure text
    | _ => failure : Parse String)
  let access ← accessHere
  if text == "enum" then enumeration g access
  else
    let isUnion := text == "union"
    let isClass := text == "class"
    let before ← attributes g
    let reading ← get
    match reading.pending with
    | some tag => do
      modify fun reading => { reading with pending := none }
      discard (nested g)
      discard (optional identifier)
      if ← sees "<" then discard (templateArguments g)
      changeRecord tag fun record => { record with isUnion, isClass }
      recordBody g tag before
    | none => do
      let outer := reading.scope
      let place ← (do
        if reading.options.isPlus then nested g else pure .here : Parse Place)
      let scope := match place with
        | .inside scope => scope
        | _ => outer
      match ← peek with
      | .name name =>
        if ← seesBodyOf name then
          skip 1
          let tag ← tagToDefine scope name isUnion isClass access
          inScope outer (recordBody g tag before)
        else if (← peekSecond) == .mark "<" && reading.options.isPlus then namedType g
        else
          let name ← identifier
          let found ← get
          let here := (found.scopes[scope]?).bind (·.tags[name]?)
          let isAlone ← sees ";"
          let known := match place, isAlone with
            | .here, false => here.or (tagFrom? found name searchDepth scope)
            | _, _ => here
          match known with
          | some type => do
            match type.tag? with
            | some tag => require ((← recordAt tag).isUnion == isUnion)
            | none => require (!reading.options.isPlus || type.isOpenType)
            return type
          | none => do
            match place with
            | .here => do
              let target := if reading.options.isPlus && !isAlone then
                  spaceOf found searchDepth scope
                else scope
              return .record (← newRecord target name isUnion isClass access)
            | _ => failure
      | _ => do
        require (← seesRecordBody)
        let tag ← newRecord scope "" isUnion isClass access
        recordBody g tag before
where
  /-- Whether the definition of a class starts behind its name, which comes next. -/
  seesBodyOf (name : String) : Parse Bool := do
    let options := (← get).options
    if isReserved options.isPlus options.year name then return false
    else
      match ← peekSecond with
      | .mark "\x7b" => return true
      | .mark ":" => return options.isPlus
      | .name "final" => return options.isPlus
      | _ => return false

end Parse

end KernelCache.C
