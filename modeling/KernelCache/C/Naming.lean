import KernelCache.C.Construct

/-
**Names with scopes in front of them, and arguments of templates.**

* `Parse.nested` reads the scopes in front of a name.
* `Parse.templateArguments` reads the arguments of a template.
* `Parse.expandable` reads an item that can stand for several ones.
* `Parse.namedType` is the type that a name stands for.
-/

namespace KernelCache.C

open KernelCache.Code (Term Value Kind Instruction Linkage)

/-- Where a name is looked for. -/
inductive Place where
  /-- Here, and in what is around. -/
  | here
  | inside (scope : Nat)
  /-- In a type about which nothing is known yet. -/
  | unknown
  deriving Repr

namespace Parse

/-- Words that are no names. -/
def reservedInC : List String :=
  ["auto", "break", "case", "char", "const", "continue", "default", "do", "double", "else", "enum",
    "extern", "float", "for", "goto", "if", "inline", "int", "long", "register", "restrict",
    "return", "short", "signed", "sizeof", "static", "struct", "switch", "typedef", "union",
    "unsigned", "void", "volatile", "while", "_Bool", "_Alignas", "_Alignof", "_Atomic",
    "_Generic", "_Noreturn", "_Static_assert", "_Thread_local", "_Complex", "__attribute__",
    "__extension__", "__int128", "typeof", "__typeof__", "__inline", "__inline__", "asm"]

/-- Further words that are no names in C++. -/
def reservedInPlus : List String :=
  ["alignas", "alignof", "bool", "catch", "class", "const_cast", "constexpr", "decltype", "delete",
    "dynamic_cast", "explicit", "export", "false", "friend", "mutable", "namespace", "new",
    "noexcept", "nullptr", "operator", "private", "protected", "public", "reinterpret_cast",
    "static_assert", "static_cast", "template", "this", "thread_local", "throw", "true", "try",
    "typeid", "typename", "using", "virtual", "wchar_t", "char16_t", "char32_t"]

/-- Whether a word is no name. -/
def isReserved (plus : Bool) (year : Nat) (word : String) : Bool :=
  if plus then
    (reservedInC.contains word && word != "restrict" && word != "typeof")
      || reservedInPlus.contains word
      || (2020 ≤ year && ["concept", "requires", "co_await", "co_return", "co_yield", "consteval",
        "constinit", "char8_t"].contains word)
  else
    reservedInC.contains word
      || (2023 ≤ year && ["true", "false", "bool", "nullptr", "static_assert", "thread_local",
        "alignas", "alignof", "constexpr"].contains word)

/-- Reads a name. -/
def identifier : Parse String := do
  let options := (← get).options
  match ← token with
  | .name text =>
    require !(isReserved options.isPlus options.year text)
    return text
  | _ => failure

/-! ### Several items in the place of one -/

/-- Whether a name stands for several things here. -/
def packOf? (name : String) : Parse (Option Entity) := do
  match ← find? name with
  | some (.type (.pack items) access, _) => return some (.type (.pack items) access)
  | some (.pack found, _) => return some (.pack found)
  | _ => return none

/-- How many things a name stands for. -/
def packSize : Entity → Nat
  | .type (.pack items) _ => items.length
  | .pack found => found.length
  | _ => 0

/-- One of the things that a name stands for. -/
def packItem? (entity : Entity) (index : Nat) : Option Entity :=
  match entity with
  | .type (.pack items) access =>
    (items[index]?).map fun item =>
      match item with
      | .number value => .constant .int (.word (Value.bitsOf 4 value)) access
      | type => .type type access
  | .pack found => (found[index]?).map Entity.object
  | _ => none

/-- The tokens of an item up to three dots behind it, when they come before the item ends. -/
def patternUpTo (isTemplate : String → Bool) :
    Nat → Nat → Nat → List Token → List Token → Option (List Token × List Token)
  | 0, _, _, _, _ => none
  | _ + 1, _, _, _, [] => none
  | fuel + 1, depth, angles, taken, token :: rest =>
    let go (depth angles : Nat) := patternUpTo isTemplate fuel depth angles (token :: taken) rest
    match token with
    | .mark "..." =>
      let ends := match rest with
        | .mark text :: _ => text == "," || text == ")" || text == "\x7d" || text == ">"
            || text == ">>" || text == "\x7b" || text == ";"
        | .name _ :: _ => false
        | _ => rest.isEmpty
      if depth = 0 && angles = 0 && ends && !taken.isEmpty then some (taken.reverse, rest)
      else go depth angles
    | .mark "(" | .mark "[" | .mark "\x7b" => go (depth + 1) angles
    | .mark ")" | .mark "]" | .mark "\x7d" => if depth = 0 then none else go (depth - 1) angles
    | .mark "," => if depth = 0 && angles = 0 then none else go depth angles
    | .mark "<" =>
      let opens := match taken with
        | .name name :: _ => isTemplate name
        | _ => false
      go depth (if opens && depth = 0 then angles + 1 else angles)
    | .mark ">" => if depth = 0 && 0 < angles then go depth (angles - 1) else go depth angles
    | .mark ">>" => if depth = 0 && 1 < angles then go depth (angles - 2) else go depth angles
    | .mark ";" => none
    | _ => go depth angles

/-- Whether arguments of a template can stand behind a name. -/
def isTemplateName (reading : Reading) (name : String) : Bool :=
  match findFrom? reading searchDepth reading.scope name with
  | some (.template _, _) | some (.type (.template _) _, _) => true
  | some (.functions _ _, _) | none =>
    reading.templateNames.contains name
      || ["static_cast", "const_cast", "reinterpret_cast", "dynamic_cast"].contains name
  | some _ => false

/-- The names in tokens that stand for several things. -/
def packsIn (tokens : List Token) : Parse (List (String × Entity)) := do
  let names := (tokens.filterMap fun token => match token with
    | .name name => some name
    | _ => none).eraseDups
  let found ← names.mapM fun name => do return (← packOf? name).map fun entity => (name, entity)
  return found.filterMap id

/-- Reads tokens once for everything that the names in them stand for. -/
def forEach {α : Type} (packs : List (String × Entity)) (step : Parse α) : Parse (List α) := do
  let count ← orFail ((packs.map fun pack => packSize pack.2).head?)
  require (packs.all fun pack => packSize pack.2 == count)
  (List.range count).mapM fun index => inBlock do
    packs.forM fun (name, entity) => do bind name (← orFail (packItem? entity index))
    step

/-- Reads an item that can stand for several ones. -/
def expandable {α : Type} (step : Parse α) : Parse (List α) := do
  if !(← isPlus) then return [← step]
  else
    let reading ← get
    let tokens := reading.tokens
    match patternUpTo (isTemplateName reading) (tokens.length + 1) 0 0 [] tokens with
    | none => return [← step]
    | some (pattern, rest) => do
      let packs ← packsIn pattern
      if packs.isEmpty then return [← step]
      else
        let found ← forEach packs (within pattern step)
        modify fun reading => { reading with tokens := rest }
        return found

/-! ### Arguments of templates -/

/-- The type with as many types as a parameter stands for spliced in. -/
def spliced (items : List CType) : List CType :=
  items.flatMap fun item => match item with
    | .pack inner => inner
    | other => [other]

/-- Reads where brackets are no operators. -/
def withAngles {α : Type} (inAngles : Bool) (step : Parse α) : Parse α := do
  let outer := (← get).inAngles
  modify fun reading => { reading with inAngles }
  let found ← step
  modify fun reading => { reading with inAngles := outer }
  return found

/-- The number that a constant expression is. -/
def constantOf (operand : Operand) : Parse (CType × Value) := do
  let (type, term) ← valueOf operand
  match term.constant? with
  | some value => return (type, value)
  | none => failure

/-- The integer that a value of a type is. -/
def integerOf (type : CType) (value : Value) : Int :=
  match type.kind?, value with
  | some (.word size signed), .word bits => Value.ofBits size signed bits
  | _, .word bits => bits
  | _, .real _ => 0

/-- The tokens behind the argument of a template. -/
def behindArgument (isTemplate : String → Bool) : Nat → Nat → Nat → Option Token → List Token →
    Option (List Token)
  | 0, _, _, _, _ => none
  | _ + 1, depth, _, _, [] => if depth = 0 then some [] else none
  | fuel + 1, depth, angles, last, token :: rest =>
    let go (depth angles : Nat) := behindArgument isTemplate fuel depth angles (some token) rest
    match token with
    | .mark "(" | .mark "[" | .mark "\x7b" => go (depth + 1) angles
    | .mark ")" | .mark "]" | .mark "\x7d" => if depth = 0 then none else go (depth - 1) angles
    | .mark "," | .mark "..." =>
      let counts := token == .mark "..." && last == some (.name "sizeof")
      if depth = 0 && angles = 0 && !counts then some (token :: rest) else go depth angles
    | .mark "<" =>
      let opens : Bool := match last with
        | some (.name name) => isTemplate name
        | _ => false
      go depth (if opens && depth = 0 then angles + 1 else angles)
    | .mark ">" =>
      if 0 < depth then go depth angles
      else if angles = 0 then some (token :: rest) else go depth (angles - 1)
    | .mark ">>" =>
      if 0 < depth then go depth angles
      else if angles = 0 then some (token :: rest)
      else if angles = 1 then some (.mark ">" :: rest) else go depth (angles - 2)
    | _ => go depth angles

/-- The tokens behind brackets for the arguments of a template, the first of which was read. -/
def behindAngles (isTemplate : String → Bool) : Nat → List Token → Option (List Token)
  | 0, _ => none
  | fuel + 1, tokens =>
    match behindArgument isTemplate (tokens.length + 1) 0 0 none tokens with
    | some (.mark ">" :: rest) => some rest
    | some (.mark ">>" :: rest) => some (.mark ">" :: rest)
    | some (_ :: rest) => behindAngles isTemplate fuel rest
    | some [] | none => none

/-- Whether the name of a scope ends behind the arguments of a template. -/
def scopeEndsBehind (tokens : List Token) : Parse Bool := do
  let reading ← get
  match behindAngles (isTemplateName reading) (tokens.length + 1) tokens with
  | some (.mark "::" :: .mark "*" :: _) => return false
  | some (.mark "::" :: _) => return true
  | _ => return false

/-- Leaves out the argument of a template about which nothing is known yet. -/
def skipArgument : Parse Unit := do
  let reading ← get
  let rest ← orFail
    (behindArgument (isTemplateName reading) (reading.tokens.length + 1) 0 0 none reading.tokens)
  require (rest.length < reading.tokens.length)
  modify fun reading => { reading with tokens := rest }

/-- The number of the function that an operand is. -/
def routineOf? (operand : Operand) : Parse (Option Nat) := do
  match operand with
  | .functions [number] [] [] _ _ => return some number
  | .value (.pointer (.function _ _ _)) (.address symbol) =>
    let functions := (← get).functions.toList
    return (functions.find? fun entry => entry.2.symbol == symbol).map (·.1)
  | _ => return none

/-- Reads a function or a number as the argument of a template. -/
def argumentValue (g : Grammar) : Parse CType := do
  let reading ← get
  let spares := reading.work.spares
  modify fun reading => { reading with isConstant := true }
  changeWork fun work => { work with spares := [] }
  let operand ← g.conditional
  let found ← (do
    match ← routineOf? operand with
    | some number => pure (CType.routine number)
    | none => do
      let (type, value) ← g.evaluate operand
      pure (.number (integerOf type value)) : Parse CType)
  changeWork fun work => { work with spares }
  modify fun after => { after with isConstant := reading.isConstant }
  return found

/-- Reads the argument of a template. -/
def templateArgument (g : Grammar) : Parse CType := do
  let ends : Parse Unit := do
    if ← sees "," then return ()
    else require ((← seesAngle) || (← get).tokens.isEmpty || (← sees "..."))
  (do
    let type ← withAngles false g.typeName
    if ← option "..." then
      ends
      return if type.isOpenType then .expansion type else type
    else
      ends
      match type with
      | .pattern text [.deduced] => return .template text
      | type => return type) <|>
    (do
      let name ← identifier
      match ← find? name with
      | some (.template number, _) => do
        let template ← templateAt number
        require (template.product == .record || template.product == .synonym)
        ends
        return .template (toString number)
      | some (.type (.template inner) _, _) => do
        ends
        return .template inner
      | some (.type (.parameter inner) _, _) => do
        ends
        return .parameter inner
      | _ => failure) <|>
    (do
      let found ← withAngles true (argumentValue g)
      discard (option "...")
      ends
      return found) <|>
    (do
      require (← isOpenHere)
      skipArgument
      let isMany ← option "..."
      ends
      return if isMany then .expansion .unknown else .unknown)

/-- Reads the arguments of a template. -/
def templateArguments (g : Grammar) : Parse (List CType) := do
  mark "<"
  if ← seesAngle then
    closeAngle
    return []
  else
    let found ← separated (expandable (templateArgument g))
    closeAngle
    return spliced found.flatten

/-! ### Scopes in front of names -/

/-- Makes a use of a template for a class complete, when it can be. -/
def completed (g : Grammar) (type : CType) : Parse Unit := do
  match type.bare with
  | .record tag => do
    let record ← recordAt tag
    match record.isComplete, record.origin with
    | false, some (number, arguments) => discard (g.typeFor number arguments)
    | _, _ => return ()
  | _ => return ()

/-- The scope of the names inside a type. -/
def scopeOfType (g : Grammar) (type : CType) : Parse Place := do
  match type.bare with
  | .record tag => do
    completed g type
    return .inside (← recordAt tag).scope
  | .enumeration tag _ _ =>
    match (← get).enumerations[tag]? with
    | some scope => return .inside scope
    | none => failure
  | other => if other.isOpenType then return .unknown else failure

/-- What a name stands for in a place. -/
def findIn? (place : Place) (name : String) : Parse (Option (Entity × Nat)) := do
  match place with
  | .here => find? name
  | .inside scope => do return findHere? (← get) searchDepth scope name
  | .unknown => return none

/-- The type that a template makes of arguments, as far as they are known. -/
def typeOfTemplate (g : Grammar) (number : Nat) (arguments : List CType) : Parse CType := do
  let template ← templateAt number
  require (template.product == .record || template.product == .synonym)
  g.typeFor number arguments

/-- The class whose template has a number among the classes around a scope and those that they
continue. -/
def ownType? (number : Nat) : Parse (Option CType) := do
  let reading ← get
  let rec below : Nat → String → Option CType
    | 0, _ => none
    | fuel + 1, tag => do
      let record ← reading.records[tag]?
      if record.origin.any fun (entry : Nat × List CType) => entry.1 == number then
        return .record tag
      else record.bases.findSome? fun base => below fuel base.tag
  let rec around : Nat → Nat → Option CType
    | 0, _ => none
    | fuel + 1, place => do
      let found ← reading.scopes[place]?
      let own := match found.holder with
        | .record tag => below searchDepth tag
        | _ => none
      own.or ((found.parent).bind (around fuel))
  return around searchDepth reading.scope

/-- Reads one scope in front of a name, when one comes next. -/
def scopeStep? (g : Grammar) (place : Place) : Parse (Option Place) := do
  let options := (← get).options
  match (← get).tokens with
  | .name name :: .mark "::" :: rest => do
    if isReserved options.isPlus options.year name then return none
    else
      match rest with
      | .mark "*" :: _ => return none
      | _ =>
        match place with
        | .unknown => do
          skip 2
          return some .unknown
        | _ =>
          match ← findIn? place name with
          | some (.space scope, _) => do
            skip 2
            return some (.inside scope)
          | some (.type type _, _) => do
            skip 2
            return some (← scopeOfType g type)
          | some (.template number, _) => do
            match ← ownType? number with
            | some type => do
              skip 2
              return some (← scopeOfType g type)
            | none => return none
          | _ => return none
  | .name name :: .mark "<" :: rest => do
    if !(← scopeEndsBehind rest) then return none
    match ← findIn? place name with
    | some (.template number, _) =>
      optional do
        skip 1
        let arguments ← templateArguments g
        mark "::"
        require !(← sees "*")
        scopeOfType g (← typeOfTemplate g number arguments)
    | some (.type (.template text) _, _) =>
      optional do
        skip 1
        let arguments ← templateArguments g
        mark "::"
        scopeOfType g (← typeOfTemplate g (text.toNat?.getD 0) arguments)
    | some (.type (.parameter _) _, _) =>
      optional do
        skip 1
        discard (templateArguments g)
        mark "::"
        return .unknown
    | none =>
      match place with
      | .unknown =>
        optional do
          skip 1
          discard (templateArguments g)
          mark "::"
          return .unknown
      | _ => return none
    | _ => return none
  | .name "template" :: .name _ :: .mark "<" :: _ =>
    match place with
    | .here => return none
    | _ => do
      skip 1
      return some place
  | .name "decltype" :: .mark "(" :: _ =>
    match place with
    | .here =>
      optional do
        skip 1
        let inner ← enclosed
        mark "::"
        let operand ← withoutCode (withAngles false (within inner g.expression))
        scopeOfType g operand.type.referred
    | _ => return none
  | _ => return none

/-- Reads further scopes in front of a name. -/
def nestedFrom (g : Grammar) : Nat → Place → Parse Place
  | 0, _ => failure
  | fuel + 1, place => do
    match ← scopeStep? g place with
    | some next => nestedFrom g fuel next
    | none => return place

/-- Reads the scopes in front of a name. -/
def nested (g : Grammar) : Parse Place := do
  if !(← isPlus) then return .here
  else if ← option "::" then nestedFrom g searchDepth (.inside 0)
  else nestedFrom g searchDepth .here

/-! ### Types by their names -/

/-- Fails where what a name stands for may not be used. -/
def allowed (entity : Entity) (scope : Nat) : Parse Unit := do
  match (← scopeAt scope).holder with
  | .record tag =>
    match entity with
    | .type _ access | .constant _ _ access => checkAccess access tag ""
    | .object found => checkAccess found.access tag ""
    | _ => return ()
  | _ => return ()

/-- The arguments of a template as the values tell them. -/
def guessed (number : Nat) : CType := .pattern (toString number) [.deduced]

/-- Reads a type by its name. -/
def namedType (g : Grammar) : Parse CType := do
  if !(← isPlus) then
    let name ← identifier
    match ← find? name with
    | some (.type type _, _) => return type
    | _ => failure
  else
    let place ← nested g
    discard (optionWord "template")
    let name ← identifier
    match place with
    | .unknown => do
      if ← sees "<" then discard (optional (templateArguments g))
      return .unknown
    | place =>
      match ← findIn? place name with
      | some (.type (.template text) _, _) => do
        require (← sees "<")
        let arguments ← templateArguments g
        typeOfTemplate g (text.toNat?.getD 0) arguments
      | some (.type type access, scope) => do
        allowed (.type type access) scope
        match type with
        | .pack _ => failure
        | .number _ => failure
        | .parameter _ => do
          if ← sees "<" then
            match ← optional (templateArguments g) with
            | some arguments => return .pattern name arguments
            | none => return type
          else return type
        | type => return type
      | some (.template number, _) => do
        let template ← templateAt number
        require (template.product == .record || template.product == .synonym)
        if ← sees "<" then
          let arguments ← templateArguments g
          typeOfTemplate g number arguments
        else
          match ← ownType? number with
          | some type => return type
          | none => do
            require !(← sees "::")
            return guessed number
      | some _ => failure
      | none =>
        match place with
        | .here => do
          let reading ← get
          orFail (tagFrom? reading name searchDepth reading.scope)
        | _ => failure

end Parse

end KernelCache.C
