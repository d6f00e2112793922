import KernelCache.C.Specifier

/-
**Declarators.**

A name in a declaration has steps around it, such as stars and brackets, that lead from the name to
the type in front.

* `Parse.declarator` reads a name with its steps, and `CType.shaped` is the type of the name.
* `Parse.typeName` reads a type that stands alone.
-/

namespace KernelCache.C

open KernelCache.Code (Term Value Kind Instruction Linkage)

/-! ### Shapes -/

/-- What stands behind the parameters of a function. -/
structure Tail where
  manner : Manner := {}
  /-- The type behind an arrow. -/
  result : Option CType := none
  isFinal : Bool := false
  isOverride : Bool := false
  nothrow : Bool := false
  onValue : Option Bool := none
  /-- The names of parameters whose types come later. -/
  oldNames : List String := []
  packs : List String := []

/-- A step from a name to the type in front of it. -/
inductive Shape where
  | pointer (isConst : Bool)
  | reference (toValue : Bool)
  | array (count : Option Nat)
  | measured (offset : Nat)
  | arrayOf (count : CType)
  | function (parameters : List Parameter) (tail : Tail)
  | memberPointer (tag : CType)

/-- The type that steps lead to. -/
def CType.shaped (base : CType) : List Shape → CType
  | [] => base
  | .pointer isConst :: rest =>
    let type := CType.pointer (shaped base rest)
    if isConst then .const type else type
  | .reference toValue :: rest => (shaped base rest).referenceTo toValue
  | .array count :: rest => .array count (shaped base rest)
  | .measured offset :: rest => .measured offset (shaped base rest)
  | .arrayOf count :: rest => .arrayOf count (shaped base rest)
  | .function parameters tail :: rest =>
    let result := tail.result.getD (shaped base rest)
    let result := if result.tag?.isSome then result else result.bare
    .function result (parameters.map fun parameter => parameter.type.bare) tail.manner
  | .memberPointer tag :: rest => .memberPointer tag (shaped base rest)

/-- The name that a declaration introduces. -/
inductive Naming where
  | none
  | plain (name : String)
  | constructor
  | destructor
  | conversion (type : CType)

/-- A name with the steps from it to the type in front. -/
structure Declarator where
  naming : Naming := .none
  place : Place := .here
  /-- The arguments of a template behind the name. -/
  given : Option (List CType) := none
  shapes : List Shape := []
  attributes : Attributes := {}
  /-- Whether it stands for any number of things. -/
  isPack : Bool := false

/-- The name, or nothing. -/
def Declarator.name (declarator : Declarator) : String :=
  match declarator.naming with
  | .plain name => name
  | _ => ""

namespace Parse

/-! ### Tokens of items -/

/-- The tokens of an item in a list, up to a comma or the bracket behind it. -/
def itemUpTo (isTemplate : String → Bool) :
    Nat → Nat → Nat → List Token → List Token → List Token × List Token
  | 0, _, _, taken, rest => (taken.reverse, rest)
  | _ + 1, _, _, taken, [] => (taken.reverse, [])
  | fuel + 1, depth, angles, taken, token :: rest =>
    let go (depth angles : Nat) := itemUpTo isTemplate fuel depth angles (token :: taken) rest
    match token with
    | .mark "(" | .mark "[" | .mark "\x7b" => go (depth + 1) angles
    | .mark ")" | .mark "]" | .mark "\x7d" =>
      if depth = 0 then (taken.reverse, token :: rest) else go (depth - 1) angles
    | .mark "," => if depth = 0 && angles = 0 then (taken.reverse, token :: rest) else go depth angles
    | .mark ";" => if depth = 0 then (taken.reverse, token :: rest) else go depth angles
    | .mark "<" =>
      let opens := match taken with
        | .name name :: _ => isTemplate name
        | _ => false
      go depth (if opens then angles + 1 else angles)
    | .mark ">" => go depth (angles - 1)
    | .mark ">>" => go depth (angles - 2)
    | _ => go depth angles

/-- Reads the tokens of an item in a list. -/
def itemTokens : Parse (List Token) := do
  let reading ← get
  let (taken, rest) :=
    itemUpTo (isTemplateName reading) (reading.tokens.length + 1) 0 0 [] reading.tokens
  modify fun reading => { reading with tokens := rest }
  return taken

/-- The tokens in front of three dots, and those behind them. -/
def aroundDots (isTemplate : String → Bool) :
    Nat → Nat → List Token → List Token → Option (List Token × List Token)
  | _, _, _, [] => none
  | depth, angles, before, token :: rest =>
    let go (depth angles : Nat) := aroundDots isTemplate depth angles (token :: before) rest
    match token with
    | .mark "..." =>
      if depth = 0 && angles = 0 && !before.isEmpty then some (before.reverse, rest)
      else go depth angles
    | .mark "(" | .mark "[" | .mark "\x7b" => go (depth + 1) angles
    | .mark ")" | .mark "]" | .mark "\x7d" => go (depth - 1) angles
    | .mark "<" =>
      let opens : Bool := match before with
        | .name name :: _ => isTemplate name
        | _ => false
      go depth (if opens then angles + 1 else angles)
    | .mark ">" => go depth (angles - 1)
    | .mark ">>" => go depth (angles - 2)
    | _ => go depth angles

/-! ### Parameters whose types operands tell -/

/-- The name of a condition on types at the end of tokens, with its arguments, and what is in front
of it; the tokens are reversed. -/
def conditionBehind? (tokens : List Token) : Parse (Option (List Token × List Token)) := do
  let isCondition (name : String) : Parse Bool := do
    let reading ← get
    return reading.templates.any fun _ template =>
      template.name == name && template.product == .condition
  let rec path : List Token → List Token → List Token × List Token
    | taken, .mark "::" :: .name space :: rest => path (.name space :: .mark "::" :: taken) rest
    | taken, rest => (taken, rest)
  match tokens with
  | .name name :: rest => do
    if ← isCondition name then return some (path [.name name] rest) else return none
  | .mark ">" :: rest => do
    let inner := rest.takeWhile (· != .mark "<")
    match rest.drop inner.length with
    | .mark "<" :: .name name :: rest => do
      if ← isCondition name then
        return some (path (.name name :: .mark "<" :: inner.reverse ++ [.mark ">"]) rest)
      else return none
    | _ => return none
  | _ => return none

/-- Parameters of a function with names in the place of `auto`, and the parameters of a template that
the names are; what was read is reversed. -/
def withoutAuto : Nat → Nat → List Token → List (List Token) → List Token →
    Parse (List Token × List (List Token))
  | 0, _, _, _, _ => failure
  | _ + 1, _, taken, heads, [] => return (taken.reverse, heads.reverse)
  | fuel + 1, depth, taken, heads, token :: rest => do
    match token with
    | .mark "(" | .mark "[" | .mark "\x7b" => withoutAuto fuel (depth + 1) (token :: taken) heads rest
    | .mark ")" | .mark "]" | .mark "\x7d" => withoutAuto fuel (depth - 1) (token :: taken) heads rest
    | .name "auto" =>
      if depth = 0 then
        let name := "(auto" ++ toString (← fresh) ++ ")"
        let behind := rest.dropWhile fun token =>
          [Token.mark "&", .mark "&&", .mark "*", .name "const"].contains token
        let dots : List Token := if behind.head? == some (.mark "...") then [.mark "..."] else []
        let (front, taken) := (← conditionBehind? taken).getD ([.name "class"], taken)
        let head := front ++ dots ++ [.name name]
        withoutAuto fuel depth (.name name :: taken) (head :: heads) rest
      else withoutAuto fuel depth (token :: taken) heads rest
    | token => withoutAuto fuel depth (token :: taken) heads rest

/-- Words with brackets behind them that hold no parameters. -/
def bracketWords : List String :=
  ["decltype", "noexcept", "explicit", "alignas", "__attribute__", "requires"]

/-- The tokens up to the parameters of a function, and those from there on. -/
def upToParameters : Nat → List Token → List Token → Option (List Token × List Token)
  | 0, _, _ => none
  | fuel + 1, taken, tokens =>
    match tokens with
    | .name "operator" :: .mark "(" :: .mark ")" :: rest =>
      upToParameters fuel (.mark ")" :: .mark "(" :: .name "operator" :: taken) rest
    | .name word :: .mark "(" :: rest =>
      if bracketWords.contains word then
        match balancedUpTo (rest.length + 2) 0 [] (.mark "(" :: rest) with
        | some (inner, rest) => upToParameters fuel (inner ++ .name word :: taken) rest
        | none => none
      else some ((.name word :: taken).reverse, .mark "(" :: rest)
    | .mark "(" :: _ => some (taken.reverse, tokens)
    | .mark ";" :: _ | .mark "\x7b" :: _ | .mark "=" :: _ | [] => none
    | token :: rest => upToParameters fuel (token :: taken) rest

/-- The declaration of a function with parameters whose types operands tell as that of a template:
the parameters of the template, and the tokens. -/
def abbreviated? (tokens : List Token) : Parse (Option (List (List Token) × List Token)) := do
  let early := tokens.takeWhile fun token => token != .mark ";" && token != .mark "\x7b"
  if !(early.contains (.name "auto") && early.contains (.mark "(")) then return none
  else
    match upToParameters (tokens.length + 1) [] tokens with
    | none => return none
    | some (front, behind) =>
      match balancedUpTo (behind.length + 1) 0 [] behind with
      | none => return none
      | some (list, rest) => do
        let inner := (list.reverse.drop 1).dropLast
        let (inner, heads) ← withoutAuto (inner.length + 1) 0 [] [] inner
        if heads.isEmpty then return none
        else return some (heads, front ++ .mark "(" :: inner ++ .mark ")" :: rest)

/-- Puts the declaration of a template in the place of one of a function with parameters whose types
operands tell; says whether it was one. -/
def abbreviatedHere : Parse Bool := do
  match ← abbreviated? (← get).tokens with
  | none => return false
  | some (heads, tokens) => do
    let head : List Token := .name "template" :: .mark "<"
      :: List.intercalate [Token.mark ","] heads ++ [.mark ">"]
    modify fun reading => { reading with tokens := head ++ tokens }
    return true

/-! ### Steps -/

/-- Words behind a star. -/
def qualifierWords : List String :=
  ["volatile", "restrict", "__restrict", "__restrict__", "__volatile__", "_Atomic", "__volatile"]

/-- Reads the words behind a star, and says whether the pointer is constant. -/
def qualifiers (g : Grammar) : Parse Bool := do
  let found ← many do
    match ← peek with
    | .name text =>
      if text == "const" || text == "__const" then
        skip 1
        return true
      else if qualifierWords.contains text then
        skip 1
        return false
      else if text == "__attribute__" then
        discard (attributeList g)
        return false
      else failure
    | _ => failure
  return found.any id

/-- Reads a step in front of a name. -/
def frontStep (g : Grammar) : Parse Shape := do
  if ← option "*" then return .pointer (← qualifiers g)
  else
    require (← isPlus)
    if ← option "&" then return .reference false
    else if ← option "&&" then return .reference true
    else
      match (← get).tokens with
      | .name _ :: .mark "::" :: _ | .name _ :: .mark "<" :: _ | .mark "::" :: _ => do
        let tag ← namedType g
        mark "::"
        mark "*"
        discard (qualifiers g)
        return .memberPointer tag
      | _ => failure

/-- Words inside the brackets of an array. -/
def arrayWords : List String := ["static", "const", "restrict", "volatile", "__restrict"]

/-- Reads the size of an array in brackets. A size that is known only when the program runs is kept
in a variable; that of a parameter is worked out where the function starts. -/
def arrayStep (g : Grammar) (isParameter : Bool) : Parse Shape := do
  require ((← peekSecond) != .mark "[")
  let inner ← enclosed
  let inner := inner.dropWhile fun token => match token with
    | .name text => arrayWords.contains text
    | _ => false
  match inner with
  | [] | [.mark "*"] => return .array none
  | inner => do
    let open? ← match inner with
      | [.name name] => do
        match ← find? name with
        | some (.type (.parameter found) _, _) => pure (some found)
        | _ => pure none
      | _ => pure none
    match open? with
    | some name => return .arrayOf (.parameter name)
    | none => do
      let reading ← get
      let constant ← optional (within inner g.constant)
      match constant with
      | some (type, value) => do
        require type.isInteger
        let number := integerOf type value
        require (0 ≤ number)
        return .array (some number.toNat)
      | none => do
        if ← isOpenHere then return .arrayOf .unknown
        else if isParameter then
          let number ← fresh
          modify fun reading => { reading with measures := (number, inner) :: reading.measures }
          return .measured number
        else
          require (reading.work.function != 0)
          let operand ← within inner g.assignment
          let (type, term) ← valueOf operand
          require type.isInteger
          let kind ← orFail type.kind?
          let offset ← place 8 8
          let kept := Term.storeLate .address (.place offset) (convertTerm kind .address term)
          changeWork fun work => { work with front := work.front ++ kept.effect }
          return .measured offset

/-- The number of octets of an object of a type. -/
def sizeTerm (type : CType) : Parse Term := do
  match type.bare with
  | .measured offset _ => return .load .address (.place offset)
  | .function _ _ _ | .void => return .word 1
  | other => return .word (← sizeOf other)

/-- A type whose sizes in variables count octets rather than items; inner ones come first. -/
def settled : CType → Parse CType
  | .measured offset item => do
    let item ← settled item
    let size ← sizeTerm item
    let product := Term.binary .mul .address (.load .address (.place offset)) size
    let kept := Term.storeLate .address (.place offset) product
    changeWork fun work => { work with front := work.front ++ kept.effect }
    return .measured offset item
  | .array count item => do
    let item ← settled item
    match item, count with
    | .measured _ _, some count => do
      let size ← sizeTerm item
      let offset ← place 8 8
      let kept := Term.storeLate .address (.place offset)
        (.binary .mul .address size (.word count))
      changeWork fun work => { work with front := work.front ++ kept.effect }
      return .measured offset item
    | item, count => return .array count item
  | .pointer target => do return .pointer (← settled target)
  | .const type => do return .const (← settled type)
  | other => return other

/-- Whether the size of a type is kept in a variable somewhere. -/
def isMeasured : CType → Bool
  | .measured _ _ => true
  | .array _ item => isMeasured item
  | .pointer target => isMeasured target
  | .const type => isMeasured type
  | _ => false

/-! ### Names -/

/-- The name of functions that end objects. -/
def enderName : String := "(end)"

/-- Operators that can be names behind `operator`. -/
def operatorMarks : List String :=
  ["+", "-", "*", "/", "%", "^", "&", "|", "~", "!", "=", "<", ">", "+=", "-=", "*=", "/=", "%=",
    "^=", "&=", "|=", "<<", ">>", ">>=", "<<=", "==", "!=", "<=", ">=", "<=>", "&&", "||", "++",
    "--", ",", "->*", "->"]

/-- Reads what stands behind `operator`. -/
def operatorName (g : Grammar) : Parse Naming := do
  match (← get).tokens with
  | .mark "(" :: .mark ")" :: _ => do
    skip 2
    return .plain "operator()"
  | .mark "[" :: .mark "]" :: _ => do
    skip 2
    return .plain "operator[]"
  | .name "new" :: .mark "[" :: .mark "]" :: _ => do
    skip 3
    return .plain "operatornew[]"
  | .name "delete" :: .mark "[" :: .mark "]" :: _ => do
    skip 3
    return .plain "operatordelete[]"
  | .name "new" :: _ => do
    skip 1
    return .plain "operatornew"
  | .name "delete" :: _ => do
    skip 1
    return .plain "operatordelete"
  | .text _ :: .name name :: _ => do
    skip 2
    return .plain ("operator\"\"" ++ name)
  | .text text :: _ => do
    skip 1
    let name := String.ofList ((text.toList.reverse.takeWhile (· != '"')).reverse)
    require (name != "")
    return .plain ("operator\"\"" ++ name)
  | .mark text :: _ =>
    if operatorMarks.contains text then
      skip 1
      return .plain ("operator" ++ text)
    else failure
  | _ => do
    let found ← specifiers g
    let type ← orFail found.type
    let steps ← many (frontStep g)
    return .conversion (type.shaped steps.reverse)

/-- The class whose scope a place is, when it is one. -/
def classAt? (place : Place) : Parse (Option Record) := do
  let reading ← get
  let scope := match place with
    | .here => homeOf reading searchDepth reading.scope
    | .inside scope => scope
    | .unknown => 0
  let found : Option Scope := reading.scopes[scope]?
  match found with
  | some { holder := .record tag, .. } => return reading.records[tag]?
  | _ => return none

/-- Reads a name in a declaration, with the scopes in front of it. -/
def declaredName (g : Grammar) : Parse Declarator := do
  if !(← isPlus) then return { naming := .plain (← identifier) }
  else
    let place ← nested g
    let owner? ← classAt? place
    if ← option "~" then
      let owner ← orFail owner?
      word owner.name
      if ← sees "<" then discard (templateArguments g)
      return { naming := .destructor, place }
    else if ← optionWord "operator" then
      return { naming := ← operatorName g, place }
    else
      let name ← identifier
      let isMaker := owner?.any fun owner => owner.name == name
      if isMaker then
        if ← sees "<" then discard (templateArguments g)
        if ← sees "(" then return { naming := .constructor, place }
        else return { naming := .plain name, place }
      else if ← sees "<" then
        match ← findIn? place name with
        | some (.functions _ (_ :: _), _) | some (.template _, _) => do
          let given ← templateArguments g
          return { naming := .plain name, place, given := some given }
        | _ => return { naming := .plain name, place }
      else return { naming := .plain name, place }

/-! ### Parameters -/

/-- Makes a name known in the list of parameters that is being read. -/
def noteParameter (name : String) (type : CType) : Parse Unit := do
  if name = "" then return ()
  else
    let number ← fresh
    bind name (.object { number, name, type, home := .frame 0 0 })

/-- Parameters of a function, and what was found out about them. -/
structure Listed where
  parameters : List Parameter := []
  manner : Manner := {}
  oldNames : List String := []
  packs : List String := []

/-- Whether only names stand between brackets, and none of them is a type. -/
def oldNames? : List Token → List String → Parse (Option (List String))
  | [.name name], names => do
    let options := (← get).options
    if isReserved options.isPlus options.year name then return none
    else
      match ← find? name with
      | some (.type _ _, _) => return none
      | _ => return some (names ++ [name])
  | .name name :: .mark "," :: rest, names => do
    match ← oldNames? [.name name] [] with
    | some _ => oldNames? rest (names ++ [name])
    | none => return none
  | _, _ => return none

/-- Leaves out one part of a condition. -/
def skipConditionPart : Nat → Parse Unit
  | 0 => failure
  | fuel + 1 => do
    match (← get).tokens with
    | .mark "!" :: _ => do
      skip 1
      skipConditionPart fuel
    | .mark "(" :: _ => discard balanced
    | .name "requires" :: _ => do
      skip 1
      if ← sees "(" then discard balanced
      discard balanced
    | .mark "::" :: _ => do
      skip 1
      skipConditionPart fuel
    | .name _ :: .mark "<" :: rest => do
      let reading ← get
      let rest ← orFail (behindAngles (isTemplateName reading) (rest.length + 1) rest)
      modify fun reading => { reading with tokens := rest }
      if ← option "::" then skipConditionPart fuel
    | .name _ :: _ => do
      skip 1
      if ← option "::" then skipConditionPart fuel
    | _ => failure

/-- Leaves out parts of a condition with operators between them. -/
def skipConditionParts : Nat → Parse Unit
  | 0 => failure
  | fuel + 1 => do
    skipConditionPart searchDepth
    if (← option "&&") || (← option "||") then skipConditionParts fuel

/-- Reads the tokens of a condition. -/
def conditionTokens : Parse (List Token) := do
  let tokens := (← get).tokens
  skipConditionParts (tokens.length + 1)
  return tokens.take (tokens.length - (← get).tokens.length)

/-- A type with constants that a parameter keeps. -/
def parameterType (type : CType) : CType :=
  match type with
  | .reference toValue target => .reference toValue target
  | .const inner => (CType.asParameter inner).constant
  | .array count item => CType.asParameter (.array count item)
  | other => other.asParameter

/-- Whether a bracket behind a name opens another declarator. -/
def opensDeclarator (g : Grammar) (isNamed : Bool) : Parse Bool := do
  match (← get).tokens with
  | .mark "(" :: .mark text :: _ =>
    if text == "*" || text == "^" then return true
    else if text == "&" || text == "&&" then isPlus
    else if text == "(" then
      if isNamed then return true
      else would do
        skip 1
        require (← opensInner)
    else return false
  | .mark "(" :: .name "__attribute__" :: _ => return true
  | .mark "(" :: .name name :: rest => do
    let options := (← get).options
    let isMember : Bool ← (do
      if !options.isPlus then pure false
      else
        match rest with
        | .mark "::" :: _ | .mark "<" :: _ => would do
          skip 1
          discard (frontStep g)
        | _ => pure false)
    if isMember then return true
    else if !isNamed || isReserved options.isPlus options.year name then
      return isNamed && name == "operator"
    else
      match ← find? name with
      | some (.type _ _, _) => return false
      | some (.template _, _) => return false
      | _ =>
        match rest with
        | .mark ")" :: _ | .mark "[" :: _ | .mark "(" :: _ => return true
        | .mark "::" :: _ => would do
          skip 1
          discard (declaredName g)
          mark ")"
        | _ => return false
  | _ => return false
where
  /-- Whether a star follows a bracket. -/
  opensInner : Parse Bool := do
    match (← get).tokens with
    | .mark "(" :: .mark "*" :: _ => return true
    | _ => return false

mutual

/-- Reads a name with its steps. A type that stands alone has no name. -/
def declaratorUpTo (g : Grammar) : Nat → Bool → Bool → Bool → Parse Declarator
  | 0, _, _, _ => failure
  | fuel + 1, isNamed, isParameter, mayCall => do
    let before ← attributes g
    let front ← many (frontStep g)
    let more ← attributes g
    let core : Declarator ← (do
      if ← opensDeclarator g isNamed then
        mark "("
        let inner ← declaratorUpTo g fuel isNamed isParameter mayCall
        mark ")"
        pure inner
      else if isNamed then
        match ← optional (declaredName g) with
        | some found => pure found
        | none => pure {}
      else pure {})
    let behind ← manySteps g fuel isParameter mayCall core 32
    let after ← attributes g
    return { core with
      shapes := core.shapes ++ behind ++ front.reverse
      attributes := ((before.and more).and core.attributes).and after }

/-- Reads steps behind a name. -/
def manySteps (g : Grammar) :
    Nat → Bool → Bool → Declarator → Nat → Parse (List Shape)
  | 0, _, _, _, _ => return []
  | _ + 1, _, _, _, 0 => return []
  | fuel + 1, isParameter, mayCall, core, count + 1 => do
    let step : Option Shape ← (do
      if ← sees "[" then
        if (← peekSecond) == .mark "[" then pure none
        else do
          let found ← arrayStep g isParameter
          pure (some found)
      else if mayCall && (← sees "(") then
        match core.place with
        | .inside scope => do
          let outer := (← get).scope
          enter scope
          let found ← optional (functionStep g fuel)
          modify fun reading => { reading with scope := outer }
          pure found
        | _ => optional (functionStep g fuel)
      else pure none)
    match step with
    | some step => do
      let rest ← manySteps g fuel isParameter mayCall core count
      return step :: rest
    | none => return []

/-- Reads the parameters of a function and what stands behind them. -/
def functionStep (g : Grammar) : Nat → Parse Shape
  | 0 => failure
  | fuel + 1 => do
    let outer := (← get).scope
    let scope ← addScope (some outer) .block
    modify fun reading => { reading with scope }
    let listed ← parameterList g fuel
    let tail ← functionTail g fuel { manner := listed.manner }
    modify fun reading => { reading with scope := outer }
    let tail := { tail with
      manner := { listed.manner with isConst := tail.manner.isConst }
      oldNames := listed.oldNames
      packs := listed.packs }
    return .function listed.parameters tail

/-- Reads what stands behind the parameters of a function. -/
def functionTail (g : Grammar) : Nat → Tail → Parse Tail
  | 0, tail => return tail
  | fuel + 1, tail => do
    match (← get).tokens with
    | .name "const" :: _ => do
      skip 1
      functionTail g fuel { tail with manner := { tail.manner with isConst := true } }
    | .name "volatile" :: _ | .name "mutable" :: _ => do
      skip 1
      functionTail g fuel tail
    | .name "override" :: _ => do
      require (← isPlus)
      skip 1
      functionTail g fuel { tail with isOverride := true }
    | .name "final" :: _ => do
      require (← isPlus)
      skip 1
      functionTail g fuel { tail with isFinal := true }
    | .mark "&" :: _ => do
      require (← isPlus)
      skip 1
      functionTail g fuel { tail with onValue := some false }
    | .mark "&&" :: _ => do
      require (← isPlus)
      skip 1
      functionTail g fuel { tail with onValue := some true }
    | .name "noexcept" :: .mark "(" :: _ => do
      skip 1
      let inner ← enclosed
      let holds ← optional (numberIn g inner)
      functionTail g fuel { tail with nothrow := holds.any (· != 0) }
    | .name "noexcept" :: _ => do
      skip 1
      functionTail g fuel { tail with nothrow := true }
    | .name "throw" :: .mark "(" :: _ => do
      skip 1
      let inner ← enclosed
      require (inner.isEmpty || (← get).options.year < 2017)
      functionTail g fuel { tail with nothrow := inner.isEmpty }
    | .name "requires" :: _ => do
      skip 1
      let condition ← conditionTokens
      if !(← isOpenHere) then
        let (_, value) ← within condition g.constant
        require value.isTrue
      functionTail g fuel tail
    | .mark "->" :: _ => do
      require (← isPlus)
      skip 1
      let found ← specifiers g
      let base ← orFail found.type
      let inner ← declaratorUpTo g fuel false false true
      functionTail g fuel { tail with result := some (base.shaped inner.shapes) }
    | .mark "[" :: .mark "[" :: _ => do
      discard (attributeList g)
      functionTail g fuel tail
    | _ => return tail

/-- Reads the parameters of a function between brackets. -/
def parameterList (g : Grammar) : Nat → Parse Listed
  | 0 => failure
  | fuel + 1 => do
    let options := (← get).options
    mark "("
    if ← option ")" then
      return { manner := { isLoose := !options.isPlus && options.year < 2023 } }
    else
      match (← get).tokens with
      | .name "void" :: .mark ")" :: _ => do
        skip 2
        return {}
      | tokens => do
        let names ← (do
          if options.isPlus then pure none
          else do
            let inner := tokens.takeWhile (· != .mark ")")
            oldNames? inner [] : Parse (Option (List String)))
        match names with
        | some names => do
          skip (2 * names.length)
          return { oldNames := names, manner := { isLoose := true } }
        | none => parameters g fuel {}

/-- Reads parameters up to the bracket that closes them. -/
def parameters (g : Grammar) : Nat → Listed → Parse Listed
  | 0, _ => failure
  | fuel + 1, listed => do
    let plus ← isPlus
    if ← option "..." then
      mark ")"
      return { listed with manner := { listed.manner with isOpen := true } }
    else
      let reading ← get
      let tokens := reading.tokens
      let item ← itemTokens
      let around : Option (List Token × List Token) :=
        if plus then aroundDots (isTemplateName reading) 0 0 [] item else none
      let listed : Listed ← (do
        match around with
        | some (before, after) => do
          let packs ← packsIn before
          let name := match after with
            | .name name :: _ => name
            | _ => ""
          let read : Parse CType := do
            let found ← specifiers g
            let base ← orFail found.type
            let inner ← declaratorUpTo g fuel true true true
            pure (parameterType (base.shaped inner.shapes))
          let made (type : CType) : Parameter := { type, name, initial := none, isPack := true }
          if packs.isEmpty then
            let type ← within before read
            if type.isOpenType then
              pure { listed with
                parameters := listed.parameters ++ [made (.expansion type)]
                packs := listed.packs ++ [name] }
            else do
              require (after.isEmpty && (← sees ")"))
              let plain : Parameter := { type, name := "", initial := none, isPack := false }
              pure { listed with
                parameters := listed.parameters ++ [plain]
                manner := { listed.manner with isOpen := true } }
          else
            let types ← forEach packs (within before read)
            let found ← types.mapM fun type => do
              let number ← fresh
              pure ({ number, name, type, home := .frame 0 0 } : Variable)
            if name != "" then bind name (.pack found)
            pure { listed with
              parameters := listed.parameters ++ types.map made
              packs := listed.packs ++ [name] }
        | none => do
          modify fun reading => { reading with tokens }
          let found ← specifiers g
          let base ← orFail found.type
          require !(found.isTypeName || found.isStatic || found.isExternal)
          let inner ← declaratorUpTo g fuel true true true
          let type := parameterType (base.shaped inner.shapes)
          require !type.isVoid
          let initial ← (do
            if ← option "=" then
              require plus
              let tokens ← itemTokens
              require !tokens.isEmpty
              pure (some tokens)
            else pure none)
          noteParameter inner.name type
          require ((← sees ",") || (← sees ")"))
          let one : Parameter := { type, name := inner.name, initial, isPack := false }
          pure { listed with parameters := listed.parameters ++ [one] })
      if ← option ")" then return listed
      else if ← option "..." then
        require plus
        mark ")"
        return { listed with manner := { listed.manner with isOpen := true } }
      else
        mark ","
        parameters g fuel listed

end

/-- Declarators are nested this deep at most. -/
def declaratorDepth : Nat := 400

/-- Reads a name with its steps. -/
def declarator (g : Grammar) : Parse Declarator := do
  declaratorUpTo g declaratorDepth true false true

/-- Reads steps that stand without a name. -/
def abstractDeclarator (g : Grammar) : Parse Declarator := do
  declaratorUpTo g declaratorDepth false false true

/-- Reads a type that stands alone. -/
def typeName (g : Grammar) : Parse CType := do
  let found ← specifiers g
  require !(found.isTypeName || found.isStatic || found.isExternal || found.isFriend)
  let base ← orFail found.type
  let inner ← abstractDeclarator g
  settled (base.shaped inner.shapes)

end Parse

end KernelCache.C
