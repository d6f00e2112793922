import KernelCache.C.Template

/-
**Functions without a name.**

A function without a name becomes an object of a class of its own: what the function takes from around
it are members, and its body is that of the operator for calls.

* `Parse.closureHere` reads one.
* `Parse.takenHere` reads the list of what it takes.
-/

namespace KernelCache.C

open KernelCache.Code (Term Value Kind Instruction Linkage)

/-- Something that a function without a name takes. -/
structure Taking where
  /-- The number of the variable that it is for; the object around the function has none. -/
  variableNumber : Option Nat
  /-- The type of the member. -/
  type : CType
  operand : Operand
  /-- The name and the type of a variable that is made for it. -/
  made : Option (String × CType) := none

/-- What a list says that is to be taken where nothing is said. -/
inductive Ground where
  | nothing
  | copies
  | references
  deriving DecidableEq

namespace Parse

/-! ### What is taken -/

/-- A variable as it is taken. -/
def takeVariable (byReference : Bool) (found : Variable) : Parse Taking := do
  let operand ← variableOperand found
  let type := if byReference then CType.reference false operand.type else operand.type
  return { variableNumber := some found.number, type, operand }

/-- Whether a variable belongs to a function that is being read, so that it has to be taken. -/
def isTakeable (found : Variable) : Bool :=
  match found.home with
  | .frame function _ => function != 0 && found.value.isNone
  | .symbol _ => false

/-- The variables that a name stands for, as far as they have to be taken. -/
def takeable (name : String) : Parse (List Variable) := do
  match ← find? name with
  | some (.object found, _) => return if isTakeable found then [found] else []
  | some (.pack found, _) => return found.filter isTakeable
  | _ => return []

/-- The object around a function as it is taken. -/
def takeSelf (byCopy : Bool) : Parse Taking := do
  let (type, term) ← orFail (← self?)
  if byCopy then
    return { variableNumber := none, type := type.bare, operand := .place type term none false }
  else
    return { variableNumber := none, type := .pointer type, operand := .value (.pointer type) term }

/-- Reads a variable that is made for a function. -/
def takeMade (g : Grammar) (byReference : Bool) (name : String) : Parse Taking := do
  let operand ← (do
    if ← option "=" then g.assignment
    else if ← sees "(" then within (← enclosed) g.assignment
    else within (← enclosed) g.assignment : Parse Operand)
  require (← get).tokens.isEmpty
  let number ← fresh
  let type ← (do
    if byReference then pure (CType.reference false operand.type)
    else valueType operand : Parse CType)
  return { variableNumber := some number, type, operand, made := some (name, type) }

/-- Reads one item of the list of what is taken. -/
def takingHere (g : Grammar) : Parse (Ground × List Taking) := do
  match (← get).tokens with
  | [.mark "="] => do
    skip 1
    return (.copies, [])
  | [.mark "&"] => do
    skip 1
    return (.references, [])
  | [.name "this"] => do
    skip 1
    return (.nothing, [← takeSelf false])
  | [.mark "*", .name "this"] => do
    skip 2
    return (.nothing, [← takeSelf true])
  | [.mark "&", .name name] => plain true 2 name
  | [.mark "&", .name name, .mark "..."] => plain true 3 name
  | [.name name] => plain false 1 name
  | [.name name, .mark "..."] => plain false 2 name
  | .mark "&" :: .name name :: _ => do
    skip 2
    return (.nothing, [← takeMade g true name])
  | .name name :: _ => do
    skip 1
    return (.nothing, [← takeMade g false name])
  | _ => failure
where
  /-- A variable that is there already. -/
  plain (byReference : Bool) (count : Nat) (name : String) : Parse (Ground × List Taking) := do
    skip count
    let found ← (do
      match ← find? name with
      | some (.object found, _) => pure [found]
      | some (.pack found, _) => pure found
      | _ => failure : Parse (List Variable))
    let isLocal := found.all fun item =>
      match item.home with
      | .frame _ _ => true
      | .symbol _ => false
    require isLocal
    return (.nothing, ← found.mapM (takeVariable byReference))

/-- Reads the list of what is taken. -/
def takenHere (g : Grammar) : Parse (Ground × List Taking) := do
  let inner ← enclosed
  if inner.isEmpty then return (.nothing, [])
  else
    let items ← (splitAt (.mark ",") inner).mapM fun item => within item (takingHere g)
    let grounds := (items.map (·.1)).filter (· != .nothing)
    require (grounds.length ≤ 1)
    return (grounds.headD .nothing, items.flatMap (·.2))

/-- Names in tokens that stand for something by themselves. -/
def freeNames : List Token → List String
  | [] => []
  | .mark "." :: .name _ :: rest | .mark "->" :: .name _ :: rest | .mark "::" :: .name _ :: rest =>
    freeNames rest
  | .name name :: rest => name :: freeNames rest
  | _ :: rest => freeNames rest

/-- Whether a name needs the object around a function. -/
def needsSelf (name : String) : Parse Bool := do
  if name = "this" then return true
  else
    match ← find? name with
    | some (.field, _) => return true
    | some (.functions numbers templates, _) => do
      let functions ← numbers.mapM functionAt
      let others ← templates.mapM templateAt
      return functions.any (·.isMember) || others.any fun template => template.owner.isSome
    | _ => return false

/-- What tokens need from around a function, besides what is taken anyhow. -/
def takenFor (ground : Ground) (known : List Taking) (tokens : List Token) :
    Parse (List Taking) := do
  if ground = .nothing then return []
  else
    let names := (freeNames tokens).eraseDups
    let own := known.filterMap fun taking => taking.made.map (·.1)
    let free := names.filter fun name => !own.contains name
    let found := (← free.mapM takeable).flatten
    let wanted := found.filter fun item =>
      !(known.any fun taking => taking.variableNumber == some item.number)
    let numbers := (wanted.map (·.number)).eraseDups
    let single := numbers.filterMap fun number => wanted.find? (·.number == number)
    let variablesTaken ← single.mapM (takeVariable (ground == .references))
    let hasSelf := known.any fun taking => taking.variableNumber.isNone
    let selves ← (do
      match hasSelf, ← self? with
      | false, some _ => do
        let needs ← free.mapM needsSelf
        if needs.any id then pure [← takeSelf false] else pure []
      | _, _ => pure [] : Parse (List Taking))
    return variablesTaken ++ selves

/-! ### The operator for calls -/

/-- What stands between the parameters of a function without a name and its body. -/
structure Manners where
  isMutable : Bool := false
  /-- The tokens without the words that a function with a name has elsewhere. -/
  tokens : List Token := []

/-- Reads tokens up to the brace that opens the body, the last one first. -/
def mannersUpTo : Nat → Manners → Parse Manners
  | 0, _ => failure
  | fuel + 1, manners => do
    match ← peek with
    | .mark "\x7b" => return manners
    | .name "mutable" => do
      skip 1
      mannersUpTo fuel { manners with isMutable := true }
    | .name "constexpr" | .name "consteval" | .name "static" => do
      skip 1
      mannersUpTo fuel manners
    | .mark "(" | .mark "[" => do
      let inner ← balanced
      mannersUpTo fuel { manners with tokens := inner.reverse ++ manners.tokens }
    | .mark ";" | .mark "" => failure
    | token => do
      skip 1
      mannersUpTo fuel { manners with tokens := token :: manners.tokens }

/-- The tokens between the brackets behind a list of what is taken, when there are such brackets. -/
def headsHere : Parse (List Token) := do
  if ← sees "<" then
    skip 1
    let reading ← get
    let tokens := reading.tokens
    let rest ← orFail (behindAngles (isTemplateName reading) (tokens.length + 1) tokens)
    modify fun reading => { reading with tokens := rest }
    return (tokens.take (tokens.length - rest.length)).dropLast
  else return []

/-- The declaration of the operator for calls. -/
structure Calling where
  /-- The parameters of a template, when it is one. -/
  heads : List Token
  /-- The tokens in front of the body. -/
  front : List Token
  body : List Token

/-- Reads a function without a name behind what it takes; `isAlone` says that it takes nothing. -/
def callingHere (g : Grammar) (isAlone : Bool) : Parse Calling := do
  let heads ← headsHere
  let condition ← (do
    if ← optionWord "requires" then
      let condition ← conditionTokens
      pure (.name "requires" :: condition)
    else pure [] : Parse (List Token))
  discard (attributes g)
  let list ← (do
    if ← sees "(" then balanced else pure [.mark "(", .mark ")"] : Parse (List Token))
  let manners ← mannersUpTo ((← get).tokens.length + 1) {}
  let body ← balanced
  let inner := (list.drop 1).dropLast
  let (inner, autos) ← withoutAuto (inner.length + 1) 0 [] [] inner
  let heads := if autos.isEmpty then heads
    else (if heads.isEmpty then [] else heads ++ [.mark ","])
      ++ List.intercalate [Token.mark ","] autos
  let isConst := !manners.isMutable && !(isAlone && heads.isEmpty)
  let front := .name "auto" :: .name "operator" :: .mark "(" :: .mark ")" :: .mark "(" :: inner
    ++ .mark ")" :: (if isConst then [.name "const"] else []) ++ manners.tokens.reverse
  let whole := if heads.isEmpty then [] else
    .name "template" :: .mark "<" :: heads ++ .mark ">" :: condition
  return { heads := whole, front, body }

/-- Adds the operator for calls to the class of a function without a name. -/
def addCalling (g : Grammar) (tag : String) (calling : Calling) (isAlone : Bool) : Parse Unit := do
  let record ← recordAt tag
  let access := (← get).access
  modify fun reading => { reading with access := .everyone }
  if calling.heads.isEmpty then
    let number ← inScope record.scope (within calling.front do
      let found ← specifiers g
      let declarator ← declarator g
      let intent ← orFail (← intentOf? found declarator)
      declareFunction intent)
    let measures ← takeMeasures
    changeFunction number fun function => { function with
      body := .tokens [] calling.body
      linkage := .inner
      isInline := true
      isConstexpr := true
      isMember := !isAlone
      measures }
    g.readBody number
    if isAlone then addPointer record number
  else
    inScope record.scope (within (calling.heads ++ calling.front ++ calling.body) g.template)
  modify fun reading => { reading with access }
where
  /-- Adds the conversion to a pointer to a function. -/
  addPointer (record : Record) (target : Nat) : Parse Unit := do
    let number ← fresh
    let calling ← functionAt target
    let result := CType.pointer (typeOfFunction calling)
    let symbol := Symbol.ofFunction record.path converterName .conversion true true result [] false
    let invoker := "(invoke)"
    let function : Function :=
      { number, name := converterName, symbol, result, parameters := []
        manner := { isConst := true }, owner := some record.tag, role := .conversion
        isMember := true, linkage := .inner, scope := record.scope, isInline := true
        isConstexpr := true
        body := .onDemand [] [.mark "\x7b", .name "return", .name invoker, .mark ";", .mark "\x7d"] }
    modify fun reading => { reading with functions := reading.functions.insert number function }
    bindIn record.scope invoker (.functions [target] [])
    bindIn record.scope converterName (.functions [number] [])

/-! ### The object -/

/-- Reads a function without a name. -/
def closureHere (g : Grammar) : Parse Operand := do
  let (ground, listed) ← takenHere g
  let here := (← get).scope
  let tokens := (← get).tokens
  let isAlone := listed.isEmpty && ground = .nothing
  let calling ← callingHere g isAlone
  let used := tokens.take (tokens.length - (← get).tokens.length)
  let takings := listed ++ (← takenFor ground listed used)
  let around ← addScope (some here) .block
  takings.forM fun taking => do
    match taking.made, taking.variableNumber with
    | some (name, type), some number => do
      let home ← fresh
      bindIn around name (.object { number, name, type, home := .frame home 0 })
    | _, _ => pure ()
  let tag ← newRecord around "" false true .everyone
  let members := takings.zipIdx.map fun (taking, index) =>
    ({ field := { name := "(taken" ++ toString index ++ ")", type := taking.type, offset := 0 } } :
      Member)
  layOut tag members false none
  completeClass tag
  changeRecord tag fun record => { record with isClosure := true, isAggregate := false }
  let record ← recordAt tag
  let pairs := takings.zip record.fields
  let taken := pairs.filterMap fun (taking, field) =>
    taking.variableNumber.map fun number => (number, field)
  let self := (pairs.find? fun entry => entry.1.variableNumber.isNone).map (·.2)
  modify fun reading => { reading with captures := reading.captures.insert tag { taken, self } }
  addCalling g tag calling (isAlone && takings.isEmpty)
  freshWith (.record tag) fun target => do
    let terms ← pairs.mapM fun (taking, field) =>
      g.build field.type taking.operand (target.shifted field.offset)
    return sequenced terms

end Parse

end KernelCache.C
