import KernelCache.C.Lane

/-
**Which of several functions a call means.**

Every argument has a rank, which is less the better it fits. A function is meant when no other one
fits an argument better and it fits one argument better than each of them; of functions that fit
equally well, one that is no use of a template is meant.

* `Parse.rank?` is the rank of an argument.
* `Parse.chosen` is the function that is meant.
-/

namespace KernelCache.C

open KernelCache.Code (Term Value Kind Instruction Linkage)

namespace Parse

/-- Tries a step; what was known before is known afterwards. -/
def trial {α : Type} (step : Parse α) : Parse (Option α) := do
  let saved ← get
  let found ← optional step
  set saved
  return found

/-- The names of functions that make objects and of those that convert them. -/
def makerName : String := "(make)"

/-- The name of functions that convert an object. -/
def converterName : String := "(convert)"

/-- The functions of a class under a name, with those of the classes that it continues. -/
def membersNamed (tag name : String) : Parse (List Nat × List Nat) := do
  let reading ← get
  let record ← recordAt tag
  match findHere? reading searchDepth record.scope name with
  | some (.functions numbers templates, _) => return (numbers, templates)
  | _ => return ([], [])

/-- The functions that make objects of a class. -/
def makersOf (tag : String) : Parse (List Nat × List Nat) := do
  let record ← recordAt tag
  match (← scopeAt record.scope).names[makerName]? with
  | some (.functions numbers templates) => return (numbers, templates)
  | _ => return ([], [])

/-- Functions that convert objects of a class, also those of the classes that it continues. -/
def convertersOf (records : Std.TreeMap String Record) (scopes : Std.TreeMap Nat Scope) :
    Nat → String → List Nat
  | 0, _ => []
  | fuel + 1, tag =>
    match records[tag]? with
    | none => []
    | some record =>
      let own := match (scopes[record.scope]?).bind (·.names[converterName]?) with
        | some (.functions numbers _) => numbers
        | _ => []
      own ++ record.bases.flatMap fun base => convertersOf records scopes fuel base.tag

/-! ### Ranks -/

/-- The rank of a type that is wanted as it is. -/
def exactRank : Nat := 0

/-- The rank of a number in a larger type. -/
def promotedRank : Nat := 10

/-- The rank of a number in another type. -/
def convertedRank : Nat := 20

/-- The rank of what a class converts. -/
def classRank : Nat := 100

/-- The rank of what is passed without a type. -/
def openRank : Nat := 1000

/-- The rank of a number of one type where one of another type is wanted. -/
def numberRank? (source target : CType) (isNull : Bool) : Parse (Option Nat) := do
  match target.bare, source with
  | .arithmetic wanted, .arithmetic found =>
    if wanted = found then return some exactRank
    else if found.promoted = wanted ∨ (found = .float ∧ wanted = .double) then
      return some promotedRank
    else return some convertedRank
  | .arithmetic wanted, .enumeration _ strict base =>
    if strict then return none
    else if base.promoted = wanted then return some promotedRank
    else return some convertedRank
  | .enumeration tag _ _, .enumeration other _ _ =>
    return if tag = other then some exactRank else none
  | .pointer wanted, .pointer found => do
    if wanted == found then return some exactRank
    else
      match wanted.tag?, found.tag? with
      | some target, some source =>
        if !(wanted.isConst || !found.isConst) then return none
        else if target = source then return some (exactRank + 1)
        else
          return (generations? (← get).records searchDepth source target).map fun distance =>
            convertedRank + distance
      | _, _ =>
        if wanted.isVoid && !found.isFunction && (wanted.isConst || !found.isConst) then
          return some (convertedRank + 9)
        else if similar found wanted && promises wanted found then return some (exactRank + 1)
        else return none
  | .arithmetic .bool, .pointer _ => return some (convertedRank + 15)
  | .arithmetic .bool, .null => return none
  | .pointer _, .null => return some convertedRank
  | .null, .null => return some exactRank
  | .memberPointer _ _, .null => return some convertedRank
  | .memberPointer tag wanted, .memberPointer other found =>
    if tag == other && similar wanted found then return some exactRank
    else return (← trial (convertedValue target source .nothing false)).map fun _ => convertedRank
  | .pointer _, _ => return if isNull then some (convertedRank + 1) else none
  | .null, _ => return if isNull then some (convertedRank + 1) else none
  | _, _ => return none

/-- The function of one name that has a type. -/
def functionOfType? (numbers : List Nat) (wanted : CType) : Parse (Option Nat) := do
  let functions := (← get).functions
  return numbers.find? fun number =>
    (functions[number]?).any fun function => similar (typeOfFunction function) wanted

/-- Whether a reference to a type may lead to an object of another type, and how far the types are
apart. -/
def referenceRank? (source target : CType) : Parse (Option Nat) := do
  let constant := target.isConst
  let given := source.bare
  let goal := target.bare
  if !constant && source.isConst then return none
  else
    let added := if constant && !source.isConst then 1 else 0
    if given == goal || similar given goal then return some (exactRank + added)
    else
      match given, goal with
      | .record found, .record wanted =>
        return (generations? (← get).records searchDepth found wanted).map fun distance =>
          convertedRank + distance + added
      | .array _ a, .array none b => return if a == b then some (exactRank + added) else none
      | _, _ => return none

/-- The rank of an argument without the help of classes. -/
def standardRank? (operand : Operand) (target : CType) : Parse (Option Nat) := do
  match target with
  | .reference toValue wanted =>
    match operand with
    | .functions numbers _ _ _ _ =>
      return (← functionOfType? numbers wanted).map fun _ => exactRank
    | .place type _ bits isSpare => do
      let direct ← referenceRank? type wanted
      match direct with
      | some rank =>
        if toValue then
          return if isSpare || type.isFunction then some rank else none
        else if !isSpare then return if bits.isSome && !wanted.isConst then none else some rank
        else return if wanted.isConst then some (rank + 1) else none
      | none => do
        if !toValue && !wanted.isConst then return none
        else
          match wanted.tag?, type.tag? with
          | none, none => do
            let (found, _) ← valueOf operand
            return (← numberRank? found wanted operand.isNull).map fun rank =>
              if toValue then rank else rank + 1
          | _, _ => return none
    | .fresh type _ => do
      if !toValue && !wanted.isConst then return none
      else
        let found := if wanted.isConst then type.bare else type
        return (← referenceRank? found wanted).map fun rank => if toValue then rank else rank + 1
    | .value type _ => do
      if !toValue && !wanted.isConst then return none
      else return (← numberRank? type.bare wanted operand.isNull).map fun rank =>
        if toValue then rank else rank + 1
    | _ => return none
  | wanted =>
    match operand with
    | .functions numbers templates _ _ _ =>
      match wanted.bare with
      | .pointer target =>
        if numbers.isEmpty && !templates.isEmpty then return some exactRank
        else return (← functionOfType? numbers target).map fun _ => exactRank
      | .memberPointer _ target =>
        return (← functionOfType? numbers target).map fun _ => exactRank
      | _ => return none
    | .braces [] => return if wanted.isScalar then some exactRank else none
    | .braces _ | .bound _ _ _ => return none
    | operand =>
      match wanted.tag?, operand.type.tag? with
      | some target, some source =>
        if target = source then return some exactRank
        else
          return (generations? (← get).records searchDepth source target).map fun distance =>
            convertedRank + distance
      | none, none => do
        match ← trial (valueOf operand) with
        | some (found, _) => numberRank? found wanted operand.isNull
        | none => return none
      | _, _ => return none

/-- Whether so many arguments can be given to a function. -/
def takes (function : Function) (count : Nat) : Bool :=
  let needed := (function.parameters.takeWhile fun parameter => parameter.initial.isNone).length
  needed ≤ count && (count ≤ function.parameters.length || function.manner.isOpen)

/-- The type of the items of a list that a class stands for. -/
def listItem? (type : CType) : Parse (Option CType) := do
  match type.bare with
  | .record tag => do
    let reading ← get
    return do
      let record ← reading.records[tag]?
      let (number, arguments) ← record.origin
      let template ← reading.templates[number]?
      if template.name = "initializer_list" then arguments.head? else none
  | _ => return none

/-- The ranks of all arguments by a rank for one. -/
def ranksBy? (rank? : Operand → CType → Parse (Option Nat)) (function : Function)
    (arguments : List Operand) : Parse (Option (List Nat)) := do
  if !takes function arguments.length then return none
  else
    let types := function.parameters.map (·.type)
    let padded := types ++ List.replicate (arguments.length - types.length) CType.void
    let found ← (arguments.zip padded).mapM fun (argument, type) =>
      if type.isVoid then pure (some openRank) else rank? argument type
    return found.mapM id

/-- Whether a function that converts leads to a type, and how well. -/
def converterRank? (function : Function) (isConst : Bool) (target : CType) :
    Parse (Option Nat) := do
  if isConst && !function.manner.isConst then return none
  else
    let found : Operand := match function.result with
      | .reference toValue type => .place type .nothing none toValue
      | .record tag => .fresh (.record tag) fun _ => .nothing
      | type => .value type (.load .int .nothing)
    let worse := if function.manner.isConst && !isConst then 1 else 0
    return (← standardRank? found target).map (· + worse)

/-- The function that converts an object to a type, with its rank. -/
def converterFor? (operand : Operand) (target : CType) (explicit : Bool) :
    Parse (Option (Nat × Nat)) := do
  match operand.type.tag? with
  | none => return none
  | some tag => do
    let reading ← get
    let numbers := convertersOf reading.records reading.scopes searchDepth tag
    let found ← numbers.mapM fun number => do
      let function ← functionAt number
      if function.isExplicit && !explicit then return none
      else
        return (← converterRank? function operand.type.isConst target).map fun rank =>
          (number, rank)
    return (found.filterMap id).foldl (fun (best : Option (Nat × Nat)) entry =>
      match best with
      | some (_, rank) => if entry.2 < rank then some entry else best
      | none => some entry) none

/-- The rank of an argument that a class helps to convert. -/
def helpedRank? (g : Grammar) (operand : Operand) (target : CType) : Parse (Option Nat) := do
  let wanted := match target with
    | .reference _ inner => inner
    | other => other
  let mayBind := match target with
    | .reference toValue inner => toValue || inner.isConst
    | _ => true
  match operand with
  | .braces items => do
    if !mayBind then return none
    else
      match ← listItem? wanted with
      | some item => do
        let ranks ← items.mapM fun entry => standardRank? entry.2 item
        let loose := items.all fun entry => match entry.2 with
          | .braces _ => true
          | other => other.type.tag?.isSome || item.tag?.isSome
        return if ranks.all (·.isSome) || loose then some (classRank / 2) else none
      | none =>
        match wanted.bare with
        | .record tag => do
          let record ← recordAt tag
          if record.isAggregate then
            return if items.length ≤ record.fields.length + record.bases.length then
              some classRank else none
          else do
            let (numbers, templates) ← makersOf tag
            let functions ← numbers.mapM functionAt
            let fits := functions.any fun function =>
              takes function items.length
            let lists ← functions.mapM fun function => do
              match function.parameters.head? with
              | some parameter => return (← listItem? parameter.type.referred).isSome
              | none => return false
            return if fits || lists.any id || !templates.isEmpty then some classRank else none
        | _ =>
          match items with
          | [([], inner)] => standardRank? inner wanted
          | _ => return none
  | operand => do
    let byConverter ← converterFor? operand target false
    let byMaker ← match wanted.tag?, mayBind with
      | some tag, true => do
        let (numbers, templates) ← makersOf tag
        let ranks ← numbers.mapM fun number => do
          let function ← functionAt number
          if function.isExplicit then return none
          else ranksBy? standardRank? function [operand]
        let more ← templates.mapM fun template => do
          trial do
            let number ← orFail (← g.functionFor template [] [operand])
            let function ← functionAt number
            require !function.isExplicit
            orFail (← ranksBy? standardRank? function [operand])
        pure (if (ranks ++ more).any (·.isSome) then some classRank else none)
      | _, _ => pure none
    match byConverter, byMaker with
    | some (_, rank), _ => return some (classRank + rank)
    | none, other => return other

/-- The rank of an argument; a new object goes rather to a reference to a value that nobody else
needs. -/
def rank? (g : Grammar) (operand : Operand) (target : CType) : Parse (Option Nat) := do
  match ← standardRank? operand target with
  | some rank => return some rank
  | none =>
    if !(← isPlus) then return none
    else
      let added := match target with
        | .reference false _ => 1
        | _ => 0
      return (← helpedRank? g operand target).map (· + added)

/-! ### Choices -/

/-- A function with the ranks of the arguments. -/
structure Candidate where
  number : Nat
  ranks : List Nat
  isTemplate : Bool
  /-- How special the template is, or how many parameters are in use. -/
  weight : Nat

/-- Whether one function is meant rather than another one. -/
def Candidate.isBetter (a b : Candidate) : Bool :=
  let pairs := a.ranks.zip b.ranks
  pairs.all (fun (x, y) => x ≤ y)
    && (pairs.any (fun (x, y) => x < y)
      || (a.ranks.length == b.ranks.length
        && ((!a.isTemplate && b.isTemplate)
          || (a.isTemplate && b.isTemplate && b.weight < a.weight))))

/-- How special a type is as a parameter of a template. -/
def specialty : CType → Nat
  | .parameter _ | .deduced | .exactly | .unknown => 0
  | .expansion _ => 0
  | .reference true type => specialty type
  | .pointer type | .reference _ type | .const type | .array _ type | .arrayOf _ type =>
    1 + specialty type
  | .pattern _ _ | .function _ _ _ => 3
  | _ => 5

/-- The rank of the object that a function is called on. -/
def objectRank? (function : Function) (object : CType × Bool) : Option Nat :=
  let (type, isSpare) := object
  if type.isConst && !function.manner.isConst then none
  else
    match function.onValue with
    | some onValue =>
      if onValue != isSpare && !(function.manner.isConst && !onValue) then none
      else some (if function.manner.isConst && !type.isConst then 1 else 0)
    | none => some (if function.manner.isConst && !type.isConst then 1 else 0)

/-- The functions that can be meant by a call, with their ranks. -/
def candidates (g : Grammar) (numbers templates : List Nat) (given : List CType)
    (arguments : List Operand) (object : Option (CType × Bool)) (implicit : Bool) :
    Parse (List Candidate) := do
  let judge (number : Nat) (isTemplate : Bool) (weight : Nat) : Parse (Option Candidate) := do
    let function ← functionAt number
    if implicit && function.isExplicit then return none
    else
      match ← ranksBy? (rank? g) function arguments with
      | none => return none
      | some ranks =>
        let front : Option (List Nat) := match object, function.isMember with
          | some object, true => (objectRank? function object).map ([·])
          | some _, false => some [0]
          | none, _ => some []
        return front.map fun front => { number, ranks := front ++ ranks, isTemplate, weight }
  let plain ← if given.isEmpty then numbers.mapM fun number => judge number false 0 else pure []
  let made ← templates.mapM fun template => do
    match ← g.functionFor template given arguments with
    | some number => do
      let found ← templateAt template
      let weight := (found.parameters.filter (·.isPack)).length
      let constraints := if found.condition.isSome
        || found.parameters.any (·.condition.isSome) then 1 else 0
      let pattern := found.shape.foldl (fun sum type => sum + specialty type) 0
      judge number true (100 * constraints + 10 * pattern + (5 - min 5 weight))
    | none => return none
  return (plain ++ made).filterMap id

/-- The best of the functions that can be meant, when there is one. -/
def best? (candidates : List Candidate) : Option Nat :=
  let best := candidates.filter fun candidate =>
    candidates.all fun other =>
      candidate.number == other.number || candidate.isBetter other
  match best with
  | first :: rest =>
    if rest.all fun other => other.number == first.number then some first.number else none
  | [] => none

/-- The function that is meant by a call. -/
def chosen (g : Grammar) (numbers templates : List Nat) (given : List CType)
    (arguments : List Operand) (object : Option (CType × Bool)) (implicit : Bool) : Parse Nat := do
  let found ← candidates g numbers templates given arguments object implicit
  orFail (best? found)

end Parse

end KernelCache.C
