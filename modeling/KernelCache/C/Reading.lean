import KernelCache.C.Operand
import KernelCache.Code.Program

/-
**What is known while a source is read.**

A `Parse` reads tokens and yields a value, or fails; what is known then is what was known before.

* `Parse.token` and its companions read tokens.
* `Parse.find?` says what a name stands for.
* `Parse.place` and its companions give variables and labels to the function that is being read.
-/

namespace KernelCache.C

open KernelCache.Code (Term Value Kind Instruction Linkage Region)

/-- How a source is to be read. -/
structure Options where
  dialect : Dialect := .c
  /-- The year of the standard. -/
  year : Nat := 2017
  /-- Whether only what the standard has is meant. -/
  isStrict : Bool := false
  /-- Whether the size of an enumeration is as small as possible. -/
  shortEnums : Bool := false
  /-- Whether characters have no sign. -/
  unsignedChar : Bool := false
  /-- Whether symbols are hidden unless the source says otherwise. -/
  hidden : Bool := false
  optimized : Bool := false
  /-- Whether variables without a value can be defined in several sources. -/
  common : Bool := false
  noExceptions : Bool := false
  noTypes : Bool := false
  /-- Whether faults of C++ that others forgive are forgiven. -/
  permissive : Bool := false
  /-- Whether warnings about extensions of the language are errors. -/
  pedantic : Bool := false
  deriving DecidableEq, Repr

namespace Options

/-- Whether the source is in C++. -/
def isPlus (options : Options) : Bool := options.dialect == .cpp

end Options

/-- What ends an object: instructions that leave the values on the stack alone. -/
structure Cleanup where
  steps : List Instruction
  /-- The label behind which an exception has to end the object, too. -/
  start : Option Nat := none
  /-- What an exception does instead of the steps. -/
  otherwise : Option (List Instruction) := none

/-- The labels of a choice that is being read. -/
structure Choice where
  type : CType
  /-- The first and the last value of a label, and its number. -/
  cases : List (Int × Int × Nat) := []
  fallback : Option Nat := none

/-- A label to which a jump goes, with the number of cleanups that stay. -/
structure Exit where
  label : Nat
  depth : Nat

/-- A label with a name. -/
structure Named where
  name : String
  label : Nat
  isPlaced : Bool := false
  isUsed : Bool := false

/-- What a function without a name takes from around it. -/
structure Capture where
  /-- The members of its object by the numbers of the variables that they are for. -/
  taken : List (Nat × Field) := []
  /-- The member for the object around it: the object itself, or a pointer to it. -/
  self : Option Field := none

/-- The function that is being read. -/
structure Work where
  /-- The number of the function. -/
  function : Nat
  name : String
  result : CType
  /-- The result as it is written, where what is given back tells it. -/
  written : CType := .void
  room : Nat := 0
  /-- Where the address of the result is kept. -/
  answerAt : Option Nat := none
  furtherAt : Option Nat := none
  outsideAt : Option Nat := none
  /-- The object that the function is called on: its class, whether it stays as it is, and where its
  address is kept. -/
  self : Option (String × Bool × Nat) := none
  breaks : List Exit := []
  nexts : List Exit := []
  choices : List Choice := []
  labels : List Named := []
  /-- What ends the objects of every block, the innermost first. -/
  cleanups : List Cleanup := []
  /-- What ends the objects of the expression that is being read, each with the place that tells
  whether the object was made. -/
  spares : List (Nat × List Instruction) := []
  regions : List Region := []
  /-- The variable that is made where the result goes. -/
  resultName : Option String := none
  capture : Option Capture := none
  /-- The label in front of what is done at the end of the function, when there is something. -/
  endLabel : Option Nat := none
  /-- Whether a value is given back somewhere. -/
  answers : Bool := false
  /-- Where the object and the type of the exception are kept that is being handled. -/
  handling : Option (Nat × Nat) := none
  /-- Variables that were declared, with their numbers and kinds of warnings. -/
  declared : List (Nat × String) := []
  /-- What is to be done in front of the declaration that is being read. -/
  front : List Instruction := []

/-- A function whose body is still to be read. -/
structure Reading where
  options : Options
  tokens : List Token
  scopes : Std.TreeMap Nat Scope
  scope : Nat := 0
  /-- The next number of whatever has one. -/
  next : Nat := 1
  records : Std.TreeMap String Record := {}
  functions : Std.TreeMap Nat Function := {}
  templates : Std.TreeMap Nat Template := {}
  /-- The names that templates have. -/
  templateNames : Std.TreeMap String Unit := {}
  work : Work := { function := 0, name := "", result := .void }
  /-- The functions around the one that is being read. -/
  outer : List Work := []
  piece : Code.Piece := {}
  /-- Functions whose bodies are still to be read. -/
  waiting : List Nat := []
  /-- Variables that were used. -/
  usedVariables : Std.TreeMap Nat Unit := {}
  /-- The kinds of warnings that there were. -/
  warnings : List String := []
  /-- The alignments that members of records have at most. -/
  packs : List Nat := []
  /-- Whether symbols are seen by others, as pragmas say. -/
  visibilities : List Bool := []
  /-- The contents of texts by their symbols. -/
  texts : Std.TreeMap String (List Nat × Nat) := {}
  /-- Instructions that give objects their first values, by the symbols of the objects: constants,
  and the others. -/
  presets : List (String × List Instruction) := []
  /-- The room that instructions need that give objects their first values. -/
  presetRoom : Nat := 0
  /-- Symbols of objects that keep the constants that they start with. -/
  fixed : Std.TreeMap String Unit := {}
  starts : List (String × List Instruction) := []
  /-- Whether all names stay as they are. -/
  plainNames : Bool := false
  /-- How deep templates are used in templates. -/
  depth : Nat := 0
  /-- Whether what is read has a value while the source is read. -/
  isConstant : Bool := false
  /-- What programs find without bringing it along. -/
  library : Code.Library := { service? := fun _ => none, piece? := fun _ => none }
  /-- Whether only types matter. -/
  isUnevaluated : Bool := false
  /-- Whether something that was read can throw an exception. -/
  throws : Bool := false
  /-- Whether a bracket closes the arguments of a template rather than being an operator. -/
  inAngles : Bool := false
  /-- The scopes of the constants of enumerations. -/
  enumerations : Std.TreeMap String Nat := {}
  /-- Classes whose tables of functions are needed. -/
  neededTables : Std.TreeMap String Unit := {}
  /-- How many classes are being read, one inside the other. -/
  classDepth : Nat := 0
  /-- Functions whose bodies are read behind the outermost class. -/
  later : List Nat := []
  /-- Who may use what is declared here. -/
  access : Access := .everyone
  /-- The tag of the class whose definition is read for a use of a template. -/
  pending : Option String := none
  /-- The tags of the classes that are being read for uses of templates. -/
  opened : List String := []
  /-- Types that are told apart when the program runs, by the symbols that stand for them. -/
  neededTypes : Std.TreeMap String CType := {}
  /-- What functions without a name take from around them, by the tags of their objects. -/
  captures : Std.TreeMap String Capture := {}
  /-- The sizes of arrays that a parameter tells, each with its place. -/
  measures : List (Nat × List Token) := []
  /-- Texts for the assembler, the last first. -/
  machineTexts : List String := []

/-- Reads tokens and yields a value, or fails. -/
abbrev Parse (α : Type) := StateT Reading Option α

namespace Parse

/-! ### Tokens -/

/-- The next token, which stays. -/
def peek : Parse Token := do return (← get).tokens.headD (.mark "")

/-- The token behind the next one. -/
def peekSecond : Parse Token := do return ((← get).tokens.drop 1).headD (.mark "")

/-- Reads one token. -/
def token : Parse Token := do
  match (← get).tokens with
  | token :: rest =>
    modify fun reading => { reading with tokens := rest }
    return token
  | [] => failure

/-- Leaves out so many tokens. -/
def skip (count : Nat) : Parse Unit :=
  modify fun reading => { reading with tokens := reading.tokens.drop count }

/-- Whether the next token is the given operator or separator. -/
def sees (spelling : String) : Parse Bool := do return (← peek) == .mark spelling

/-- Whether the next token is the given name. -/
def seesWord (spelling : String) : Parse Bool := do return (← peek) == .name spelling

/-- Reads an operator or a separator if it comes next. -/
def option (spelling : String) : Parse Bool := do
  match (← get).tokens with
  | .mark text :: rest =>
    if text = spelling then
      modify fun reading => { reading with tokens := rest }
      return true
    else return false
  | _ => return false

/-- Reads a word if it comes next. -/
def optionWord (spelling : String) : Parse Bool := do
  match (← get).tokens with
  | .name text :: rest =>
    if text = spelling then
      modify fun reading => { reading with tokens := rest }
      return true
    else return false
  | _ => return false

/-- Reads an operator or a separator. -/
def mark (spelling : String) : Parse Unit := do
  if ← option spelling then return () else failure

/-- Reads a given word. -/
def word (spelling : String) : Parse Unit := do
  if ← optionWord spelling then return () else failure

/-- Reads the bracket that closes the arguments of a template, which may be half of an operator. -/
def closeAngle : Parse Unit := do
  match (← get).tokens with
  | .mark ">" :: rest => modify fun reading => { reading with tokens := rest }
  | .mark ">>" :: rest =>
    modify fun reading => { reading with tokens := .mark ">" :: rest }
  | .mark ">=" :: rest =>
    modify fun reading => { reading with tokens := .mark "=" :: rest }
  | .mark ">>=" :: rest =>
    modify fun reading => { reading with tokens := .mark ">=" :: rest }
  | _ => failure

/-- Whether the arguments of a template end here. -/
def seesAngle : Parse Bool := do
  match ← peek with
  | .mark text => return text == ">" || text == ">>" || text == ">=" || text == ">>="
  | _ => return false

/-- Repeats a step at most the given number of times, until it fails. -/
def manyUpTo {α : Type} (step : Parse α) : Nat → Parse (List α)
  | 0 => return []
  | fuel + 1 => do
    match ← optional step with
    | none => return []
    | some item => return item :: (← manyUpTo step fuel)

/-- Repeats a step until it fails. -/
def many {α : Type} (step : Parse α) : Parse (List α) := do
  manyUpTo step ((← get).tokens.length + 1)

/-- Repeats a step at most the given number of times, until a mark comes. -/
def gatherUpTo {α : Type} (closing : String) (step : Parse α) : Nat → List α → Parse (List α)
  | 0, _ => failure
  | fuel + 1, found => do
    if ← option closing then return found.reverse
    else
      let item ← step
      gatherUpTo closing step fuel (item :: found)

/-- Repeats a step until a mark comes, which is read, too. -/
def gather {α : Type} (closing : String) (step : Parse α) : Parse (List α) := do
  gatherUpTo closing step ((← get).tokens.length + 1) []

/-- Further items behind commas. -/
def furtherUpTo {α : Type} (step : Parse α) : Nat → List α → Parse (List α)
  | 0, found => return found.reverse
  | fuel + 1, found => do
    if ← option "," then
      let item ← step
      furtherUpTo step fuel (item :: found)
    else return found.reverse

/-- Items with commas between them. -/
def separated {α : Type} (step : Parse α) : Parse (List α) := do
  let first ← step
  furtherUpTo step ((← get).tokens.length + 1) [first]

/-- Whether a condition on what is known holds. -/
def require (condition : Bool) : Parse Unit := if condition then return () else failure

/-- What is there, or a failure. -/
def orFail {α : Type} (found : Option α) : Parse α :=
  match found with
  | some value => return value
  | none => failure

/-- Whether a step would succeed; nothing is read. -/
def would {α : Type} (step : Parse α) : Parse Bool := do
  let saved ← get
  let found ← optional step
  set saved
  return found.isSome

/-- The marks that open something, and those that close it. -/
def brackets : List (String × String) := [("(", ")"), ("[", "]"), ("\x7b", "\x7d")]

/-- Reads tokens up to where brackets are closed again, the last first. -/
def balancedUpTo : Nat → Nat → List Token → List Token → Option (List Token × List Token)
  | 0, _, _, _ => none
  | _ + 1, _, _, [] => none
  | fuel + 1, depth, taken, token :: rest =>
    match token with
    | .mark text =>
      if brackets.any fun entry => entry.1 == text then
        balancedUpTo fuel (depth + 1) (token :: taken) rest
      else if brackets.any fun entry => entry.2 == text then
        if depth = 1 then some (token :: taken, rest)
        else balancedUpTo fuel (depth - 1) (token :: taken) rest
      else balancedUpTo fuel depth (token :: taken) rest
    | _ => balancedUpTo fuel depth (token :: taken) rest

/-- Reads a bracket and all up to the one that closes it. -/
def balanced : Parse (List Token) := do
  let tokens := (← get).tokens
  match tokens with
  | .mark text :: _ =>
    require (brackets.any fun entry => entry.1 == text)
    let (taken, rest) ← orFail (balancedUpTo (tokens.length + 1) 0 [] tokens)
    modify fun reading => { reading with tokens := rest }
    return taken.reverse
  | _ => failure

/-- Reads what is between a bracket and the one that closes it. -/
def enclosed : Parse (List Token) := do return ((← balanced).drop 1).dropLast

/-- Reads tokens from other ones, all of them. -/
def within {α : Type} (tokens : List Token) (step : Parse α) : Parse α := do
  let outer := (← get).tokens
  modify fun reading => { reading with tokens }
  let found ← step
  require (← get).tokens.isEmpty
  modify fun reading => { reading with tokens := outer }
  return found

/-- Works something out for its type only. -/
def withoutCode {α : Type} (step : Parse α) : Parse α := do
  let reading ← get
  let work := reading.work
  modify fun reading => { reading with isUnevaluated := true, isConstant := false }
  let found ← step
  modify fun after => { after with
    work, isUnevaluated := reading.isUnevaluated, isConstant := reading.isConstant }
  return found

/-- Reads tokens from other ones, as many as are needed. -/
def beginning {α : Type} (tokens : List Token) (step : Parse α) : Parse α := do
  let outer := (← get).tokens
  modify fun reading => { reading with tokens }
  let found ← step
  modify fun reading => { reading with tokens := outer }
  return found

/-! ### Numbers and warnings -/

/-- Notes that what is being read can throw an exception. -/
def noteThrow : Parse Unit := modify fun reading => { reading with throws := true }

/-- Whether the source is in C++. -/
def isPlus : Parse Bool := do return (← get).options.isPlus

/-- A number that nothing else has. -/
def fresh : Parse Nat := do
  let number := (← get).next
  modify fun reading => { reading with next := number + 1 }
  return number

/-- Notes a warning. -/
def warn (kind : String) : Parse Unit :=
  modify fun reading => { reading with warnings := kind :: reading.warnings }

/-- Notes what the standard of a year does not have. -/
def extension (year : Nat) : Parse Unit := do
  let options := (← get).options
  if options.year < year then
    warn "pedantic"

/-! ### Scopes -/

/-- A scope by its number. -/
def scopeAt (number : Nat) : Parse Scope := do orFail (← get).scopes[number]?

/-- Changes a scope. -/
def changeScope (number : Nat) (change : Scope → Scope) : Parse Unit :=
  modify fun reading => { reading with scopes := reading.scopes.modify number change }

/-- Adds a scope inside another one. -/
def addScope (parent : Option Nat) (holder : Holder) : Parse Nat := do
  let number ← fresh
  modify fun reading => { reading with
    scopes := reading.scopes.insert number { parent, holder } }
  return number

/-- Reads in a scope. -/
def inScope {α : Type} (scope : Nat) (step : Parse α) : Parse α := do
  let outer := (← get).scope
  modify fun reading => { reading with scope }
  let found ← step
  modify fun reading => { reading with scope := outer }
  return found

/-- Reads in a new block. -/
def inBlock {α : Type} (step : Parse α) : Parse α := do
  let scope ← addScope (some (← get).scope) .block
  inScope scope step

/-- Makes a name stand for something in a scope. -/
def bindIn (scope : Nat) (name : String) (entity : Entity) : Parse Unit :=
  changeScope scope fun found => { found with names := found.names.insert name entity }

/-- Makes a name stand for something here. -/
def bind (name : String) (entity : Entity) : Parse Unit := do bindIn (← get).scope name entity

/-- A record by its tag. -/
def recordAt (tag : String) : Parse Record := do orFail (← get).records[tag]?

/-- Changes a record. -/
def changeRecord (tag : String) (change : Record → Record) : Parse Unit :=
  modify fun reading => { reading with records := reading.records.modify tag change }

/-- A function by its number. -/
def functionAt (number : Nat) : Parse Function := do orFail (← get).functions[number]?

/-- Changes a function. -/
def changeFunction (number : Nat) (change : Function → Function) : Parse Unit :=
  modify fun reading => { reading with functions := reading.functions.modify number change }

/-- A template by its number. -/
def templateAt (number : Nat) : Parse Template := do orFail (← get).templates[number]?

/-- Changes a template. -/
def changeTemplate (number : Nat) (change : Template → Template) : Parse Unit :=
  modify fun reading => { reading with templates := reading.templates.modify number change }

/-- How far names are looked for. -/
def searchDepth : Nat := 200

/-- What a name stands for in a scope itself, in those that count there, or in the classes that it
continues. -/
def findHere? (reading : Reading) : Nat → Nat → String → Option (Entity × Nat)
  | 0, _, _ => none
  | fuel + 1, number, name => do
    let scope ← reading.scopes[number]?
    match scope.names[name]? with
    | some entity => return (entity, number)
    | none =>
      match scope.holder with
      | .record tag => do
        let record ← reading.records[tag]?
        record.bases.findSome? fun base => do
          let other ← reading.records[base.tag]?
          findHere? reading fuel other.scope name
      | _ => scope.used.findSome? fun other =>
          if other = number then none else findHere? reading fuel other name

/-- What a name stands for, looked for from a scope outwards. -/
def findFrom? (reading : Reading) : Nat → Nat → String → Option (Entity × Nat)
  | 0, _, _ => none
  | fuel + 1, number, name =>
    match findHere? reading searchDepth number name with
    | some found => some found
    | none => do
      let scope ← reading.scopes[number]?
      findFrom? reading fuel (← scope.parent) name

/-- What a name stands for, and the scope in which it does. -/
def find? (name : String) : Parse (Option (Entity × Nat)) := do
  let reading ← get
  return findFrom? reading searchDepth reading.scope name

/-- The type of a tag, looked for from a scope outwards. -/
def tagFrom? (reading : Reading) (name : String) : Nat → Nat → Option CType
  | 0, _ => none
  | fuel + 1, number => do
    let scope ← reading.scopes[number]?
    match scope.tags[name]? with
    | some type => return type
    | none =>
      match scope.used.findSome? fun other => (reading.scopes[other]?).bind (·.tags[name]?) with
      | some type => return type
      | none => tagFrom? reading name fuel (← scope.parent)

/-- The names of the spaces and classes around a scope, the outermost first. -/
def pathOf (reading : Reading) : Nat → Nat → List String
  | 0, _ => []
  | fuel + 1, number =>
    match reading.scopes[number]? with
    | none => []
    | some scope =>
      let front := (scope.parent.map (pathOf reading fuel)).getD []
      match scope.holder with
      | .space name => if name = "" then front else front ++ [name]
      | .record tag => ((reading.records[tag]?).map (·.path)).getD front
      | .block | .template => front

/-- The innermost scope that belongs to a space, from a scope outwards. -/
def spaceOf (reading : Reading) : Nat → Nat → Nat
  | 0, number => number
  | fuel + 1, number =>
    match reading.scopes[number]? with
    | some { holder := .space _, .. } => number
    | some { parent := some parent, .. } => spaceOf reading fuel parent
    | _ => number

/-- The class whose scope is the innermost one, from a scope outwards. -/
def classOf? (reading : Reading) : Nat → Nat → Option String
  | 0, _ => none
  | fuel + 1, number =>
    match reading.scopes[number]? with
    | some { holder := .record tag, .. } => some tag
    | some { parent := some parent, .. } => classOf? reading fuel parent
    | _ => none

/-- The scope that a declaration in a scope belongs to: arguments of templates have none. -/
def homeOf (reading : Reading) : Nat → Nat → Nat
  | 0, number => number
  | fuel + 1, number =>
    match reading.scopes[number]? with
    | some { holder := .template, parent := some parent, .. } => homeOf reading fuel parent
    | _ => number

/-- Goes on in a scope; arguments of templates that are known in it stay. -/
def enter (scope : Nat) : Parse Unit :=
  modify fun reading =>
    if homeOf reading searchDepth reading.scope = scope then reading else { reading with scope }

/-- Whether a template is declared whose parameters stand for nothing yet. -/
def isOpenFrom (reading : Reading) : Nat → Nat → Bool
  | 0, _ => false
  | fuel + 1, number =>
    match reading.scopes[number]? with
    | none => false
    | some scope =>
      let isParameter : Entity → Bool
        | .type (.parameter _) _ => true
        | _ => false
      let own := match scope.holder with
        | .template => scope.names.any fun _ entity => isParameter entity
        | _ => false
      own || scope.parent.any (isOpenFrom reading fuel)

/-- Whether a template is declared here whose parameters stand for nothing yet. -/
def isOpenHere : Parse Bool := do
  let reading ← get
  return isOpenFrom reading searchDepth reading.scope

/-- Whether names belong to a function here. -/
def isLocal : Parse Bool := do return (← get).work.function != 0

/-! ### Records -/

/-- The octets that an object of a type takes. -/
def sizeIn (records : Std.TreeMap String Record) : CType → Nat
  | .void | .function _ _ _ => 1
  | .arithmetic type | .enumeration _ _ type => type.kind.size
  | .null | .pointer _ | .reference _ _ => 8
  | .array count item => count.getD 0 * sizeIn records item
  | .measured _ item => sizeIn records item
  | .record tag => ((records[tag]?).map (·.size)).getD 0
  | .const type => sizeIn records type
  | .memberPointer _ (.function _ _ _) => 16
  | .memberPointer _ _ => 8
  | _ => 0

/-- What the address of an object of a type is a multiple of. -/
def alignmentIn (records : Std.TreeMap String Record) : CType → Nat
  | .arithmetic type | .enumeration _ _ type => type.kind.size
  | .null | .pointer _ | .reference _ _ | .memberPointer _ _ => 8
  | .array _ item | .measured _ item => alignmentIn records item
  | .record tag => ((records[tag]?).map (·.alignment)).getD 1
  | .const type => alignmentIn records type
  | _ => 1

/-- Whether objects of a type can be made. -/
def isCompleteIn (records : Std.TreeMap String Record) : CType → Bool
  | .void | .function _ _ _ | .deduced | .exactly | .unknown => false
  | .array count item => count.isSome && isCompleteIn records item
  | .measured _ item => isCompleteIn records item
  | .record tag => (records[tag]?).any (·.isComplete)
  | .const type => isCompleteIn records type
  | _ => true

/-- The octets that an object of a type takes. -/
def sizeOf (type : CType) : Parse Nat := do return sizeIn (← get).records type

/-- What the address of an object of a type is a multiple of. -/
def alignmentOf (type : CType) : Parse Nat := do return alignmentIn (← get).records type

/-- Whether objects of a type can be made. -/
def isComplete (type : CType) : Parse Bool := do return isCompleteIn (← get).records type

/-- The way from a class to one that it continues: distances, and whether it passes a shared one. -/
def baseWay? (records : Std.TreeMap String Record) : Nat → String → String → Option Nat
  | 0, _, _ => none
  | fuel + 1, tag, wanted =>
    if tag = wanted then some 0
    else do
      let record ← records[tag]?
      record.bases.findSome? fun base => do
        return base.offset + (← baseWay? records fuel base.tag wanted)

/-- How far a class is from one that it continues. -/
def generations? (records : Std.TreeMap String Record) : Nat → String → String → Option Nat
  | 0, _, _ => none
  | fuel + 1, tag, wanted =>
    if tag = wanted then some 0
    else do
      let record ← records[tag]?
      record.bases.findSome? fun base => do
        return 1 + (← generations? records fuel base.tag wanted)

/-- Whether a class continues another one, or is the same. -/
def continues (tag wanted : String) : Parse Bool := do
  return (baseWay? (← get).records searchDepth tag wanted).isSome

/-! ### The function that is being read -/

/-- Changes the function that is being read. -/
def changeWork (change : Work → Work) : Parse Unit :=
  modify fun reading => { reading with work := change reading.work }

/-- Room for a variable of the function that is being read. -/
def place (size alignment : Nat) : Parse Nat := do
  let work := (← get).work
  let offset := Code.roundUp work.room (max 1 alignment)
  changeWork fun work => { work with room := offset + size }
  return offset

/-- Room for an object of a type. -/
def placeFor (type : CType) : Parse Nat := do place (← sizeOf type) (← alignmentOf type)

/-- Notes what ends an object of the innermost block, and yields what stands behind the making of the
object. -/
def addCleanup (steps : List Instruction) : Parse (List Instruction) := do
  if steps.isEmpty then return []
  else
    let options := (← get).options
    if options.isPlus && !options.noExceptions then
      let label ← fresh
      changeWork fun work => { work with cleanups := { steps, start := some label } :: work.cleanups }
      return [.label label]
    else
      changeWork fun work => { work with cleanups := { steps } :: work.cleanups }
      return []

/-- The instructions that end objects until so many cleanups are left. -/
def cleanupsTo (depth : Nat) : Parse (List Instruction) := do
  let cleanups := (← get).work.cleanups
  return (cleanups.take (cleanups.length - depth)).flatMap (·.steps)

end Parse

end KernelCache.C
