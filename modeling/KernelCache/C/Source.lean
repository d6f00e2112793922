import KernelCache.C.Closure
import KernelCache.C.Machine
import KernelCache.Assembly.Unit
import KernelCache.C.Preprocess.Directive

/-
**Whole sources.**

`Source.read?` turns the tokens of a source into a piece of a program. What nothing in the piece
needs, and what others do not see, is left out.
-/

/-! ## The whole language

Its parts call on each other through a `Grammar`, which is tied here: what a part calls on is the
grammar of a depth that is less by one, and the grammar of no depth reads nothing.
-/

namespace KernelCache.C

namespace Grammar

/-- The grammar that reads nothing. -/
def empty : Grammar where
  expression := failure
  assignment := failure
  conditional := failure
  cast := failure
  operand := failure
  initial := failure
  statement := failure
  body := failure
  typeName := failure
  tagged := failure
  assembly := failure
  blockValue := failure
  closure := failure
  declaration := failure
  outerDeclaration := failure
  readBody _ := failure
  functionFor _ _ _ := failure
  typeFor _ _ := failure
  guess _ _ := failure
  requirement := failure
  useOf _ _ := failure
  evaluate _ := failure
  constant := failure
  members _ _ _ := failure
  template := failure
  pragma := failure
  inherit _ _ _ _ := failure
  build _ _ _ := failure
  make _ _ _ := failure
  start _ _ _ := failure
  call _ _ _ _ := failure

/-- A step that looks at a grammar only when it reads. -/
def later {α : Type} (inner : Thunk Grammar) (step : Grammar → Parse α) : Parse α := fun reading =>
  step inner.get reading

/-- The grammar whose parts call on another one. -/
def around (inner : Thunk Grammar) : Grammar where
  expression := later inner Parse.expressionLevel
  assignment := later inner Parse.assignmentLevel
  conditional := later inner Parse.conditionalLevel
  cast := later inner Parse.castLevel
  operand := later inner Parse.unaryLevel
  initial := later inner Parse.initialLevel
  statement := later inner Parse.statementHere
  body := later inner Parse.bodyHere
  typeName := later inner Parse.typeName
  tagged := later inner Parse.taggedType
  assembly := later inner Parse.machineHere
  blockValue := later inner Parse.valueBlock
  closure := later inner Parse.closureHere
  declaration := later inner Parse.blockDeclaration
  outerDeclaration := later inner Parse.outerDeclarationHere
  readBody number := later inner fun g => Parse.readFunction g number
  functionFor number given operands :=
    later inner fun g => Parse.functionFor g number given operands
  typeFor number arguments := later inner fun g => Parse.typeFor g number arguments
  guess number operands := later inner fun g => Parse.guess g number operands
  requirement := later inner Parse.requirementHere
  useOf number arguments := later inner fun g => Parse.useOf g number arguments
  evaluate operand := later inner fun g => Parse.evaluated g operand
  constant := later inner Parse.constantHere
  members tag isPacked aligned := later inner fun g => Parse.membersHere g tag isPacked aligned
  template := later inner Parse.templateHere
  pragma := Parse.pragmaHere
  inherit tag base numbers templates := Parse.inheritMakers tag base numbers templates
  build type operand target := later inner fun g => Parse.buildWith g type operand target
  make type operands target := later inner fun g => Parse.makeWith g type operands target
  start clears type target := later inner fun g => Parse.startWith g clears type target
  call number object isDirect operands := later inner fun g => Parse.callWith g number object isDirect operands

/-- The grammar whose parts call on each other so deep. -/
def ofDepth : Nat → Grammar
  | 0 => empty
  | depth + 1 => around (Thunk.mk fun _ => ofDepth depth)

/-- The parts of a source are nested this deep at most. -/
def depth : Nat := 6000

end Grammar

/-- The grammar of the language. -/
def grammar : Grammar := .ofDepth Grammar.depth

end KernelCache.C

/-! ## Whole sources -/

namespace KernelCache.C

open KernelCache.Code (Instruction Linkage Piece Routine)

/-- A source that has been read. -/
structure Source where
  piece : Piece
  /-- The kinds of warnings that there were. -/
  warnings : List String

namespace Source

/-- What is known before the first token. -/
def start (options : Options) (library : Code.Library) (tokens : List Token) : Reading :=
  { options, library
    tokens := if options.isPlus then tokens.map Condition.spelled else tokens
    scopes := Std.TreeMap.empty.insert 0 { parent := none, holder := .space "" } }

/-- Reads declarations until nothing is left. -/
def declarations : Nat → Parse Unit
  | 0 => failure
  | fuel + 1 => do
    if (← get).tokens.isEmpty then return ()
    else
      grammar.outerDeclaration
      declarations fuel

/-- The symbols that a piece is there for. -/
def roots (reading : Reading) : List String :=
  let options := reading.options
  let piece := reading.piece
  let copied : Std.HashSet String := Std.HashSet.ofList ((reading.functions.toList.filter fun entry =>
    entry.2.isInline || entry.2.origin.isSome).map fun entry => entry.2.symbol)
  let isKept (linkage : Linkage) (symbol : String) : Bool :=
    match linkage with
    | .outer | .weak => true
    | .inner => !options.optimized && !options.isPlus && !copied.contains symbol
    | .shared => false
  let routines := (piece.routines.filter fun routine =>
    isKept routine.linkage routine.symbol).map (·.symbol)
  let objects := (piece.objects.filter fun object =>
    isKept object.linkage object.symbol || (object.linkage == .shared && !options.isPlus)).map
      (·.symbol)
  routines ++ objects ++ piece.aliases.map (·.1) ++ piece.starters.map (·.2) ++ piece.finishers
    ++ reading.starts.flatMap fun entry => entry.1 :: symbolsIn entry.2

/-- Constructors with an order run before those without one, and these before variables of C++. -/
def lastOrder : Nat := 65535

/-- The piece that a source becomes, together with one that stands in it for the assembler. -/
def pieceOf (reading : Reading) (other : Piece) : Piece :=
  let needed := roots reading ++ other.imports.map (·.1)
  let (piece, found) := pruned reading.piece reading.presets needed
  let presets := (reading.presets.filter fun entry => found.contains entry.1).flatMap (·.2)
  let starts := reading.starts.flatMap (·.2)
  let hasPresets := !presets.isEmpty
  let hasStarts := !starts.isEmpty
  let own : Piece := { piece with
    routines := piece.routines.reverse
      ++ (if hasPresets then [Routine.inner ".presets" reading.presetRoom presets] else [])
      ++ (if hasStarts then [Routine.inner ".starts" reading.presetRoom starts] else [])
    objects := piece.objects.reverse
    texts := piece.texts.reverse
    aliases := piece.aliases.reverse
    presets := if hasPresets then [".presets"] else []
    starters := piece.starters ++ (if hasStarts then [(lastOrder, ".starts")] else []) }
  own.and other

/-- Reads a source. -/
def read? (options : Options) (library : Code.Library) (tokens : List Token) : Option Source := do
  let whole : Parse Unit := do
    declarations (tokens.length + 1)
    Parse.settleFunctions grammar Parse.functionDepth
    Parse.emitTables grammar Parse.functionDepth {}
    Parse.emitTypes Parse.functionDepth {}
  let (_, reading) ← whole (start options library tokens)
  let texts := reading.machineTexts.reverse.map fun text => text.toList ++ ['\n']
  let other ← if texts.isEmpty then some {}
    else Assembly.Unit.pieceFrom? reading.next texts.flatten
  return { piece := pieceOf reading other, warnings := reading.warnings }

end Source

end KernelCache.C
