import KernelCache.C.Tag

/-
**Objects of classes, from their making to their end.**

* `Parse.startMembers` makes the parts of an object where its constructor starts, and
  `Parse.endMembers` ends them behind its destructor.
* `Parse.defaultBody` is what a function does that nobody wrote.
* `Parse.emitTables` and `Parse.emitTypes` write down what objects know about their own type.
-/

/-! ## Values that are known while a source is read

* `Parse.evaluated` is the value of an operand. Where an operator does not tell it, the functions that
  it needs are put together and run.
* `Parse.constantHere` reads an expression that has such a value.
* `pruned` leaves of a piece what is needed.
-/

namespace KernelCache.C

open KernelCache.Code (Term Value Kind Instruction Linkage Piece)

/-! ### What is needed -/

/-- The symbols that instructions use. -/
def symbolsIn (instructions : List Instruction) : List String :=
  (Piece.symbolsOf instructions).map (·.1)

/-- The symbols that every symbol of a piece needs. -/
def needs (piece : Piece) (values : List (String × List Instruction)) :
    Std.HashMap String (List String) :=
  let ofRoutines := piece.routines.map fun routine =>
    (routine.symbol, symbolsIn routine.instructions)
  let ofObjects := values.map fun (symbol, instructions) => (symbol, symbolsIn instructions)
  let ofOthers := piece.aliases.map fun (symbol, target, _) => (symbol, [target])
  (ofRoutines ++ ofObjects ++ ofOthers).foldl (fun needs (symbol, used) =>
    needs.insert symbol (used ++ needs.getD symbol [])) {}

/-- The symbols that some symbols need. -/
def reached (needs : Std.HashMap String (List String)) :
    Nat → Std.HashSet String → List String → Std.HashSet String
  | 0, found, _ => found
  | _ + 1, found, [] => found
  | fuel + 1, found, symbol :: rest =>
    if found.contains symbol then reached needs fuel found rest
    else reached needs fuel (found.insert symbol) (needs.getD symbol [] ++ rest)

/-- No source uses more symbols. -/
def reachDepth : Nat := 10000000

/-- What of a piece some symbols need. -/
def pruned (piece : Piece) (values : List (String × List Instruction)) (symbols : List String) :
    Piece × Std.HashSet String :=
  let found := reached (needs piece values) reachDepth {} symbols
  ({ piece with
      routines := piece.routines.filter fun routine => found.contains routine.symbol
      objects := piece.objects.filter fun object => found.contains object.symbol
      texts := piece.texts.filter fun text => found.contains text.1
      aliases := piece.aliases.filter fun entry => found.contains entry.1 },
    found)

namespace Parse

/-! ### Values -/

/-- Reads the bodies of functions that are needed and still to be read. -/
def settleFunctions (g : Grammar) : Nat → Parse Unit
  | 0 => failure
  | fuel + 1 => do
    match (← get).waiting with
    | [] => return ()
    | number :: rest => do
      modify fun reading => { reading with waiting := rest }
      let function ← functionAt number
      match function.body with
      | .onDemand _ _ | .default _ => g.readBody number
      | _ => pure ()
      settleFunctions g fuel

/-- No source has more functions. -/
def functionDepth : Nat := 1000000

/-- Reads the bodies of the functions that symbols need, as far as they are still to be read. -/
def settleFor (g : Grammar) : Nat → Std.HashSet String → List String → Parse Unit
  | 0, _, _ => failure
  | _ + 1, _, [] => return ()
  | fuel + 1, seen, symbol :: rest => do
    if seen.contains symbol then settleFor g fuel seen rest
    else
      let reading ← get
      let isMeant (number : Nat) : Bool :=
        (reading.functions[number]?).any fun function => function.symbol == symbol
      if let some number := reading.waiting.find? isMeant then
        modify fun reading => { reading with waiting := reading.waiting.filter (· != number) }
        match (← functionAt number).body with
        | .onDemand _ _ | .default _ => g.readBody number
        | _ => pure ()
      let reading ← get
      let routines := reading.piece.routines.filter fun routine => routine.symbol == symbol
      let presets := reading.presets.filter fun entry => entry.1 == symbol
      let targets := (reading.piece.aliases.filter fun entry => entry.1 == symbol).map (·.2.1)
      let used := routines.flatMap (fun routine => symbolsIn routine.instructions)
        ++ presets.flatMap (fun entry => symbolsIn entry.2) ++ targets
      settleFor g fuel (seen.insert symbol) (used ++ rest)

/-- The value of a term that is worked out by running it. -/
def runTerm (g : Grammar) (kind : Kind) (term : Term) : Parse Value := do
  settleFor g functionDepth {} (symbolsIn term.instructions)
  let reading ← get
  let symbol := ".value"
  let instructions := term.instructions ++ [.answer]
  let (piece, found) := pruned reading.piece reading.presets (symbolsIn instructions)
  let presets := reading.presets.filter fun entry => found.contains entry.1
  let room := max reading.work.room
    ((reading.outer.map (·.room)).foldl max 0)
  let routine (symbol : String) (instructions : List Instruction) : Code.Routine :=
    { symbol, linkage := .inner, room, parameters := [], instructions }
  let preset := routine ".presets" (presets.flatMap (·.2))
  let piece : Piece := { piece with
    routines := routine symbol instructions :: preset :: piece.routines
    aliases := ("(value)", symbol, .outer) :: piece.aliases
    presets := [".presets"] }
  let program := Code.Program.link reading.library [piece]
  match program.load [] with
  | .error _ => failure
  | .ok state =>
    match program.invoke "(value)" [] state with
    | (.finished value, _) => return (Value.ofStored kind (value.stored kind))
    | _ => failure

/-- The value of an operand that is known while the source is read. -/
def evaluated (g : Grammar) (operand : Operand) : Parse (CType × Value) := do
  let operand ← match operand with
    | .braces [([], inner)] => pure inner
    | other => pure other
  let operand ← decayed g operand
  let (type, term) ← valueOf operand
  match term.constant? with
  | some value => return (type, value)
  | none => do
    let reading ← get
    require (reading.options.isPlus && reading.isConstant)
    let kind ← orFail type.kind?
    let value ← runTerm g kind (← finished term)
    return (type, value)

/-- Works something out while the source is read. -/
def constantly {α : Type} (step : Parse α) : Parse α := do
  let outer := (← get).isConstant
  modify fun reading => { reading with isConstant := true }
  let found ← step
  modify fun reading => { reading with isConstant := outer }
  return found

/-- Reads an expression that has a value while the source is read. -/
def constantHere (g : Grammar) : Parse (CType × Value) := do
  let spares := (← get).work.spares
  changeWork fun work => { work with spares := [] }
  let found ← constantly do g.evaluate (← g.conditional)
  changeWork fun work => { work with spares }
  return found

end Parse

end KernelCache.C

/-! ## Objects of classes, from their making to their end -/

namespace KernelCache.C

open KernelCache.Code (Term Value Kind Instruction Linkage)

namespace Parse

/-! ### Tables of functions -/

/-- The parts of an object that know their own type: how far they are from the start, and their
classes. -/
def tablesIn (records : Std.TreeMap String Record) : Nat → String → Nat → Bool → List (Nat × String)
  | 0, _, _, _ => []
  | fuel + 1, tag, offset, isShared =>
    match records[tag]? with
    | none => []
    | some record =>
      let own := if record.hasTable && !isShared then [(offset, tag)] else []
      let isFirst (base : Base) : Bool :=
        base.offset == 0 && (records[base.tag]?).any (·.hasTable)
      own ++ record.bases.flatMap fun base =>
        tablesIn records fuel base.tag (offset + base.offset) (record.hasTable && isFirst base)

/-- The symbol of a table for the part of an object at a distance. -/
def tableSymbol (tag : String) (distance : Nat) : String :=
  let symbol := "_ZTV" ++ Symbol.ofType (.record tag)
  if distance = 0 then symbol else symbol ++ "+" ++ toString distance

/-- Makes an object know its own type. -/
def storeTables (tag : String) (target : Term) : Parse (List Term) := do
  let records := (← get).records
  let places := tablesIn records searchDepth tag 0 false
  if !places.isEmpty then
    modify fun reading => { reading with
      neededTables := reading.neededTables.insert tag () }
  return places.map fun (distance, _) =>
    .store .address (target.shifted distance)
      ((Term.address (tableSymbol tag distance)).shifted 16)

/-- The function that replaces all others of a key in a class, and the class it belongs to. -/
def overrider? (records : Std.TreeMap String Record) (key : String) : Nat → String → Option Nat
  | 0, _ => none
  | fuel + 1, tag => do
    let record ← records[tag]?
    match record.overridables.find? fun entry => entry.key == key with
    | some entry => return entry.function
    | none => record.bases.findSome? fun base => overrider? records key fuel base.tag

/-- A routine that calls a function on the object that is so far in front of the given one. -/
def thunk (function : Function) (back : Nat) : Parse String := do
  let symbol := function.symbol ++ "-" ++ toString back
  let reading ← get
  if reading.piece.routines.any fun routine => routine.symbol == symbol then return symbol
  else
    let hidden : List Kind := if function.result.tag?.isSome then [.address] else []
    let kinds := hidden ++ Kind.address :: function.parameters.map fun parameter =>
      if parameter.type.tag?.isSome then .address else (parameter.type.kind?).getD .int
    let (places, room) := kinds.foldl (fun (places, room) kind =>
      let offset := Code.roundUp room (max 1 kind.size)
      (places ++ [(kind, offset)], offset + kind.size)) ([], 0)
    let values := places.zipIdx.map fun ((kind, offset), index) =>
      let value := Term.load kind (.place offset)
      if index = hidden.length then Term.binary .sub .address value (.word back) else value
    let call := Term.call (.address function.symbol) values
    let routine : Code.Routine :=
      { symbol, linkage := .shared, room, parameters := places
        instructions := call.instructions ++ [.answer] }
    modify fun reading => { reading with
      piece := { reading.piece with routines := reading.piece.routines ++ [routine] } }
    return symbol

/-- What stands in a table for an entry. -/
def tableEntry (tag owner : String) (distance : Nat) (entry : Overridable) : Parse Term := do
  let records := (← get).records
  let number := (overrider? records entry.key searchDepth tag).getD entry.function
  let function ← functionAt number
  if function.isPure then return .address "__cxa_pure_virtual"
  else
    let plain ← addressOfFunction number
    let own := function.owner.getD owner
    let place := (baseWay? records searchDepth tag own).getD distance
    if place < distance then return .address (← thunk function (distance - place))
    else return plain

/-- Writes down the tables of a class. -/
def emitTable (tag : String) : Parse Unit := do
  let records := (← get).records
  let info ← typeSymbol (.record tag)
  (tablesIn records searchDepth tag 0 false).forM fun (distance, owner) => do
    let record ← recordAt owner
    let symbol := tableSymbol tag distance
    let entries ← record.overridables.mapM fun entry => tableEntry tag owner distance entry
    addObject
      { symbol, linkage := .shared, size := 16 + 8 * entries.length, alignment := 8
        isConstant := true }
    let target := Term.address symbol
    let first := Term.store .address target (.word (Value.bitsOf 8 (-(distance : Int))))
    let second := Term.store .address (target.shifted 8) (.address info)
    let others := entries.zipIdx.map fun (term, index) =>
      Term.store .address (target.shifted (16 + 8 * index)) term
    modify fun reading => { reading with
      presets := reading.presets
        ++ [(symbol, (first :: second :: others).flatMap Term.effect)] }

/-- Writes down the tables that are needed. -/
def emitTables (g : Grammar) : Nat → Std.TreeMap String Unit → Parse Unit
  | 0, _ => failure
  | fuel + 1, done => do
    settleFunctions g functionDepth
    let needed := (← get).neededTables
    let fresh := needed.toList.filter fun entry => !done.contains entry.1
    if fresh.isEmpty then return ()
    else
      fresh.forM fun entry => emitTable entry.1
      emitTables g fuel needed

/-- Writes down what tells types apart. -/
def emitTypes : Nat → Std.TreeMap String Unit → Parse Unit
  | 0, _ => failure
  | fuel + 1, done => do
    let needed := (← get).neededTypes
    let fresh := needed.toList.filter fun entry => !done.contains entry.1
    if fresh.isEmpty then return ()
    else
      fresh.forM fun (symbol, type) => do
        let bases ← (do
          match type.tag? with
          | some tag => pure (← recordAt tag).bases
          | none => pure [] : Parse (List Base))
        let baseSymbols ← bases.mapM fun base => typeSymbol (.record base.tag)
        let (_, name) ← valueOf (← plainText (Symbol.ofType type))
        addObject
          { symbol, linkage := .shared, size := 24 + 16 * bases.length, alignment := 8
            isConstant := true }
        let target := Term.address symbol
        let own := [Term.store .address (target.shifted 8) name,
          .store .address (target.shifted 16) (.word bases.length)]
        let others := (bases.zip baseSymbols).zipIdx.flatMap fun ((base, other), index) =>
          [Term.store .address (target.shifted (24 + 16 * index)) (.address other),
            .store .address (target.shifted (32 + 16 * index)) (.word base.offset)]
        modify fun reading => { reading with
          presets := reading.presets ++ [(symbol, (own ++ others).flatMap Term.effect)] }
      emitTypes fuel (fresh.foldl (fun done entry => done.insert entry.1 ()) done)

/-! ### Making parts -/

/-- What the source says about the start of a part of an object. -/
structure Start where
  /-- The class of the part, or the name of a member. -/
  tag : Option String
  name : String
  operands : List Operand
  isList : Bool

/-- Reads how the parts of an object start. -/
def startsHere (g : Grammar) : Parse (List Start) := do
  if (← get).tokens.isEmpty then return []
  else
    let one : Parse Start := do
      let reading ← get
      let isField : Bool ← (do
        match reading.tokens with
        | .name name :: .mark text :: _ =>
          if text == "(" || text == "\x7b" then
            match classOf? reading searchDepth reading.scope with
            | some tag => pure (hasField reading.records searchDepth tag name)
            | none => pure false
          else pure false
        | _ => pure false)
      let (tag, name) ← (do
        if isField then
          let name ← identifier
          pure (none, name)
        else
          let type ← namedType g
          pure (some (← orFail type.tag?), "") : Parse (Option String × String))
      if ← sees "(" then return { tag, name, operands := ← arguments g, isList := false }
      else
        match ← g.initial with
        | .braces items => return { tag, name, operands := items.map (·.2), isList := true }
        | _ => failure
    let found ← separated (expandable one)
    return found.flatten

/-- Makes a part of an object from what the source says. -/
def startPart (g : Grammar) (type : CType) (bits : Option (Nat × Nat)) (start : Start)
    (target : Term) : Parse Term := do
  let list : Operand := .braces (start.operands.map fun operand => ([], operand))
  match bits with
  | some _ => do
    let place := Operand.place type.bare target bits false
    let operand := start.operands.headD (.int 0)
    writeTo place (← convertedTo g type operand) false
  | none =>
    match type with
    | .reference _ _ =>
      match start.operands with
      | [operand] => g.build type operand target
      | _ => failure
    | type =>
      if start.isList then
        match type.bare.tag?, start.operands with
        | none, [] => g.start true type target
        | none, [operand] =>
          if type.isArray then g.build type list target else g.build type operand target
        | _, _ => g.build type list target
      else if start.operands.isEmpty then g.start true type target
      else g.make type start.operands target

/-- Makes the parts of an object where its constructor starts. -/
def startMembers (g : Grammar) (tag : String) (starts : List Start) (target : Term) :
    Parse (List Instruction) := do
  let record ← recordAt tag
  match starts.find? fun start => start.tag == some tag with
  | some start => do
    let made ← finished (← startPart g (.record tag) none start target)
    return made.effect
  | none => do
    let bases ← record.bases.mapM fun base => do
      let place := target.shifted base.offset
      let type := CType.record base.tag
      match starts.find? fun start => start.tag == some base.tag with
      | some start => do
        return (← finished (← startPart g type none start place)).effect
      | none => do
        return (← finished (← g.start false type place)).effect
    let tables ← storeTables tag target
    let fields ← record.fields.mapM fun field => do
      let place := target.shifted field.offset
      match starts.find? fun start => start.tag.isNone && start.name == field.name with
      | some start =>
        if field.name != "" then
          return (← finished (← startPart g field.type field.bits start place)).effect
        else return []
      | none =>
        if field.name = "" then
          let records := (← get).records
          let inner ← starts.mapM fun start => do
            match (field.type.tag?).bind fun tag => fieldWay? records start.name searchDepth tag with
            | some (distance, found, _) => do
              let place := place.shifted distance
              return (← finished (← startPart g found.type found.bits start place)).effect
            | none => return []
          return inner.flatten
        else if record.isUnion && field.initial.isNone then return []
        else
          match field.initial with
          | some tokens => do
            let operand ← inScope record.scope (within tokens g.initial)
            let part : Part :=
              { name := field.name, type := field.type, offset := field.offset, bits := field.bits
                initial := none }
            return (← finished (← buildPart g part place operand)).effect
          | none => do
            if field.bits.isSome then return []
            else
              match field.type with
              | .reference _ _ => failure
              | type => return (← finished (← g.start false type place)).effect
    return bases.flatten ++ tables.flatMap Term.effect ++ fields.flatten

/-- Ends the parts of an object behind its destructor. -/
def endMembers (g : Grammar) (tag : String) (target : Term) : Parse (List Instruction) := do
  let record ← recordAt tag
  if record.isUnion then return []
  else
    let fields ← record.fields.reverse.mapM fun field =>
      if field.bits.isSome then pure [] else ending g field.type (target.shifted field.offset)
    let bases ← record.bases.reverse.mapM fun base =>
      ending g (.record base.tag) (target.shifted base.offset)
    return fields.flatten ++ bases.flatten

/-! ### Functions that nobody wrote -/

/-- What a function does to every part of an object and the same part of another one. -/
def eachPart (g : Grammar) (tag : String) (target source : Term) (isSpare isConst assigns : Bool) :
    Parse (List Instruction) := do
  let record ← recordAt tag
  if record.isUnion then return (Term.copy record.size target source).effect
  else
    let part (type : CType) (bits : Option (Nat × Nat)) (goal origin : Term) :
        Parse (List Instruction) := do
      let operand : Operand := match type with
        | .reference _ inner => .place inner (.load .address origin) none false
        | type => .place (if isConst then type.constant else type) origin bits isSpare
      if assigns then
        match type.bare with
        | .array count item => do
          let size ← sizeOf item
          if item.tag?.isSome then
            eachItem (.word (count.getD 0)) size goal false fun place => do
              let distance := Term.binary .sub .address place goal
              let other := Term.binary .add .address origin distance
              let result ← assigned g (.place item place none false)
                (.place item other none isSpare)
              return (← finished (← effectOf g result)).effect
          else return (Term.copy (← sizeOf type) goal origin).effect
        | _ => do
          let result ← assigned g (.place type.bare goal bits false) operand
          return (← finished (← effectOf g result)).effect
      else
        match bits with
        | some _ => do
          let place := Operand.place type.bare goal bits false
          return (← writeTo place (← convertedTo g type operand) false).effect
        | none => do
          let wanted := match type with
            | .reference _ inner => CType.reference false inner
            | type => type
          return (← finished (← g.build wanted operand goal)).effect
    let bases ← record.bases.mapM fun base =>
      part (.record base.tag) none (target.shifted base.offset) (source.shifted base.offset)
    let tables ← if assigns then pure [] else storeTables tag target
    let fields ← record.fields.mapM fun field =>
      part field.type field.bits (target.shifted field.offset) (source.shifted field.offset)
    return bases.flatten ++ tables.flatMap Term.effect ++ fields.flatten

/-- Whether all parts of two objects are equal. -/
def equalParts (g : Grammar) (tag : String) (left right : Term) : Parse Term := do
  let record ← recordAt tag
  let test (type : CType) (bits : Option (Nat × Nat)) (a b : Term) : Parse Term := do
    truth g (← binary g "==" (.place type.constant a bits false) (.place type.constant b bits false))
  let bases ← record.bases.mapM fun base =>
    test (.record base.tag) none (left.shifted base.offset) (right.shifted base.offset)
  let fields ← record.fields.mapM fun field =>
    test field.type field.bits (left.shifted field.offset) (right.shifted field.offset)
  return (bases ++ fields).foldr (fun first rest => Term.both first rest) (.word 1)

/-- What a function does that nobody wrote; the last step may yield an answer. -/
def defaultBody (g : Grammar) (tag : String) (kind : Default) (target : Term)
    (source : Option Term) : Parse (List Instruction) := do
  let source := source.getD .nothing
  match kind with
  | .create => startMembers g tag [] target
  | .destroy => return []
  | .copy => eachPart g tag target source false true false
  | .move => eachPart g tag target source true false false
  | .copyAssign => do
    return (← eachPart g tag target source false true true) ++ target.instructions ++ [.answer]
  | .moveAssign => do
    return (← eachPart g tag target source true false true) ++ target.instructions ++ [.answer]
  | .compareEqual => do
    return (← finished (← equalParts g tag target source)).instructions ++ [.answer]

end Parse

end KernelCache.C
